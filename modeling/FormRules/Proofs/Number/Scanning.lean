/-
Longest beginnings.

A reader of a text that splits off the longest beginning of some form determines which texts have this
form, and each of them is read in one way.  Numerals, signed numbers and integers are read so.
-/
import FormRules.Proofs.Number.Spelling
import Mathlib.Data.List.TakeWhile

namespace FormRules

open Text

/-- A beginning of a text with a property that no longer beginning has. -/
structure IsLongestPrefix (Holds : List Char → Prop) (part text : List Char) : Prop where
  isPrefix : part <+: text
  holds : Holds part
  length_le : ∀ other, other <+: text → Holds other → other.length ≤ part.length

theorem IsLongestPrefix.unique {Holds : List Char → Prop} {part other text : List Char}
    (h : IsLongestPrefix Holds part text) (hother : IsLongestPrefix Holds other text) :
    part = other := by
  have hle := hother.length_le part h.isPrefix h.holds
  have hle' := h.length_le other hother.isPrefix hother.holds
  exact (List.prefix_of_prefix_length_le h.isPrefix hother.isPrefix hle).eq_of_length_le hle'

/-- A reader splits the longest part of a form off the front of a text and tells what it spells. -/
structure ReadsLongest {α : Type} (Spells : α → List Char → Prop)
    (read? : List Char → Option (α × List Char)) : Prop where
  sound : ∀ {text rest : List Char} {a : α}, read? text = some (a, rest) →
    ∃ part, Spells a part ∧ text = part ++ rest
  complete : ∀ {a : α} {part : List Char}, Spells a part → ∀ rest : List Char,
    ∃ b rest', read? (part ++ rest) = some (b, rest') ∧ rest' <:+ rest ∧ (rest = [] → b = a)

namespace ReadsLongest

variable {α : Type} {Spells : α → List Char → Prop} {read? : List Char → Option (α × List Char)}
  {text part rest : List Char} {a b : α}

theorem read?_self (h : ReadsLongest Spells read?) (hpart : Spells a part) :
    read? part = some (a, []) := by
  obtain ⟨b, rest, hread, hrest, hsame⟩ := h.complete hpart []
  rw [List.append_nil, List.suffix_nil.mp hrest, hsame rfl] at hread
  exact hread

theorem unique (h : ReadsLongest Spells read?) (ha : Spells a part) (hb : Spells b part) : a = b := by
  have hread := (h.read?_self ha).symm.trans (h.read?_self hb)
  simpa using hread

theorem read?_eq_some_nil_iff (h : ReadsLongest Spells read?) :
    read? text = some (a, []) ↔ Spells a text := by
  refine ⟨fun hread => ?_, h.read?_self⟩
  obtain ⟨part, hpart, rfl⟩ := h.sound hread
  rwa [List.append_nil]

/-- What is read is spelled by the longest beginning of the form. -/
theorem isLongestPrefix_of_read? (h : ReadsLongest Spells read?) (hread : read? text = some (a, rest)) :
    ∃ part, Spells a part ∧ IsLongestPrefix (fun part => ∃ a, Spells a part) part text := by
  obtain ⟨part, hpart, rfl⟩ := h.sound hread
  refine ⟨part, hpart, List.prefix_append part rest, ⟨a, hpart⟩, ?_⟩
  rintro other ⟨more, hmore⟩ ⟨b, hother⟩
  obtain ⟨c, rest', hread', hrest', _⟩ := h.complete hother more
  rw [hmore, hread] at hread'
  obtain ⟨_, rfl⟩ : a = c ∧ rest = rest' := by simpa using hread'
  have hlength := congrArg List.length hmore
  have hle := hrest'.length_le
  simp only [List.length_append] at hlength
  omega

theorem read?_eq_none_iff (h : ReadsLongest Spells read?) :
    read? text = none ↔ ¬ ∃ part, part <+: text ∧ ∃ a, Spells a part := by
  constructor
  · rintro hnone ⟨part, ⟨rest, rfl⟩, a, hpart⟩
    obtain ⟨b, rest', hread, _⟩ := h.complete hpart rest
    rw [hnone] at hread
    cases hread
  · intro hnot
    cases hread : read? text with
    | none => rfl
    | some result =>
        obtain ⟨part, hpart, rfl⟩ := h.sound hread
        exact absurd ⟨part, List.prefix_append part _, _, hpart⟩ hnot

end ReadsLongest

/-- A text whose first character is no sign. -/
def IsUnsigned (text : List Char) : Prop :=
  ∃ c rest, text = c :: rest ∧ c ≠ '+' ∧ c ≠ '-'

theorem scanSign_append {negative : Bool} {sign body : List Char} (h : SpellsSign negative sign)
    (hbody : IsUnsigned body) (rest : List Char) :
    Numeral.scanSign (sign ++ (body ++ rest)) = (negative, body ++ rest) := by
  obtain ⟨c, tail, rfl, hplus, hminus⟩ := hbody
  cases h with
  | bare =>
      rw [List.nil_append, List.cons_append, Numeral.scanSign]
      · exact fun _ htext => hminus (List.cons_eq_cons.mp htext).1
      · exact fun _ htext => hplus (List.cons_eq_cons.mp htext).1
  | plus => rfl
  | minus => rfl

theorem exists_of_scanSign {negative : Bool} {text body : List Char}
    (h : Numeral.scanSign text = (negative, body)) :
    ∃ sign, SpellsSign negative sign ∧ text = sign ++ body := by
  unfold Numeral.scanSign at h
  split at h <;> obtain ⟨rfl, rfl⟩ := Prod.mk.inj h
  · exact ⟨['-'], .minus, rfl⟩
  · exact ⟨['+'], .plus, rfl⟩
  · exact ⟨[], .bare, rfl⟩

/-- Splits a signed magnitude off the front of a text. -/
def readSigned {α : Type} (read? : List Char → Option (α × List Char)) (text : List Char) :
    Option ((Bool × α) × List Char) :=
  let (negative, body) := Numeral.scanSign text
  (read? body).map fun (a, rest) => ((negative, a), rest)

theorem ReadsLongest.signed {α : Type} {Spells : α → List Char → Prop}
    {read? : List Char → Option (α × List Char)} (h : ReadsLongest Spells read?)
    (hunsigned : ∀ {a : α} {body : List Char}, Spells a body → IsUnsigned body) :
    ReadsLongest (SpellsSigned Spells) (readSigned read?) where
  sound := by
    intro text rest a hread
    cases hsign : Numeral.scanSign text with
    | mk negative body =>
        simp only [readSigned, hsign, Option.map_eq_some_iff, Prod.mk.injEq] at hread
        obtain ⟨⟨b, rest⟩, hread, rfl, rfl⟩ := hread
        obtain ⟨sign, hspells, rfl⟩ := exists_of_scanSign hsign
        obtain ⟨part, hpart, rfl⟩ := h.sound hread
        exact ⟨sign ++ part, ⟨hspells, hpart⟩, (List.append_assoc ..).symm⟩
  complete := by
    rintro _ _ ⟨hsign, hbody⟩ rest
    obtain ⟨b, rest', hread, hrest, hsame⟩ := h.complete hbody rest
    refine ⟨(_, b), rest', ?_, hrest, fun hnil => by rw [hsame hnil]⟩
    simp only [readSigned, List.append_assoc, scanSign_append hsign (hunsigned hbody), hread,
      Option.map_some]

/-- The characters other than digits that stand at the borders of the parts of a number. -/
def marks : List Char := ['.', 'e', 'E', '+', '-', 'I', 'x', 'X']

theorem mem_marks {c : Char} (h : c = 'e' ∨ c = 'E') : c ∈ marks := by
  rcases h with rfl | rfl <;> decide

/-- A class of digits without these marks. -/
def IsDigitClass (isDigit : Char → Bool) : Prop := ∀ c ∈ marks, isDigit c = false

instance (isDigit : Char → Bool) : Decidable (IsDigitClass isDigit) :=
  List.decidableBAll (fun c => isDigit c = false) marks

theorem isDigitClass_isAsciiDigit : IsDigitClass isAsciiDigit := by
  decide

theorem isDigitClass_isDecimalDigit : IsDigitClass isDecimalDigit := by
  decide

namespace IsDigitClass

variable {isDigit : Char → Bool}

theorem ne (hclass : IsDigitClass isDigit) {c mark : Char} (hc : isDigit c = true)
    (hmark : mark ∈ marks) : c ≠ mark := by
  rintro rfl
  rw [hclass c hmark] at hc
  cases hc

theorem isUnsigned (hclass : IsDigitClass isDigit) {digits : List Char}
    (h : IsDigits isDigit digits) : IsUnsigned digits := by
  obtain ⟨c, rest, rfl⟩ := List.exists_cons_of_ne_nil h.1
  have hc := h.2 c List.mem_cons_self
  exact ⟨c, rest, rfl, hclass.ne hc (by decide), hclass.ne hc (by decide)⟩

theorem takeWhile_eq_nil (hclass : IsDigitClass isDigit) {c : Char}
    (hc : c ∈ marks) (rest : List Char) :
    (c :: rest).takeWhile isDigit = [] :=
  List.takeWhile_cons_of_neg (by simp [hclass c hc])

theorem dropWhile_eq_self (hclass : IsDigitClass isDigit) {c : Char}
    (hc : c ∈ marks) (rest : List Char) :
    (c :: rest).dropWhile isDigit = c :: rest :=
  List.dropWhile_cons_of_neg (by simp [hclass c hc])

end IsDigitClass

theorem isDigits_takeWhile {isDigit : Char → Bool} {text : List Char}
    (h : text.takeWhile isDigit ≠ []) : IsDigits isDigit (text.takeWhile isDigit) :=
  ⟨h, fun _ hc => List.mem_takeWhile_imp hc⟩

namespace Numeral

variable {isDigit : Char → Bool} {text rest part : List Char}
  {exponent : Option (Bool × List Char)}

/-- An exponent, or nothing, is split off the front of a text. -/
theorem scanExponent_spec (isDigit : Char → Bool) (text : List Char) :
    ∃ part, SpellsExponent isDigit (scanExponent isDigit text).1 part ∧
      text = part ++ (scanExponent isDigit text).2 := by
  cases text with
  | nil => exact ⟨[], .absent, rfl⟩
  | cons mark tail =>
      by_cases hmark : mark = 'e' ∨ mark = 'E'
      · cases hsign : scanSign tail with
        | mk negative body =>
            obtain ⟨sign, hspells, rfl⟩ := exists_of_scanSign hsign
            simp only [scanExponent, if_pos hmark, hsign, List.isEmpty_iff]
            split
            · exact ⟨[], .absent, rfl⟩
            · rename_i hdigits
              refine ⟨_, .marked hmark hspells (isDigits_takeWhile hdigits), ?_⟩
              rw [List.cons_append, List.append_assoc, List.takeWhile_append_dropWhile]
      · simp only [scanExponent, if_neg hmark]
        exact ⟨[], .absent, rfl⟩

theorem scanExponent_suffix (isDigit : Char → Bool) (text : List Char) :
    (scanExponent isDigit text).2 <:+ text := by
  obtain ⟨part, _, htext⟩ := scanExponent_spec isDigit text
  exact ⟨part, htext.symm⟩

theorem SpellsExponent.takeWhile_eq_nil (hclass : IsDigitClass isDigit)
    (h : SpellsExponent isDigit exponent part) : part.takeWhile isDigit = [] := by
  cases h with
  | absent => rfl
  | marked hmark => exact hclass.takeWhile_eq_nil (mem_marks hmark) _

/-- Behind digits an exponent is read to its end, and more only if more digits follow. -/
theorem scanExponent_append (hclass : IsDigitClass isDigit)
    (h : SpellsExponent isDigit exponent part) (rest : List Char) :
    (scanExponent isDigit ((part ++ rest).dropWhile isDigit)).2 <:+ rest ∧
      (rest = [] → (scanExponent isDigit ((part ++ rest).dropWhile isDigit)).1 = exponent) := by
  cases h with
  | absent =>
      refine ⟨(scanExponent_suffix ..).trans (List.dropWhile_suffix _), ?_⟩
      rintro rfl
      rfl
  | @marked mark negative sign digits hmark hsign hdigits =>
      have hread : scanExponent isDigit (mark :: (sign ++ (digits ++ rest))) =
          (some (negative, digits ++ rest.takeWhile isDigit), rest.dropWhile isDigit) := by
        simp only [scanExponent, if_pos hmark, scanSign_append hsign (hclass.isUnsigned hdigits),
          List.takeWhile_append_of_pos hdigits.2, List.dropWhile_append_of_pos hdigits.2]
        rw [if_neg (by simp [hdigits.1])]
      rw [List.cons_append, List.append_assoc, hclass.dropWhile_eq_self (mem_marks hmark), hread]
      refine ⟨List.dropWhile_suffix _, ?_⟩
      rintro rfl
      rw [List.takeWhile_nil, List.append_nil]

section Point

variable {tail : List Char}

theorem scan?_of_point (hpoint : text.dropWhile isDigit = '.' :: tail) :
    scan? isDigit text =
      if text.takeWhile isDigit = [] ∧ tail.takeWhile isDigit = [] then none
      else some (⟨text.takeWhile isDigit, some (tail.takeWhile isDigit),
        (scanExponent isDigit (tail.dropWhile isDigit)).1⟩,
        (scanExponent isDigit (tail.dropWhile isDigit)).2) := by
  simp [scan?, hpoint]

theorem scan?_of_no_point (hpoint : ∀ tail, text.dropWhile isDigit ≠ '.' :: tail) :
    scan? isDigit text =
      if text.takeWhile isDigit = [] then none
      else some (⟨text.takeWhile isDigit, none,
        (scanExponent isDigit (text.dropWhile isDigit)).1⟩,
        (scanExponent isDigit (text.dropWhile isDigit)).2) := by
  unfold scan?
  dsimp only
  split
  · rename_i tail htail
    exact absurd htail (hpoint tail)
  · simp

end Point

/-- A numeral is read from a text that begins with its spelling. -/
theorem exists_of_scan? {n : Numeral} (h : scan? isDigit text = some (n, rest)) :
    ∃ part, n.Spells isDigit part ∧ text = part ++ rest := by
  have htext := (List.takeWhile_append_dropWhile (p := isDigit) (l := text)).symm
  by_cases hpoint : ∃ tail, text.dropWhile isDigit = '.' :: tail
  · obtain ⟨tail, htail⟩ := hpoint
    rw [scan?_of_point htail, Option.ite_none_left_eq_some] at h
    obtain ⟨hdigits, hread⟩ := h
    obtain ⟨rfl, rfl⟩ := Prod.mk.inj (Option.some.inj hread)
    obtain ⟨part, hpart, hbehind⟩ := scanExponent_spec isDigit (tail.dropWhile isDigit)
    have hsplit : tail = tail.takeWhile isDigit ++ (part ++
        (scanExponent isDigit (tail.dropWhile isDigit)).2) := by
      rw [← hbehind, List.takeWhile_append_dropWhile]
    by_cases hnone : text.takeWhile isDigit = []
    · rw [hnone] at hdigits htext ⊢
      refine ⟨_, .fraction (isDigits_takeWhile (not_and.mp hdigits rfl)) hpart, ?_⟩
      rw [htext, htail, List.nil_append, List.cons_append, List.append_assoc, ← hsplit]
    · refine ⟨_, .pointed (isDigits_takeWhile hnone) (fun _ hc => List.mem_takeWhile_imp hc) hpart,
        ?_⟩
      rw [List.append_assoc, List.cons_append, List.append_assoc, ← hsplit, ← htail, ← htext]
  · rw [not_exists] at hpoint
    rw [scan?_of_no_point hpoint, Option.ite_none_left_eq_some] at h
    obtain ⟨hdigits, hread⟩ := h
    obtain ⟨rfl, rfl⟩ := Prod.mk.inj (Option.some.inj hread)
    obtain ⟨part, hpart, hbehind⟩ := scanExponent_spec isDigit (text.dropWhile isDigit)
    refine ⟨_, .whole (isDigits_takeWhile hdigits) hpart, ?_⟩
    rw [List.append_assoc, ← hbehind, ← htext]

theorem scan?_pointed (hclass : IsDigitClass isDigit) {digits places : List Char}
    (hdigits : ∀ c ∈ digits, isDigit c = true) (hplaces : ∀ c ∈ places, isDigit c = true)
    (hne : ¬ (digits = [] ∧ places = [])) (hpart : SpellsExponent isDigit exponent part)
    (rest : List Char) :
    ∃ n rest', scan? isDigit (digits ++ '.' :: (places ++ (part ++ rest))) = some (n, rest') ∧
      rest' <:+ rest ∧ (rest = [] → n = ⟨digits, some places, exponent⟩) := by
  have hmark : '.' ∈ marks := by decide
  have hpoint : (digits ++ '.' :: (places ++ (part ++ rest))).dropWhile isDigit =
      '.' :: (places ++ (part ++ rest)) := by
    rw [List.dropWhile_append_of_pos hdigits, hclass.dropWhile_eq_self hmark]
  obtain ⟨hsuffix, hexponent⟩ := scanExponent_append hclass hpart rest
  rw [scan?_of_point hpoint, List.takeWhile_append_of_pos hdigits, hclass.takeWhile_eq_nil hmark,
    List.append_nil, List.takeWhile_append_of_pos hplaces, List.dropWhile_append_of_pos hplaces,
    if_neg (fun hnil => hne ⟨hnil.1, (List.append_eq_nil_iff.mp hnil.2).1⟩)]
  refine ⟨_, _, rfl, hsuffix, ?_⟩
  rintro rfl
  rw [hexponent rfl, List.append_nil, hpart.takeWhile_eq_nil hclass, List.append_nil]

theorem scan?_whole (hclass : IsDigitClass isDigit) {digits : List Char}
    (hdigits : IsDigits isDigit digits) (hpart : SpellsExponent isDigit exponent part)
    (rest : List Char) :
    ∃ n rest', scan? isDigit (digits ++ (part ++ rest)) = some (n, rest') ∧
      rest' <:+ rest ∧ (rest = [] → n = ⟨digits, none, exponent⟩) := by
  have hdrop : (digits ++ (part ++ rest)).dropWhile isDigit = (part ++ rest).dropWhile isDigit :=
    List.dropWhile_append_of_pos hdigits.2
  have htake : (digits ++ (part ++ rest)).takeWhile isDigit =
      digits ++ (part ++ rest).takeWhile isDigit := List.takeWhile_append_of_pos hdigits.2
  have hne : (digits ++ (part ++ rest)).takeWhile isDigit ≠ [] := by
    rw [htake]
    exact fun hnil => hdigits.1 (List.append_eq_nil_iff.mp hnil).1
  by_cases hpoint : ∃ tail, (digits ++ (part ++ rest)).dropWhile isDigit = '.' :: tail
  · -- A point comes from behind the numeral, which then has no exponent.
    obtain ⟨tail, htail⟩ := hpoint
    have htail' := hdrop.symm.trans htail
    have hsuffix : '.' :: tail <:+ rest := by
      rw [← htail']
      cases hpart with
      | absent => exact List.dropWhile_suffix _
      | marked hmark =>
          rw [List.cons_append, hclass.dropWhile_eq_self (mem_marks hmark), List.cons_eq_cons] at htail'
          rcases hmark with rfl | rfl <;> cases htail'.1
    rw [scan?_of_point htail, if_neg (fun hnil => hne hnil.1)]
    refine ⟨_, _, rfl, ?_, ?_⟩
    · exact (scanExponent_suffix ..).trans
        ((List.dropWhile_suffix _).trans ((List.suffix_cons '.' tail).trans hsuffix))
    · rintro rfl
      cases List.suffix_nil.mp hsuffix
  · rw [not_exists] at hpoint
    obtain ⟨hsuffix, hexponent⟩ := scanExponent_append hclass hpart rest
    rw [scan?_of_no_point hpoint, if_neg hne, hdrop]
    refine ⟨_, _, rfl, hsuffix, ?_⟩
    rintro rfl
    rw [hexponent rfl, htake, List.append_nil, hpart.takeWhile_eq_nil hclass, List.append_nil]

/-- The longest numeral is read from the front of a text. -/
theorem readsLongest_scan? (hclass : IsDigitClass isDigit) :
    ReadsLongest (Spells isDigit) (scan? isDigit) where
  sound := exists_of_scan?
  complete := by
    rintro n part (⟨hdigits, hpart⟩ | ⟨hdigits, hplaces, hpart⟩ | ⟨hplaces, hpart⟩) rest
    · rw [List.append_assoc]
      exact scan?_whole hclass hdigits hpart rest
    · rw [List.append_assoc, List.cons_append, List.append_assoc]
      exact scan?_pointed hclass hdigits.2 hplaces (fun hnil => hdigits.1 hnil.1) hpart rest
    · rw [List.cons_append, List.append_assoc]
      exact scan?_pointed hclass (List.forall_mem_nil _) hplaces.2 (fun hnil => hplaces.1 hnil.2) hpart
        rest

/-- A numeral begins with a digit or a point. -/
theorem Spells.head {n : Numeral} (h : n.Spells isDigit part) :
    ∃ c rest, part = c :: rest ∧ (isDigit c = true ∨ c = '.') := by
  have hdigits : ∀ {digits rest : List Char}, IsDigits isDigit digits →
      ∃ c tail, digits ++ rest = c :: tail ∧ (isDigit c = true ∨ c = '.') := by
    intro digits rest hdigits
    obtain ⟨c, tail, rfl⟩ := List.exists_cons_of_ne_nil hdigits.1
    exact ⟨c, tail ++ rest, rfl, Or.inl (hdigits.2 c List.mem_cons_self)⟩
  cases h with
  | whole h => exact hdigits h
  | pointed h => exact hdigits h
  | fraction => exact ⟨'.', _, rfl, Or.inr rfl⟩

theorem Spells.isUnsigned (hclass : IsDigitClass isDigit) {n : Numeral}
    (h : n.Spells isDigit part) : IsUnsigned part := by
  obtain ⟨c, rest, rfl, hc | rfl⟩ := h.head
  · exact ⟨c, rest, rfl, hclass.ne hc (by decide), hclass.ne hc (by decide)⟩
  · exact ⟨'.', rest, rfl, by decide, by decide⟩

end Numeral

end FormRules
