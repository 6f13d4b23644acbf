/-
The number at the beginning of a text.

The float or integer at the beginning of a text is the longest one that is spelled there, whatever
follows it, as long as no digit of another script continues it and a hexadecimal integer keeps to 128
bits.
-/
import FormRules.Proofs.Number.Reading

namespace FormRules

open Text Coercion

/-- A way to write things in a class of digits: the digits are of this class and stand in the text, and
what is written is written in every class that has its digits. -/
structure IsNotation {α : Type} (Spells : (Char → Bool) → α → List Char → Prop)
    (digits : α → List Char) : Prop where
  isDigit_of_mem : ∀ {isDigit : Char → Bool} {a : α} {part : List Char}, Spells isDigit a part →
    ∀ c ∈ digits a, isDigit c = true
  mem_of_mem : ∀ {isDigit : Char → Bool} {a : α} {part : List Char}, Spells isDigit a part →
    ∀ c ∈ digits a, c ∈ part
  of_digits : ∀ {isDigit other : Char → Bool} {a : α} {part : List Char}, Spells isDigit a part →
    (∀ c ∈ digits a, other c = true) → Spells other a part

/-- A way to write numbers that is read with the digits of every script, where only common digits have a
value. -/
structure IsReadable {α : Type} (Spells : (Char → Bool) → α → List Char → Prop)
    (read? : (Char → Bool) → List Char → Option (α × List Char)) (digits : α → List Char)
    (toDouble : α → Double) : Prop extends IsNotation Spells digits where
  readsLongest : ∀ {isDigit : Char → Bool}, IsDigitClass isDigit →
    ReadsLongest (SpellsSigned (Spells isDigit)) (readSigned (read? isDigit))
  toDouble_eq_nan_iff : ∀ {a : α}, toDouble a = .nan ↔ ∃ c ∈ digits a, isAsciiDigit c = false

/-- A double is that of the number at the front of a text: not-a-number exactly if none is written
there, and else what the longest one denotes. -/
structure IsFront {α : Type} (Spells : α → List Char → Prop) (Denotes : Bool × α → Double → Prop)
    (text : List Char) (x : Double) : Prop where
  eq_nan_iff : x = .nan ↔ ¬ ∃ part, part <+: text ∧ IsWritten Spells part
  denotes : ∀ number part, SpellsSigned Spells number part →
    IsLongestPrefix (IsWritten Spells) part text → Denotes number x

/-- The longest number in common digits at the front of a text is not continued by digits of other
scripts. -/
def KeepsCommon {α : Type} (Spells : (Char → Bool) → α → List Char → Prop) (text : List Char) : Prop :=
  ∀ part, IsLongestPrefix (IsWritten (Spells isAsciiDigit)) part text →
    IsLongestPrefix (IsWritten (Spells isDecimalDigit)) part text

namespace IsReadable

variable {α : Type} {Spells : (Char → Bool) → α → List Char → Prop}
  {read? : (Char → Bool) → List Char → Option (α × List Char)} {digits : α → List Char}
  {toDouble : α → Double} {text part : List Char} {negative : Bool} {a : α}

theorem signed_of_digits (h : IsReadable Spells read? digits toDouble) {isDigit other : Char → Bool}
    (hpart : SpellsSigned (Spells isDigit) (negative, a) part)
    (hdigits : ∀ c ∈ digits a, other c = true) :
    SpellsSigned (Spells other) (negative, a) part := by
  obtain ⟨hsign, hbody⟩ := hpart
  exact ⟨hsign, h.of_digits hbody hdigits⟩

theorem isAsciiDigit_of_mem (h : IsReadable Spells read? digits toDouble)
    (hpart : SpellsSigned (Spells isAsciiDigit) (negative, a) part) :
    ∀ c ∈ digits a, isAsciiDigit c = true := by
  obtain ⟨_, hbody⟩ := hpart
  exact h.isDigit_of_mem hbody

theorem signed_any (h : IsReadable Spells read? digits toDouble)
    (hpart : SpellsSigned (Spells isAsciiDigit) (negative, a) part) :
    SpellsSigned (Spells isDecimalDigit) (negative, a) part :=
  h.signed_of_digits hpart fun c hc =>
    isDecimalDigit_of_isAsciiDigit (h.isAsciiDigit_of_mem hpart c hc)

/-- A text without digits of other scripts keeps to the common ones. -/
theorem keepsCommon (h : IsReadable Spells read? digits toDouble)
    (htext : ∀ c ∈ text, isDecimalDigit c = true → isAsciiDigit c = true) :
    KeepsCommon Spells text := by
  rintro part ⟨hfront, ⟨⟨negative, a⟩, hpart⟩, hlongest⟩
  refine ⟨hfront, ⟨_, h.signed_any hpart⟩, ?_⟩
  rintro other hother ⟨⟨negative', b⟩, hspells⟩
  refine hlongest other hother ⟨_, h.signed_of_digits hspells fun c hc => ?_⟩
  obtain ⟨_, hbody⟩ := hspells
  exact htext c (hother.subset (List.mem_append_right _ (h.mem_of_mem hbody c hc)))
    (h.isDigit_of_mem hbody c hc)

/-- The longest number in common digits is the one that is read if no digit of another script continues
it. -/
theorem frontDouble_eq (h : IsReadable Spells read? digits toDouble)
    (hcommon : KeepsCommon Spells text)
    (hpart : SpellsSigned (Spells isAsciiDigit) (negative, a) part)
    (hlongest : IsLongestPrefix (IsWritten (Spells isAsciiDigit)) part text) :
    frontDouble (read? isDecimalDigit) toDouble text = (toDouble a).withSign negative := by
  have hreads := h.readsLongest isDigitClass_isDecimalDigit
  have hany := h.signed_any hpart
  cases hread : readSigned (read? isDecimalDigit) text with
  | none => exact absurd ⟨part, hlongest.isPrefix, _, hany⟩ (hreads.read?_eq_none_iff.mp hread)
  | some result =>
      obtain ⟨⟨negative', b⟩, rest⟩ := result
      obtain ⟨part', hpart', hlongest'⟩ := hreads.isLongestPrefix_of_read? hread
      obtain rfl := hlongest'.unique (hcommon part hlongest)
      obtain ⟨rfl, rfl⟩ := Prod.mk.inj (hreads.unique hpart' hany)
      rw [frontDouble, hread]

theorem frontDouble_ne_nan (h : IsReadable Spells read? digits toDouble)
    (hcommon : KeepsCommon Spells text) (hfront : part <+: text)
    (hpart : IsWritten (Spells isAsciiDigit) part) :
    frontDouble (read? isDecimalDigit) toDouble text ≠ .nan := by
  have hreads := h.readsLongest isDigitClass_isAsciiDigit
  cases hread : readSigned (read? isAsciiDigit) text with
  | none => exact absurd ⟨part, hfront, hpart⟩ (hreads.read?_eq_none_iff.mp hread)
  | some result =>
      obtain ⟨⟨negative, a⟩, rest⟩ := result
      obtain ⟨longest, hspells, hlongest⟩ := hreads.isLongestPrefix_of_read? hread
      rw [h.frontDouble_eq hcommon hspells hlongest, ne_eq, Double.withSign_eq_nan_iff, h.toDouble_eq_nan_iff]
      rintro ⟨c, hc, hdigit⟩
      rw [h.isAsciiDigit_of_mem hspells c hc] at hdigit
      cases hdigit

/-- What is read as a number is the longest one in common digits too. -/
theorem exists_of_frontDouble_ne_nan (h : IsReadable Spells read? digits toDouble)
    (hnan : frontDouble (read? isDecimalDigit) toDouble text ≠ .nan) :
    ∃ part, IsWritten (Spells isAsciiDigit) part ∧
      IsLongestPrefix (IsWritten (Spells isDecimalDigit)) part text := by
  cases hread : readSigned (read? isDecimalDigit) text with
  | none => exact absurd (by rw [frontDouble, hread]) hnan
  | some result =>
      obtain ⟨⟨negative, a⟩, rest⟩ := result
      obtain ⟨part, hpart, hlongest⟩ :=
        (h.readsLongest isDigitClass_isDecimalDigit).isLongestPrefix_of_read? hread
      refine ⟨part, ⟨_, h.signed_of_digits hpart fun c hc => ?_⟩, hlongest⟩
      rw [frontDouble, hread, ne_eq, Double.withSign_eq_nan_iff, h.toDouble_eq_nan_iff, not_exists] at hnan
      exact Bool.of_not_eq_false fun hother => hnan c ⟨hc, hother⟩

/-- Digits of another script behind the number spoil it. -/
theorem frontDouble_eq_nan (h : IsReadable Spells read? digits toDouble)
    (hcommon : ¬ KeepsCommon Spells text) :
    frontDouble (read? isDecimalDigit) toDouble text = .nan := by
  by_contra hnan
  obtain ⟨part, hpart, hlongest⟩ := h.exists_of_frontDouble_ne_nan hnan
  refine hcommon fun other hother => ?_
  have hsame : other = part := by
    refine hother.unique ⟨hlongest.isPrefix, hpart, fun next hnext => ?_⟩
    rintro ⟨⟨negative, a⟩, hspells⟩
    exact hlongest.length_le next hnext ⟨_, h.signed_any hspells⟩
  rwa [hsame]

/-- A reader gives the number at the front of a text exactly where digits of other scripts do not
continue it. -/
theorem isFront_iff (h : IsReadable Spells read? digits toDouble)
    {Denotes : Bool × α → Double → Prop}
    (hdenotes : ∀ {a : α}, (∀ c ∈ digits a, isAsciiDigit c = true) →
      ∀ negative, Denotes (negative, a) ((toDouble a).withSign negative)) :
    IsFront (Spells isAsciiDigit) Denotes text (frontDouble (read? isDecimalDigit) toDouble text) ↔
      KeepsCommon Spells text := by
  constructor
  · rintro ⟨hnan, _⟩
    by_contra hcommon
    have hnone := hnan.mp (h.frontDouble_eq_nan hcommon)
    exact hcommon fun part hpart => absurd ⟨part, hpart.isPrefix, hpart.holds⟩ hnone
  · intro hcommon
    refine ⟨⟨?_, ?_⟩, ?_⟩
    · rintro hnan ⟨part, hfront, hpart⟩
      exact h.frontDouble_ne_nan hcommon hfront hpart hnan
    · intro hnone
      by_contra hnan
      obtain ⟨part, hpart, hlongest⟩ := h.exists_of_frontDouble_ne_nan hnan
      exact hnone ⟨part, hlongest.isPrefix, hpart⟩
    · rintro ⟨negative, a⟩ part hpart hlongest
      rw [h.frontDouble_eq hcommon hpart hlongest]
      exact hdenotes (h.isAsciiDigit_of_mem hpart) negative

end IsReadable

namespace Numeral

theorem isNotation_exponent :
    IsNotation SpellsExponent fun exponent => (exponent.map Prod.snd).getD [] where
  isDigit_of_mem := by
    rintro _ _ _ (_ | ⟨_, _, hdigits⟩)
    · exact List.forall_mem_nil _
    · exact hdigits.2
  mem_of_mem := by
    rintro _ _ _ (_ | _)
    · exact List.forall_mem_nil _
    · exact fun c hc => List.mem_cons_of_mem _ (List.mem_append_right _ hc)
  of_digits := by
    rintro _ _ _ _ (_ | ⟨hmark, hsign, hdigits⟩) hother
    · exact .absent
    · exact .marked hmark hsign ⟨hdigits.1, hother⟩

theorem isNotation : IsNotation Spells allDigits where
  isDigit_of_mem := by
    rintro isDigit _ _ (⟨hdigits, hpart⟩ | ⟨hdigits, hplaces, hpart⟩ | ⟨hplaces, hpart⟩) <;>
      simp only [allDigits, List.forall_mem_append]
    · exact ⟨⟨hdigits.2, List.forall_mem_nil _⟩, isNotation_exponent.isDigit_of_mem hpart⟩
    · exact ⟨⟨hdigits.2, hplaces⟩, isNotation_exponent.isDigit_of_mem hpart⟩
    · exact ⟨⟨List.forall_mem_nil _, hplaces.2⟩, isNotation_exponent.isDigit_of_mem hpart⟩
  mem_of_mem := by
    rintro isDigit _ _ (⟨hdigits, hpart⟩ | ⟨hdigits, hplaces, hpart⟩ | ⟨hplaces, hpart⟩) <;>
      have hexponent := isNotation_exponent.mem_of_mem hpart <;>
      simp only [allDigits, List.forall_mem_append] <;>
      grind
  of_digits := by
    rintro isDigit other _ _ (⟨hdigits, hpart⟩ | ⟨hdigits, hplaces, hpart⟩ | ⟨hplaces, hpart⟩) <;>
      simp only [allDigits, List.forall_mem_append] <;>
      rintro ⟨⟨hwhole, hfraction⟩, hexponent⟩
    · exact .whole ⟨hdigits.1, hwhole⟩ (isNotation_exponent.of_digits hpart hexponent)
    · exact .pointed ⟨hdigits.1, hwhole⟩ hfraction (isNotation_exponent.of_digits hpart hexponent)
    · exact .fraction ⟨hplaces.1, hfraction⟩ (isNotation_exponent.of_digits hpart hexponent)

/-- A numeral in common digits is turned into the nearest double. -/
theorem rounds_toDouble {n : Numeral} (h : ∀ c ∈ n.allDigits, isAsciiDigit c = true) :
    n.toDouble.Rounds false n.value := by
  rw [toDouble, if_pos (List.all_eq_true.mpr h), ← value_toDecimal]
  exact n.toDecimal.rounds_toDouble

theorem toDouble_eq_nan_iff {n : Numeral} :
    n.toDouble = .nan ↔ ∃ c ∈ n.allDigits, isAsciiDigit c = false := by
  constructor
  · intro hnan
    by_contra hnot
    push Not at hnot
    exact (rounds_toDouble fun c hc => Bool.of_not_eq_false (hnot c hc)).ne_nan hnan
  · rintro ⟨c, hc, hdigit⟩
    refine if_neg fun hall => ?_
    rw [List.all_eq_true.mp hall c hc] at hdigit
    cases hdigit

end Numeral

namespace Magnitude

def digits : Magnitude → List Char
  | infinite => []
  | finite n => n.allDigits

theorem isNotation : IsNotation Spells digits where
  isDigit_of_mem := by
    rintro _ _ _ (_ | hbody)
    · exact List.forall_mem_nil _
    · exact Numeral.isNotation.isDigit_of_mem hbody
  mem_of_mem := by
    rintro _ _ _ (_ | hbody)
    · exact List.forall_mem_nil _
    · exact Numeral.isNotation.mem_of_mem hbody
  of_digits := by
    rintro _ _ _ _ (_ | hbody) hother
    · exact .infinite
    · exact .finite (Numeral.isNotation.of_digits hbody hother)

theorem isReadable : IsReadable Spells read? digits toDouble where
  toIsNotation := isNotation
  readsLongest := readsLongest_float
  toDouble_eq_nan_iff := by
    rintro (_ | n)
    · simp [toDouble, digits, Double.infinity, Double.ofRank]
    · exact Numeral.toDouble_eq_nan_iff

theorem denotes_toDouble {magnitude : Magnitude}
    (h : ∀ c ∈ magnitude.digits, isAsciiDigit c = true) (negative : Bool) :
    Denotes (negative, magnitude) (magnitude.toDouble.withSign negative) := by
  cases magnitude with
  | infinite => exact rfl
  | finite n => exact (Numeral.rounds_toDouble h).withSign negative

end Magnitude

namespace Integer

def digits : Integer → List Char
  | decimal digits => digits
  | hexadecimal _ => []

theorem isNotation : IsNotation Spells digits where
  isDigit_of_mem := by
    rintro _ _ _ (hdigits | _)
    · exact hdigits.2
    · exact List.forall_mem_nil _
  mem_of_mem := by
    rintro _ _ _ (_ | _)
    · exact fun _ hc => hc
    · exact List.forall_mem_nil _
  of_digits := by
    rintro _ _ _ _ (hdigits | ⟨hmark, hdigits⟩) hother
    · exact .decimal ⟨hdigits.1, hother⟩
    · exact .hexadecimal hmark hdigits

theorem allDigits_decimal (digits : List Char) : (Numeral.mk digits none none).allDigits = digits := by
  simp [Numeral.allDigits]

theorem hexMagnitude_ne_nan (digits : List Char) : hexMagnitude digits ≠ .nan := by
  unfold hexMagnitude
  dsimp only
  split <;> exact nofun

theorem isReadable : IsReadable Spells read? digits toDouble where
  toIsNotation := isNotation
  readsLongest := readsLongest_integer
  toDouble_eq_nan_iff := by
    rintro (decimal | hexadecimal)
    · rw [toDouble, Numeral.toDouble_eq_nan_iff, allDigits_decimal, digits]
    · simp [toDouble, digits, hexMagnitude_ne_nan]

/-- A hexadecimal integer keeps to 128 bits, or else is too large for a finite double. -/
def Fits : Integer → Prop
  | decimal _ => True
  | hexadecimal digits =>
      placeValue 16 digits < 2 ^ 128 ∨ Double.infinity.Rounds false (placeValue 16 digits)

theorem value_decimal (digits : List Char) :
    (Numeral.mk digits none none).value = placeValue 10 digits := by
  simp [Numeral.value, Numeral.power, placeValue]

theorem rounds_decimal {digits : List Char} (h : ∀ c ∈ digits, isAsciiDigit c = true) :
    (decimal digits).toDouble.Rounds false (placeValue 10 digits) := by
  have hrounds := Numeral.rounds_toDouble (n := ⟨digits, none, none⟩) (by rwa [allDigits_decimal])
  rwa [value_decimal] at hrounds

theorem rounds_hexMagnitude {digits : List Char} (h : (hexadecimal digits).Fits) :
    (hexMagnitude digits).Rounds false (placeValue 16 digits) := by
  simp only [hexMagnitude, numberOf_eq_placeValue]
  split
  · exact Double.rounds_ofNat _
  · rename_i hwide
    exact h.resolve_left hwide

theorem denotes_toDouble {n : Integer} (h : ∀ c ∈ n.digits, isAsciiDigit c = true) (hfits : n.Fits)
    (negative : Bool) : Denotes (negative, n) (n.toDouble.withSign negative) := by
  refine Double.Rounds.withSign ?_ negative
  cases n with
  | decimal digits => exact rounds_decimal h
  | hexadecimal digits => exact rounds_hexMagnitude hfits

end Integer

/-- Each prefix reader gives the number at the front of a text exactly where digits of other scripts do
not continue it, apart from the value of a hexadecimal integer that is too wide. -/
theorem isFront_iff_keepsCommon (text : List Char) :
    (IsFront (Magnitude.Spells isAsciiDigit) Magnitude.Denotes (trimStart text) (parseFloat text) ↔
      KeepsCommon Magnitude.Spells (trimStart text)) ∧
    (IsFront (Integer.Spells isAsciiDigit) (fun n x => n.2.Fits → Integer.Denotes n x)
        (trimStart text) (parseInt text) ↔
      KeepsCommon Integer.Spells (trimStart text)) := by
  rw [parseFloat_eq, parseInt_eq]
  constructor
  · exact Magnitude.isReadable.isFront_iff Magnitude.denotes_toDouble
  · exact Integer.isReadable.isFront_iff fun hdigits negative hfits =>
      Integer.denotes_toDouble hdigits hfits negative

theorem isFront_of_hexadecimal :
    IsFront (Magnitude.Spells isAsciiDigit) Magnitude.Denotes (trimStart " -0x1Fg".toList)
      (parseFloat " -0x1Fg".toList) ∧
    IsFront (Integer.Spells isAsciiDigit) (fun n x => n.2.Fits → Integer.Denotes n x)
      (trimStart " -0x1Fg".toList) (parseInt " -0x1Fg".toList) ∧
    parseFloat " -0x1Fg".toList = Double.zero.neg ∧ parseInt " -0x1Fg".toList = (Double.ofNat 31).neg := by
  have htext : trimStart " -0x1Fg".toList = ['-', '0', 'x', '1', 'F', 'g'] := by decide
  have hdigits : ∀ c ∈ trimStart " -0x1Fg".toList, isDecimalDigit c = true → isAsciiDigit c = true := by
    simp only [htext, List.forall_mem_cons]
    exact ⟨by decide, by decide, by decide, by decide, by decide, by decide, List.forall_mem_nil _⟩
  obtain ⟨hfloat, hint⟩ := isFront_iff_keepsCommon " -0x1Fg".toList
  exact ⟨hfloat.mpr (Magnitude.isReadable.keepsCommon hdigits),
    hint.mpr (Integer.isReadable.keepsCommon hdigits), by decide +kernel, by decide +kernel⟩

/-- A digit of another script hides the number in front of it, and a hexadecimal integer of more than
128 bits is infinite before doubles are. -/
theorem not_isFront_of_otherDigit :
    ¬ IsFront (Magnitude.Spells isAsciiDigit) Magnitude.Denotes (trimStart ['1', '2', '\u0663'])
      (parseFloat ['1', '2', '\u0663']) ∧
    ¬ IsFront (Integer.Spells isAsciiDigit) Integer.Denotes (trimStart ['1', '2', '\u0663'])
      (parseInt ['1', '2', '\u0663']) ∧
    ¬ IsFront (Integer.Spells isAsciiDigit) Integer.Denotes
      (trimStart ('0' :: 'x' :: '1' :: List.replicate 32 '0'))
      (parseInt ('0' :: 'x' :: '1' :: List.replicate 32 '0')) := by
  have hdigits : IsDigits isAsciiDigit ['1', '2'] := by decide
  refine ⟨?_, ?_, ?_⟩
  · rintro ⟨hnan, _⟩
    exact hnan.mp (by decide +kernel) ⟨['1', '2'], ⟨['\u0663'], by decide⟩, _,
      .mk .bare (.finite (.whole hdigits .absent))⟩
  · rintro ⟨hnan, _⟩
    exact hnan.mp (by decide +kernel) ⟨['1', '2'], ⟨['\u0663'], by decide⟩, _,
      .mk .bare (.decimal hdigits)⟩
  · rintro ⟨_, hdenotes⟩
    have hhex : IsDigits (isDigitOf 16) ('1' :: List.replicate 32 '0') := by decide
    have hspells : SpellsSigned (Integer.Spells isAsciiDigit)
        (false, .hexadecimal ('1' :: List.replicate 32 '0'))
        ('0' :: 'x' :: '1' :: List.replicate 32 '0') :=
      .mk .bare (.hexadecimal (Or.inl rfl) hhex)
    have hinfinite := hdenotes _ _ hspells ⟨List.prefix_rfl, ⟨_, hspells⟩, fun _ h _ => h.length_le⟩
    have hvalue : placeValue 16 ('1' :: List.replicate 32 '0') = 2 ^ 128 := by
      rw [← numberOf_eq_placeValue]
      decide +kernel
    rw [Integer.Denotes, Integer.value, hvalue] at hinfinite
    have hsame := hinfinite.unique (Double.rounds_ofNat (2 ^ 128))
    revert hsame
    decide +kernel

end FormRules
