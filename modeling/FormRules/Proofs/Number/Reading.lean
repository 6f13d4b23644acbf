/-
The readers of numbers in texts.

Each of them splits the longest number of its form off the front of a text and turns what it spells
into a double.
-/
import FormRules.Proofs.Number.Scanning

namespace FormRules

open Text Coercion

namespace Magnitude

variable {isDigit : Char → Bool}

/-- Splits the word for infinity or a numeral off the front of a text. -/
def read? (isDigit : Char → Bool) (text : List Char) : Option (Magnitude × List Char) :=
  if infinityWord.isPrefixOf text then some (.infinite, text.drop infinityWord.length)
  else (Numeral.scan? isDigit text).map fun (n, rest) => (.finite n, rest)

theorem read?_of_numeral (hclass : IsDigitClass isDigit) {n : Numeral} {body : List Char}
    (h : n.Spells isDigit body) (rest : List Char) :
    read? isDigit (body ++ rest) =
      (Numeral.scan? isDigit (body ++ rest)).map fun (n, rest) => (.finite n, rest) := by
  refine if_neg fun hword => ?_
  obtain ⟨c, tail, rfl, hc⟩ := h.head
  have hletter : 'I' = c := by
    have hword' := List.isPrefixOf_iff_prefix.mp hword
    exact (List.cons_prefix_cons.mp hword').1
  rcases hc with hc | rfl
  · exact hclass.ne hc (by decide : 'I' ∈ marks) hletter.symm
  · exact absurd hletter (by decide)

theorem readsLongest (hclass : IsDigitClass isDigit) :
    ReadsLongest (Spells isDigit) (read? isDigit) where
  sound := by
    intro text rest a hread
    unfold read? at hread
    split at hread
    · rename_i hword
      obtain ⟨tail, rfl⟩ := List.isPrefixOf_iff_prefix.mp hword
      rw [List.drop_left] at hread
      obtain ⟨rfl, rfl⟩ := Prod.mk.inj (Option.some.inj hread)
      exact ⟨_, .infinite, rfl⟩
    · obtain ⟨⟨n, rest⟩, hscan, hsame⟩ := Option.map_eq_some_iff.mp hread
      obtain ⟨rfl, rfl⟩ := Prod.mk.inj hsame
      obtain ⟨part, hpart, rfl⟩ := Numeral.exists_of_scan? hscan
      exact ⟨part, .finite hpart, rfl⟩
  complete := by
    rintro _ _ (_ | hbody) rest
    · have hword : infinityWord.isPrefixOf (infinityWord ++ rest) = true :=
        List.isPrefixOf_iff_prefix.mpr (List.prefix_append ..)
      exact ⟨.infinite, rest, by rw [read?, if_pos hword, List.drop_left], List.suffix_rfl,
        fun _ => rfl⟩
    · obtain ⟨n, rest', hscan, hrest, hsame⟩ := (Numeral.readsLongest_scan? hclass).complete hbody rest
      refine ⟨.finite n, rest', ?_, hrest, fun hnil => by rw [hsame hnil]⟩
      rw [read?_of_numeral hclass hbody, hscan, Option.map_some]

theorem Spells.isUnsigned (hclass : IsDigitClass isDigit) {magnitude : Magnitude} {body : List Char}
    (h : magnitude.Spells isDigit body) : IsUnsigned body := by
  cases h with
  | infinite => exact ⟨'I', _, rfl, by decide, by decide⟩
  | finite hbody => exact hbody.isUnsigned hclass

/-- The double of a magnitude. -/
def toDouble : Magnitude → Double
  | infinite => .infinity
  | finite n => n.toDouble

end Magnitude

theorem readsLongest_float {isDigit : Char → Bool} (hclass : IsDigitClass isDigit) :
    ReadsLongest (SpellsSigned (Magnitude.Spells isDigit)) (readSigned (Magnitude.read? isDigit)) :=
  (Magnitude.readsLongest hclass).signed fun hbody => hbody.isUnsigned hclass

namespace Integer

variable {isDigit : Char → Bool}

/-- Splits an integer off the front of a text. -/
def read? (isDigit : Char → Bool) (text : List Char) : Option (Integer × List Char) :=
  match hexDigits? text with
  | some digits => some (.hexadecimal digits, (text.drop 2).dropWhile (isDigitOf 16))
  | none =>
      if text.takeWhile isDigit = [] then none
      else some (.decimal (text.takeWhile isDigit), text.dropWhile isDigit)

theorem hexDigits?_eq_some_iff {text digits : List Char} :
    hexDigits? text = some digits ↔ ∃ mark rest, (mark = 'x' ∨ mark = 'X') ∧
      text = '0' :: mark :: rest ∧ digits = rest.takeWhile (isDigitOf 16) ∧ digits ≠ [] := by
  constructor
  · intro h
    unfold hexDigits? at h
    split at h
    · rename_i mark rest
      obtain ⟨⟨hmark, hne⟩, hsame⟩ := Option.ite_none_right_eq_some.mp h
      obtain rfl := Option.some.inj hsame
      exact ⟨mark, rest, hmark, rfl, rfl, hne⟩
    · cases h
  · rintro ⟨mark, rest, hmark, rfl, rfl, hne⟩
    exact if_pos ⟨hmark, hne⟩

/-- No radix mark is a digit, so it stands directly behind the digits in front of it. -/
theorem eq_of_radixMark (hclass : IsDigitClass isDigit) {digits rest tail : List Char} {mark : Char}
    (hdigits : IsDigits isDigit digits) (hmark : mark = 'x' ∨ mark = 'X')
    (htext : digits ++ rest = '0' :: mark :: tail) : rest = mark :: tail := by
  obtain ⟨c, others, rfl⟩ := List.exists_cons_of_ne_nil hdigits.1
  obtain ⟨_, hbehind⟩ := List.cons_eq_cons.mp htext
  cases others with
  | nil => exact hbehind
  | cons d others =>
      obtain ⟨rfl, _⟩ := List.cons_eq_cons.mp hbehind
      have hd := hdigits.2 d (List.mem_cons_of_mem c List.mem_cons_self)
      rcases hmark with hmark | hmark <;> exact absurd hmark (hclass.ne hd (by decide))

theorem readsLongest (hclass : IsDigitClass isDigit) :
    ReadsLongest (Spells isDigit) (read? isDigit) where
  sound := by
    intro text rest a hread
    unfold read? at hread
    split at hread
    · rename_i digits hdigits
      obtain ⟨rfl, rfl⟩ := Prod.mk.inj (Option.some.inj hread)
      obtain ⟨mark, tail, hmark, rfl, rfl, hne⟩ := hexDigits?_eq_some_iff.mp hdigits
      refine ⟨_, .hexadecimal hmark (isDigits_takeWhile hne), ?_⟩
      rw [List.drop_succ_cons, List.drop_succ_cons, List.drop_zero, List.cons_append,
        List.cons_append, List.takeWhile_append_dropWhile]
    · obtain ⟨hne, hsame⟩ := Option.ite_none_left_eq_some.mp hread
      obtain ⟨rfl, rfl⟩ := Prod.mk.inj (Option.some.inj hsame)
      exact ⟨_, .decimal (isDigits_takeWhile hne), List.takeWhile_append_dropWhile.symm⟩
  complete := by
    rintro _ _ (⟨hdigits⟩ | ⟨hmark, hdigits⟩) rest
    · rename_i digits
      cases hhex : hexDigits? (digits ++ rest) with
      | none =>
          have hne : (digits ++ rest).takeWhile isDigit ≠ [] := by
            rw [List.takeWhile_append_of_pos hdigits.2]
            exact fun hnil => hdigits.1 (List.append_eq_nil_iff.mp hnil).1
          refine ⟨.decimal ((digits ++ rest).takeWhile isDigit), (digits ++ rest).dropWhile isDigit,
            ?_, ?_, ?_⟩
          · simp only [read?, hhex, if_neg hne]
          · rw [List.dropWhile_append_of_pos hdigits.2]
            exact List.dropWhile_suffix _
          · rintro rfl
            rw [List.takeWhile_append_of_pos hdigits.2, List.takeWhile_nil, List.append_nil]
      | some hex =>
          -- The digit in front of a radix mark is a whole integer when digits do not follow the mark.
          obtain ⟨mark, tail, hmark, htext, _⟩ := hexDigits?_eq_some_iff.mp hhex
          have hrest := eq_of_radixMark hclass hdigits hmark htext
          rw [htext] at hhex ⊢
          refine ⟨.hexadecimal hex, tail.dropWhile (isDigitOf 16), ?_, ?_, ?_⟩
          · simp only [read?, hhex, List.drop_succ_cons, List.drop_zero]
          · rw [hrest]
            exact (List.dropWhile_suffix _).trans (List.suffix_cons mark tail)
          · rintro rfl
            cases hrest
    · rename_i mark digits
      have hhex : hexDigits? ('0' :: mark :: (digits ++ rest)) =
          some (digits ++ rest.takeWhile (isDigitOf 16)) := by
        refine hexDigits?_eq_some_iff.mpr ⟨mark, digits ++ rest, hmark, rfl, ?_, ?_⟩
        · rw [List.takeWhile_append_of_pos hdigits.2]
        · exact fun hnil => hdigits.1 (List.append_eq_nil_iff.mp hnil).1
      refine ⟨.hexadecimal (digits ++ rest.takeWhile (isDigitOf 16)),
        rest.dropWhile (isDigitOf 16), ?_, List.dropWhile_suffix _, ?_⟩
      · simp only [read?, List.cons_append, hhex, List.drop_succ_cons, List.drop_zero,
          List.dropWhile_append_of_pos hdigits.2]
      · rintro rfl
        rw [List.takeWhile_nil, List.append_nil]

theorem Spells.isUnsigned (hclass : IsDigitClass isDigit) {n : Integer} {body : List Char}
    (h : n.Spells isDigit body) : IsUnsigned body := by
  cases h with
  | decimal hdigits => exact hclass.isUnsigned hdigits
  | hexadecimal => exact ⟨'0', _, rfl, by decide, by decide⟩

/-- The double of an integer. -/
def toDouble : Integer → Double
  | decimal digits => (Numeral.mk digits none none).toDouble
  | hexadecimal digits => hexMagnitude digits

end Integer

theorem readsLongest_integer {isDigit : Char → Bool} (hclass : IsDigitClass isDigit) :
    ReadsLongest (SpellsSigned (Integer.Spells isDigit)) (readSigned (Integer.read? isDigit)) :=
  (Integer.readsLongest hclass).signed fun hbody => hbody.isUnsigned hclass

/-- The double of a number with an optional sign at the front of a text; not-a-number if none is
read. -/
def frontDouble {α : Type} (read? : List Char → Option (α × List Char)) (toDouble : α → Double)
    (text : List Char) : Double :=
  match readSigned read? text with
  | some ((negative, a), _) => (toDouble a).withSign negative
  | none => .nan

/-- The float at the front of a text is read with the digits of every script. -/
theorem parseFloat_eq (text : List Char) :
    parseFloat text =
      frontDouble (Magnitude.read? isDecimalDigit) Magnitude.toDouble (trimStart text) := by
  cases hsign : Numeral.scanSign (trimStart text) with
  | mk negative body =>
      simp only [parseFloat, frontDouble, readSigned, hsign, Magnitude.read?]
      split
      · rfl
      · cases Numeral.scan? isDecimalDigit body <;> rfl

/-- The integer at the front of a text is read with the digits of every script. -/
theorem parseInt_eq (text : List Char) :
    parseInt text =
      frontDouble (Integer.read? isDecimalDigit) Integer.toDouble (trimStart text) := by
  cases hsign : Numeral.scanSign (trimStart text) with
  | mk negative body =>
      simp only [parseInt, frontDouble, readSigned, hsign, Integer.read?]
      cases hexDigits? body with
      | some digits => rfl
      | none =>
          simp only [List.isEmpty_iff]
          split <;> rfl

end FormRules
