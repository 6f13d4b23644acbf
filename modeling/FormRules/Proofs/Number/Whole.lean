/-
Texts that are numbers as a whole.

A trimmed text is a number if it spells one from end to end.  Behind a radix mark the digits are read
at their places, and without one the text is a signed magnitude.
-/
import FormRules.Proofs.Number.Literal

namespace FormRules

open Text Coercion

namespace Text

theorem trim_eq_nil_iff (text : List Char) : trim text = [] ↔ allBlank text = true := by
  rw [← trimStart_eq_nil_iff, trim, trimEnd, List.reverse_eq_nil_iff, List.dropWhile_eq_nil_iff]
  constructor
  · intro hblank
    by_contra hne
    -- A text that has lost its leading blanks begins with another character.
    have hhead : isBlank ((trimStart text).head hne) = false := List.head_dropWhile_not isBlank hne
    rw [hblank _ (List.mem_reverse.mpr (List.head_mem hne))] at hhead
    cases hhead
  · intro hnil
    rw [hnil]
    exact List.forall_mem_nil _

end Text

/-- The marks of a radix behind a zero. -/
def radixMarks : List (Char × Nat) :=
  [('x', 16), ('X', 16), ('o', 8), ('O', 8), ('b', 2), ('B', 2)]

/-- A text that goes on behind the mark of a radix. -/
inductive FollowsMark (radix : Nat) (tail : List Char) : List Char → Prop
  | mk {mark : Char} : (mark, radix) ∈ radixMarks → tail ≠ [] →
      FollowsMark radix tail ('0' :: mark :: tail)

theorem FollowsMark.ne_nil {radix : Nat} {text tail : List Char} (h : FollowsMark radix tail text) :
    text ≠ [] := by
  cases h
  exact List.cons_ne_nil _ _

theorem radixMark?_eq_some_iff {first second : Char} {radix : Nat} :
    radixMark? first second = some radix ↔ first = '0' ∧ (second, radix) ∈ radixMarks := by
  constructor
  · intro h
    unfold radixMark? at h
    split at h <;> first | (obtain rfl := Option.some.inj h; decide) | cases h
  · rintro ⟨rfl, hmark⟩
    simp only [radixMarks, List.mem_cons, Prod.mk.injEq, List.not_mem_nil, or_false] at hmark
    rcases hmark with ⟨rfl, rfl⟩ | ⟨rfl, rfl⟩ | ⟨rfl, rfl⟩ | ⟨rfl, rfl⟩ | ⟨rfl, rfl⟩ | ⟨rfl, rfl⟩ <;>
      rfl

theorem toNumber_eq_readWhole {text : List Char} (h : trim text ≠ []) :
    toNumber text = readWhole (trim text) :=
  if_neg fun hblank => h ((trim_eq_nil_iff text).mpr hblank)

section Radix

variable {radix : Nat} {text tail : List Char}

theorem readWhole_of_followsMark (h : FollowsMark radix tail text) :
    readWhole text = readRadix radix tail := by
  obtain ⟨hmark, htail⟩ := h
  obtain ⟨digit, rest, rfl⟩ := List.exists_cons_of_ne_nil htail
  rename_i mark
  have hword : '0' :: mark :: digit :: rest ≠ infinityWord := by
    intro hsame
    exact absurd (List.cons_eq_cons.mp hsame).1 (by decide)
  have hsign : Numeral.scanSign ('0' :: mark :: digit :: rest) =
      (false, '0' :: mark :: digit :: rest) := rfl
  simp only [readWhole, hsign, if_neg hword, radixMark?_eq_some_iff.mpr ⟨rfl, hmark⟩]

/-- The double of digits whose number fits in 64 bits; not-a-number otherwise. -/
def radixNumber (radix : Nat) (digits : List Char) : Double :=
  if IsDigits (isDigitOf radix) digits ∧ placeValue radix digits < 2 ^ 64 then
    .ofNat (placeValue radix digits)
  else .nan

theorem radixNumber_ne_nan_iff {digits : List Char} : radixNumber radix digits ≠ .nan ↔
    IsDigits (isDigitOf radix) digits ∧ placeValue radix digits < 2 ^ 64 := by
  unfold radixNumber
  split
  · rename_i hread
    exact iff_of_true nofun hread
  · rename_i hread
    exact iff_of_false (fun hne => hne rfl) hread

theorem rounds_radixNumber {digits : List Char} (h : IsDigits (isDigitOf radix) digits)
    (hfits : placeValue radix digits < 2 ^ 64) :
    (radixNumber radix digits).Rounds false (placeValue radix digits) := by
  rw [radixNumber, if_pos ⟨h, hfits⟩]
  exact Double.rounds_ofNat _

theorem radixNumber_eq (radix : Nat) (digits : List Char) :
    (if digits.isEmpty || !digits.all (isDigitOf radix) then Double.nan
    else if numberOf radix digits < Nat.pow 2 64 then .ofNat (numberOf radix digits) else .nan) =
      radixNumber radix digits := by
  rw [radixNumber, numberOf_eq_placeValue, Nat.pow_eq]
  by_cases hdigits : IsDigits (isDigitOf radix) digits
  · have hread : (digits.isEmpty || !digits.all (isDigitOf radix)) = false := by
      simp [hdigits.1, List.all_eq_true.mpr hdigits.2]
    simp only [hread, hdigits, true_and, Bool.false_eq_true, if_false]
  · have hread : (digits.isEmpty || !digits.all (isDigitOf radix)) = true := by
      rw [IsDigits, not_and_or, not_not, ← List.all_eq_true, Bool.not_eq_true] at hdigits
      rcases hdigits with rfl | hall
      · rfl
      · rw [hall, Bool.not_false, Bool.or_true]
    simp only [hread, hdigits, false_and, if_true, if_false]

theorem readRadix_plus (radix : Nat) (digits : List Char) :
    readRadix radix ('+' :: digits) = radixNumber radix digits :=
  radixNumber_eq radix digits

theorem readRadix_of_unsigned (h : ∀ digits, tail ≠ '+' :: digits) :
    readRadix radix tail = radixNumber radix tail := by
  rw [← radixNumber_eq, readRadix]
  exact h

theorem not_isDigits_plus (digits : List Char) : ¬ IsDigits (isDigitOf radix) ('+' :: digits) :=
  fun h => absurd (h.2 '+' List.mem_cons_self) nofun

/-- Text behind a radix mark that is read against its digits: a plus sign stands in front of them, or
their number does not fit in 64 bits. -/
def IsMisread (radix : Nat) (tail : List Char) : Prop :=
  (∃ digits, tail = '+' :: digits ∧ IsDigits (isDigitOf radix) digits ∧
    placeValue radix digits < 2 ^ 64) ∨
  (IsDigits (isDigitOf radix) tail ∧ 2 ^ 64 ≤ placeValue radix tail)

/-- Behind a radix mark a text is a number exactly if digits follow, namely the one that they denote,
as long as it is not misread. -/
theorem rounds_of_followsMark (h : FollowsMark radix tail (trim text)) :
    ((toNumber text ≠ .nan ↔ IsDigits (isDigitOf radix) tail) ∧
      (IsDigits (isDigitOf radix) tail → (toNumber text).Rounds false (placeValue radix tail))) ↔
    ¬ IsMisread radix tail := by
  rw [toNumber_eq_readWhole h.ne_nil, readWhole_of_followsMark h]
  by_cases hplus : ∃ digits, tail = '+' :: digits
  · obtain ⟨digits, rfl⟩ := hplus
    rw [readRadix_plus, radixNumber_ne_nan_iff]
    simp [IsMisread, not_isDigits_plus]
  · rw [not_exists] at hplus
    rw [readRadix_of_unsigned hplus, radixNumber_ne_nan_iff]
    constructor
    · rintro ⟨hnan, _⟩ (⟨digits, hsame, _⟩ | ⟨hdigits, hlarge⟩)
      · exact hplus digits hsame
      · exact absurd (hnan.mpr hdigits).2 (Nat.not_lt.mpr hlarge)
    · intro hread
      have hfits : IsDigits (isDigitOf radix) tail → placeValue radix tail < 2 ^ 64 := fun hdigits =>
        Nat.lt_of_not_le fun hlarge => hread (Or.inr ⟨hdigits, hlarge⟩)
      exact ⟨⟨And.left, fun hdigits => ⟨hdigits, hfits hdigits⟩⟩, fun hdigits =>
        rounds_radixNumber hdigits (hfits hdigits)⟩

theorem rounds_of_hexadecimal : FollowsMark 16 ['1', 'F'] (trim " 0x1F ".toList) ∧
    ¬ IsMisread 16 ['1', 'F'] ∧ toNumber " 0x1F ".toList ≠ .nan ∧
    (toNumber " 0x1F ".toList).Rounds false (placeValue 16 ['1', 'F']) := by
  have htrim : trim " 0x1F ".toList = ['0', 'x', '1', 'F'] := by decide
  have hmark : FollowsMark 16 ['1', 'F'] (trim " 0x1F ".toList) :=
    htrim ▸ .mk (by decide) (List.cons_ne_nil _ _)
  have hdigits : IsDigits (isDigitOf 16) ['1', 'F'] := by decide
  have hread : ¬ IsMisread 16 ['1', 'F'] := by
    rw [IsMisread, ← numberOf_eq_placeValue]
    rintro (⟨digits, hplus, _⟩ | ⟨_, hlarge⟩)
    · exact absurd (List.cons_eq_cons.mp hplus).1 (by decide)
    · exact absurd hlarge (by decide)
  obtain ⟨hnan, hrounds⟩ := (rounds_of_followsMark hmark).mpr hread
  exact ⟨hmark, hread, hnan.mpr hdigits, hrounds hdigits⟩

/-- A plus sign behind the mark is let through, and seventeen hexadecimal digits are not a number. -/
theorem misread_of_plus :
    FollowsMark 16 ['+', '1'] (trim "0x+1".toList) ∧ ¬ IsDigits (isDigitOf 16) ['+', '1'] ∧
    toNumber "0x+1".toList ≠ .nan ∧
    FollowsMark 16 ('1' :: List.replicate 16 '0') (trim "0x10000000000000000".toList) ∧
    IsDigits (isDigitOf 16) ('1' :: List.replicate 16 '0') ∧
    toNumber "0x10000000000000000".toList = .nan := by
  have hplus : trim "0x+1".toList = ['0', 'x', '+', '1'] := by decide
  have hwide : trim "0x10000000000000000".toList = '0' :: 'x' :: '1' :: List.replicate 16 '0' := by
    decide
  refine ⟨?_, by decide, by decide +kernel, ?_, by decide, by decide +kernel⟩
  · rw [hplus]
    exact .mk (by decide) (List.cons_ne_nil _ _)
  · rw [hwide]
    exact .mk (by decide) (List.cons_ne_nil _ _)

end Radix

section Decimal

variable {text : List Char}

theorem readNumeral_eq_toDouble {n : Numeral} (h : n.Spells isAsciiDigit text) :
    readNumeral text = n.toDouble := by
  rw [readNumeral_eq, Numeral.read?_eq_some_iff.mpr h, Option.elim_some]

theorem exists_of_readNumeral_ne_nan (h : readNumeral text ≠ .nan) :
    ∃ n : Numeral, n.Spells isAsciiDigit text := by
  rw [readNumeral_eq] at h
  cases hread : Numeral.read? text with
  | none => exact absurd (by rw [hread, Option.elim_none]) h
  | some n => exact ⟨n, Numeral.read?_eq_some_iff.mp hread⟩

/-- The double of a text without a sign that is a magnitude as a whole. -/
def readMagnitude (text : List Char) : Double :=
  if text = infinityWord then .infinity else readNumeral text

theorem readMagnitude_eq_toDouble {magnitude : Magnitude} (h : magnitude.Spells isAsciiDigit text) :
    readMagnitude text = magnitude.toDouble := by
  cases h with
  | infinite => exact if_pos rfl
  | finite hbody =>
      rw [readMagnitude, if_neg, readNumeral_eq_toDouble hbody, Magnitude.toDouble]
      rintro rfl
      obtain ⟨c, rest, hword, hc | rfl⟩ := hbody.head
      · obtain rfl := (List.cons_eq_cons.mp hword).1
        cases hc
      · exact absurd (List.cons_eq_cons.mp hword).1 (by decide)

theorem exists_of_readMagnitude_ne_nan (h : readMagnitude text ≠ .nan) :
    ∃ magnitude : Magnitude, magnitude.Spells isAsciiDigit text := by
  unfold readMagnitude at h
  split at h
  · rename_i hword
    exact ⟨.infinite, hword ▸ .infinite⟩
  · obtain ⟨n, hn⟩ := exists_of_readNumeral_ne_nan h
    exact ⟨.finite n, .finite hn⟩

/-- Without a radix mark a text is read as a magnitude behind its sign. -/
theorem readWhole_of_not_followsMark (h : ∀ radix tail, ¬ FollowsMark radix tail text) :
    readWhole text = (readMagnitude (Numeral.scanSign text).2).withSign (Numeral.scanSign text).1 := by
  cases hsign : Numeral.scanSign text with
  | mk negative body =>
      simp only [readWhole, hsign, readMagnitude]
      split
      · rfl
      · split
        · split
          · rename_i hradix
            obtain ⟨rfl, hmark⟩ := radixMark?_eq_some_iff.mp hradix
            exact absurd (.mk hmark (List.cons_ne_nil _ _)) (h _ _)
          · rfl
        · rfl

theorem denotes_of_spells {number : Bool × Magnitude}
    (h : SpellsSigned (Magnitude.Spells isAsciiDigit) number text) :
    Magnitude.Denotes number
      ((readMagnitude (Numeral.scanSign text).2).withSign (Numeral.scanSign text).1) := by
  obtain ⟨hsign, hbody⟩ := h
  have hscan := scanSign_append hsign (hbody.isUnsigned isDigitClass_isAsciiDigit) []
  rw [List.append_nil] at hscan
  rw [hscan, readMagnitude_eq_toDouble hbody]
  exact Magnitude.denotes_toDouble (Magnitude.isNotation.isDigit_of_mem hbody) _

theorem isWritten_of_readMagnitude_ne_nan (h : readMagnitude (Numeral.scanSign text).2 ≠ .nan) :
    IsWritten (Magnitude.Spells isAsciiDigit) text := by
  obtain ⟨magnitude, hbody⟩ := exists_of_readMagnitude_ne_nan h
  obtain ⟨sign, hsign, htext⟩ : ∃ sign, SpellsSign (Numeral.scanSign text).1 sign ∧
    text = sign ++ (Numeral.scanSign text).2 := exists_of_scanSign rfl
  rw [htext]
  exact ⟨_, hsign, hbody⟩

/-- A text that does not go on behind a radix mark is a number exactly if it spells a magnitude with an
optional sign, namely the double that this denotes. -/
theorem denotes_of_not_followsMark (hne : trim text ≠ [])
    (h : ∀ radix tail, ¬ FollowsMark radix tail (trim text)) :
    (toNumber text ≠ .nan ↔ IsWritten (Magnitude.Spells isAsciiDigit) (trim text)) ∧
    ∀ number, SpellsSigned (Magnitude.Spells isAsciiDigit) number (trim text) →
      Magnitude.Denotes number (toNumber text) := by
  rw [toNumber_eq_readWhole hne, readWhole_of_not_followsMark h]
  refine ⟨⟨?_, ?_⟩, fun number => denotes_of_spells⟩
  · rw [ne_eq, Double.withSign_eq_nan_iff]
    exact isWritten_of_readMagnitude_ne_nan
  · rintro ⟨number, hspells⟩
    exact (denotes_of_spells hspells).ne_nan

theorem denotes_of_exponent :
    (trim "  -12.5e-3 ".toList ≠ [] ∧ ∀ radix tail, ¬ FollowsMark radix tail (trim "  -12.5e-3 ".toList)) ∧
    toNumber "  -12.5e-3 ".toList ≠ .nan ∧
    (toNumber "  -12.5e-3 ".toList).Rounds true
      (Numeral.value ⟨['1', '2'], some ['5'], some (true, ['3'])⟩) := by
  have htrim : trim "  -12.5e-3 ".toList = ['-', '1', '2', '.', '5', 'e', '-', '3'] := by decide
  have hne : trim "  -12.5e-3 ".toList ≠ [] := by
    rw [htrim]
    exact List.cons_ne_nil _ _
  have hmark : ∀ radix tail, ¬ FollowsMark radix tail (trim "  -12.5e-3 ".toList) := by
    rw [htrim]
    exact nofun
  have hexponent : Numeral.SpellsExponent isAsciiDigit (some (true, ['3'])) ['e', '-', '3'] :=
    .marked (Or.inl rfl) .minus (by decide)
  have hspells : SpellsSigned (Magnitude.Spells isAsciiDigit)
      (true, .finite ⟨['1', '2'], some ['5'], some (true, ['3'])⟩) (trim "  -12.5e-3 ".toList) := by
    rw [htrim]
    exact .mk .minus (.finite (.pointed (by decide) (List.forall_mem_singleton.mpr rfl) hexponent))
  obtain ⟨hnan, hdenotes⟩ := denotes_of_not_followsMark hne hmark
  exact ⟨⟨hne, hmark⟩, hnan.mpr ⟨_, hspells⟩, hdenotes _ hspells⟩

end Decimal

end FormRules
