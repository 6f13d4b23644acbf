/-
Numbers in decimal digits.

Padded digits denote the number that they were made from.  Digits that are as many as they are padded
to, or that begin with no zero, are made again from the number that they denote.
-/
import FormRules.Date.Writer
import FormRules.Text.Digit
import Mathlib.Algebra.Group.Nat.Defs

namespace FormRules.Date

theorem paddedDigits_eq (width n : Nat) :
    paddedDigits width n =
      List.replicate (width - (Nat.toDigits 10 n).length) '0' ++ Nat.toDigits 10 n := by
  have hdigits : (toString n).toList = Nat.toDigits 10 n := Nat.toList_repr
  rw [paddedDigits, hdigits]

/-- Zeros in front change no number. -/
theorem ofDigitChars_paddedDigits (width n : Nat) :
    Nat.ofDigitChars 10 (paddedDigits width n) 0 = n := by
  rw [paddedDigits_eq, Nat.ofDigitChars_append, Nat.ofDigitChars_replicate_zero, Nat.mul_zero,
    Nat.ofDigitChars_ten_toDigits]

/-- Padding is made of digits. -/
theorem isAsciiDigit_of_mem_paddedDigits {width n : Nat} {c : Char}
    (hc : c ∈ paddedDigits width n) : Text.isAsciiDigit c = true := by
  rw [paddedDigits_eq] at hc
  rcases List.mem_append.mp hc with hzero | hdigit
  · rw [List.eq_of_mem_replicate hzero]
    rfl
  · have hbounds := Nat.isDigit_of_mem_toDigits (by decide) (Nat.le_refl 10) hdigit
    simp only [Char.isDigit, Bool.and_eq_true, decide_eq_true_eq] at hbounds
    rw [Text.isAsciiDigit, decide_eq_true_eq]
    exact hbounds

/-- Padding fills the width that a number does not exceed. -/
theorem length_paddedDigits {width n : Nat} (hwidth : 0 < width) (h : n < 10 ^ width) :
    (paddedDigits width n).length = width := by
  have hlength : (Nat.toDigits 10 n).length ≤ width :=
    (Nat.length_toDigits_le_iff (by decide) hwidth).mpr h
  rw [paddedDigits_eq, List.length_append, List.length_replicate]
  exact Nat.sub_add_cancel hlength

/-- The digit of the value of a digit. -/
theorem digitChar_of_isAsciiDigit {c : Char} (h : Text.isAsciiDigit c = true) :
    c.toNat - '0'.toNat < 10 ∧ Nat.digitChar (c.toNat - '0'.toNat) = c := by
  have hbounds : '0'.toNat ≤ c.toNat ∧ c.toNat ≤ '9'.toNat := by
    simpa [Text.isAsciiDigit] using h
  have hzero : '0'.toNat = 48 := rfl
  have hnine : '9'.toNat = 57 := rfl
  have hlt : c.toNat - '0'.toNat < 10 := by omega
  refine ⟨hlt, Char.toNat_inj.mp ?_⟩
  rw [Nat.toNat_digitChar_of_lt_ten hlt]
  omega

/-- Digits after a number without a zero in front are the further digits of a greater number. -/
theorem toDigits_ofDigitChars {word : List Char} (hword : ∀ c ∈ word, Text.isAsciiDigit c = true)
    {n : Nat} (hn : 0 < n) :
    Nat.toDigits 10 (Nat.ofDigitChars 10 word n) = Nat.toDigits 10 n ++ word := by
  induction word generalizing n with
  | nil => simp
  | cons c word ih =>
      obtain ⟨hlt, hdigit⟩ := digitChar_of_isAsciiDigit (hword c List.mem_cons_self)
      have hrest : ∀ d ∈ word, Text.isAsciiDigit d = true :=
        fun d hd => hword d (List.mem_cons_of_mem c hd)
      have hlast : Nat.toDigits 10 n ++ [c] =
          Nat.toDigits 10 (10 * n + (c.toNat - '0'.toNat)) := by
        rw [← Nat.toDigits_append_toDigits (by decide) hn hlt, Nat.toDigits_of_lt_base hlt, hdigit]
      rw [Nat.ofDigitChars_cons, ih hrest (by omega), ← hlast, List.append_assoc,
        List.singleton_append]

theorem ofDigitChars_lt {word : List Char} (hword : ∀ c ∈ word, Text.isAsciiDigit c = true) :
    Nat.ofDigitChars 10 word 0 < 10 ^ word.length := by
  induction word with
  | nil => simp
  | cons c word ih =>
      obtain ⟨hlt, _⟩ := digitChar_of_isAsciiDigit (hword c List.mem_cons_self)
      have hrest := ih fun d hd => hword d (List.mem_cons_of_mem c hd)
      rw [Nat.ofDigitChars_cons, Nat.ofDigitChars_eq_ofDigitChars_zero, List.length_cons]
      calc 10 ^ word.length * (10 * 0 + (c.toNat - '0'.toNat)) + Nat.ofDigitChars 10 word 0
          < 10 ^ word.length * (c.toNat - '0'.toNat) + 10 ^ word.length := by
            rw [Nat.mul_zero, Nat.zero_add]
            exact Nat.add_lt_add_left hrest _
        _ = 10 ^ word.length * (c.toNat - '0'.toNat + 1) := (Nat.mul_succ _ _).symm
        _ ≤ 10 ^ word.length * 10 := Nat.mul_le_mul_left _ hlt
        _ = 10 ^ (word.length + 1) := (Nat.pow_succ ..).symm

/-- Digits that do not begin with a zero are those of their number. -/
theorem toDigits_of_head_ne_zero {c : Char} {word : List Char}
    (hword : ∀ d ∈ c :: word, Text.isAsciiDigit d = true) (hc : c ≠ '0') :
    Nat.toDigits 10 (Nat.ofDigitChars 10 (c :: word) 0) = c :: word := by
  obtain ⟨hlt, hdigit⟩ := digitChar_of_isAsciiDigit (hword c List.mem_cons_self)
  have hpos : 0 < c.toNat - '0'.toNat := by
    rcases Nat.eq_zero_or_pos (c.toNat - '0'.toNat) with hzero | hpos
    · rw [hzero] at hdigit
      exact absurd hdigit.symm hc
    · exact hpos
  have hrest : ∀ d ∈ word, Text.isAsciiDigit d = true :=
    fun d hd => hword d (List.mem_cons_of_mem c hd)
  rw [Nat.ofDigitChars_cons, Nat.mul_zero, Nat.zero_add, toDigits_ofDigitChars hrest hpos,
    Nat.toDigits_of_lt_base hlt, hdigit, List.singleton_append]

/-- A width that the digits of a number reach adds nothing to them. -/
theorem paddedDigits_of_le {width n : Nat} (h : width ≤ (Nat.toDigits 10 n).length) :
    paddedDigits width n = Nat.toDigits 10 n := by
  rw [paddedDigits_eq, Nat.sub_eq_zero_of_le h, List.replicate_zero, List.nil_append]

/-- A greater width puts one more zero in front of digits that do not fill the smaller one. -/
theorem paddedDigits_succ {width n : Nat} (hwidth : 0 < width) (h : n < 10 ^ width) :
    paddedDigits (width + 1) n = '0' :: paddedDigits width n := by
  have hlength : (Nat.toDigits 10 n).length ≤ width :=
    (Nat.length_toDigits_le_iff (by decide) hwidth).mpr h
  rw [paddedDigits_eq, paddedDigits_eq, Nat.succ_sub hlength, List.replicate_succ,
    List.cons_append]

/-- Digits are made again from their number by padding to their own width. -/
theorem paddedDigits_ofDigitChars {word : List Char} (hne : word ≠ [])
    (hword : ∀ c ∈ word, Text.isAsciiDigit c = true) :
    paddedDigits word.length (Nat.ofDigitChars 10 word 0) = word := by
  induction word with
  | nil => exact absurd rfl hne
  | cons c word ih =>
      have hrest : ∀ d ∈ word, Text.isAsciiDigit d = true :=
        fun d hd => hword d (List.mem_cons_of_mem c hd)
      by_cases hc : c = '0'
      · -- A zero in front is what the padding adds, unless it stands alone.
        subst hc
        have hskip : Nat.ofDigitChars 10 ('0' :: word) 0 = Nat.ofDigitChars 10 word 0 := rfl
        by_cases hend : word = []
        · subst hend
          decide
        · rw [hskip, List.length_cons,
            paddedDigits_succ (List.length_pos_iff.mpr hend) (ofDigitChars_lt hrest), ih hend hrest]
      · have hdigits := toDigits_of_head_ne_zero hword hc
        rw [paddedDigits_of_le (Nat.le_of_eq (congrArg List.length hdigits.symm)), hdigits]

end FormRules.Date
