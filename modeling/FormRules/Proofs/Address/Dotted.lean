/-
Dotted numbers as hosts.

What is taken for a dotted host may be written with zeros in front of its middle parts, and an address
with such a zero is not read.  Without these zeros a dotted host is read as the numbers it is written
in.
-/
import FormRules.Address.Web
import FormRules.Proofs.Date.Digits

namespace FormRules.Address

open Text

/-- A part of a dotted number: the digits of a number up to 255. -/
structure IsOctet (digits : List Char) : Prop where
  ne_nil : digits ≠ []
  isAsciiDigit_of_mem : ∀ c ∈ digits, isAsciiDigit c = true
  numberOf_le : numberOf 10 digits ≤ 255

/-- Whether a zero stands in front of other digits. -/
def hasLeadingZero (digits : List Char) : Bool :=
  digits.head? == some '0' && digits.length != 1

/-- The number that digits denote, zeros in front allowed. -/
def number? (digits : List Char) : Option Nat :=
  if digits ≠ [] ∧ digits.all isAsciiDigit then some (numberOf 10 digits) else none

/-- The four numbers that a host is written in, zeros in front allowed. -/
def numbers? (host : List Char) : Option (Nat × Nat × Nat × Nat) :=
  match pieces (· == '.') host with
  | [a, b, c, d] => do
      let a ← number? a
      let b ← number? b
      let c ← number? c
      let d ← number? d
      pure (a, b, c, d)
  | _ => none

theorem isOctet_of_isNumberBetween {low high : Nat} {digits : List Char} (hlow : 0 < low)
    (hhigh : high ≤ 255) (h : isNumberBetween low high digits = true) : IsOctet digits := by
  simp only [isNumberBetween, Bool.and_eq_true, List.all_eq_true, decide_eq_true_eq] at h
  obtain ⟨⟨hdigits, _⟩, hge, hle⟩ := h
  refine ⟨?_, hdigits, Nat.le_trans hle hhigh⟩
  rintro rfl
  have hzero : numberOf 10 [] = 0 := rfl
  omega

theorem isOctet_of_isMiddleOctet {digits : List Char} (h : isMiddleOctet digits = true) :
    IsOctet digits := by
  simp only [isMiddleOctet, Bool.and_eq_true, Bool.or_eq_true, List.all_eq_true,
    decide_eq_true_eq] at h
  obtain ⟨hdigits, hshort | ⟨_, hlong⟩⟩ := h
  · have hne : digits ≠ [] := List.length_pos_iff.mp (by omega)
    refine ⟨hne, hdigits, ?_⟩
    have hlt : numberOf 10 digits < 10 ^ digits.length :=
      numberOf_eq_ofDigitChars hdigits ▸ Date.ofDigitChars_lt hdigits
    have hpow : 10 ^ digits.length ≤ 10 ^ 2 := Nat.pow_le_pow_right (by decide) (by omega)
    omega
  · exact isOctet_of_isNumberBetween (by decide) (by decide) hlong

/-- A dotted host has four parts. -/
theorem octets_of_isDottedHost {host : List Char} (h : isDottedHost host = true) :
    ∃ a b c d, pieces (· == '.') host = [a, b, c, d] ∧ ∀ piece ∈ [a, b, c, d], IsOctet piece := by
  unfold isDottedHost at h
  split at h
  · rename_i a b c d hpieces
    simp only [Bool.and_eq_true] at h
    obtain ⟨⟨⟨ha, hb⟩, hc⟩, hd⟩ := h
    refine ⟨a, b, c, d, hpieces, ?_⟩
    simp only [List.forall_mem_cons]
    exact ⟨isOctet_of_isNumberBetween (by decide) (by decide) ha, isOctet_of_isMiddleOctet hb,
      isOctet_of_isMiddleOctet hc, isOctet_of_isNumberBetween (by decide) (by decide) hd,
      List.forall_mem_nil _⟩
  · cases h

/-- Without a zero in front, a number up to 255 takes no more than three digits. -/
theorem IsOctet.length_le {digits : List Char} (h : IsOctet digits)
    (hzero : hasLeadingZero digits = false) : digits.length ≤ 3 := by
  obtain ⟨hne, hdigits, hle⟩ := h
  cases digits with
  | nil => exact absurd rfl hne
  | cons c word =>
      by_cases hc : c = '0'
      · subst hc
        have hsingle : ('0' :: word).length = 1 := by simpa [hasLeadingZero] using hzero
        omega
      · rw [numberOf_eq_ofDigitChars hdigits] at hle
        have hlength : (Nat.toDigits 10 (Nat.ofDigitChars 10 (c :: word) 0)).length ≤ 3 :=
          (Nat.length_toDigits_le_iff (by decide) (by decide)).mpr (by omega)
        rwa [Date.toDigits_of_head_ne_zero hdigits hc] at hlength

theorem octet?_eq_number? {digits : List Char} (h : IsOctet digits)
    (hzero : hasLeadingZero digits = false) : octet? digits = number? digits := by
  have hdigits : digits.all isAsciiDigit = true := List.all_eq_true.mpr h.isAsciiDigit_of_mem
  have hfront : digits.head? ≠ some '0' ∨ digits.length = 1 := by
    simpa [hasLeadingZero, Decidable.imp_iff_not_or] using hzero
  simp only [octet?, number?]
  rw [if_pos ⟨h.ne_nil, h.length_le hzero, hdigits, hfront, h.numberOf_le⟩,
    if_pos ⟨h.ne_nil, hdigits⟩]

/-- A dotted host without zeros in front is read as the numbers it is written in. -/
theorem ipv4?_eq_numbers? {host : List Char} (h : isDottedHost host = true)
    (hzeros : ∀ digits ∈ pieces (· == '.') host, hasLeadingZero digits = false) :
    ipv4? host = numbers? host := by
  obtain ⟨a, b, c, d, hpieces, hoctets⟩ := octets_of_isDottedHost h
  rw [hpieces] at hzeros
  have hread : ∀ piece ∈ [a, b, c, d], octet? piece = number? piece :=
    fun piece hpiece => octet?_eq_number? (hoctets piece hpiece) (hzeros piece hpiece)
  simp only [List.forall_mem_cons] at hread
  obtain ⟨ha, hb, hc, hd, _⟩ := hread
  simp only [ipv4?, numbers?, hpieces, ha, hb, hc, hd]

theorem octet?_eq_none {digits : List Char} (h : hasLeadingZero digits = true) :
    octet? digits = none := by
  simp only [hasLeadingZero, Bool.and_eq_true, beq_iff_eq, bne_iff_ne] at h
  simp [octet?, h]

/-- A host with a zero in front of a part is never found to be reserved. -/
theorem isReserved_of_hasLeadingZero {host digits : List Char}
    (hdigits : digits ∈ pieces (· == '.') host) (h : hasLeadingZero digits = true) :
    isReserved host = false := by
  have hnone : ipv4? host = none := by
    unfold ipv4?
    split
    · rename_i a b c d hpieces
      rw [hpieces] at hdigits
      simp only [List.mem_cons, List.not_mem_nil, or_false] at hdigits
      rcases hdigits with rfl | rfl | rfl | rfl <;> simp [octet?_eq_none h]
    · rfl
  rw [isReserved, hnone]

/-- A host that is written in four numbers has parts of digits. -/
theorem digits_of_numbers? {host : List Char} {a b c d : Nat}
    (h : numbers? host = some (a, b, c, d)) :
    ∀ piece ∈ pieces (· == '.') host, piece ≠ [] ∧ ∀ c ∈ piece, isAsciiDigit c = true := by
  have hnumber : ∀ {digits : List Char} {n : Nat}, number? digits = some n →
      digits ≠ [] ∧ ∀ c ∈ digits, isAsciiDigit c = true := by
    intro digits n hn
    rw [number?, Option.ite_none_right_eq_some, List.all_eq_true] at hn
    exact hn.1
  unfold numbers? at h
  split at h
  · rename_i hpieces
    simp only [Option.bind_eq_bind, Option.bind_eq_some_iff] at h
    obtain ⟨_, ha, _, hb, _, hc, _, hd, _⟩ := h
    simp only [hpieces, List.forall_mem_cons]
    exact ⟨hnumber ha, hnumber hb, hnumber hc, hnumber hd, List.forall_mem_nil _⟩
  · cases h

end FormRules.Address
