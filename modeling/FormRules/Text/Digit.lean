/-
Decimal digits: the ten of ASCII, and those of every script.
-/
namespace FormRules.Text

/-- Code points of the digit zero in every script; the other nine digits follow each of them. -/
def digitZeros : List Nat :=
  [0x30, 0x660, 0x6F0, 0x7C0, 0x966, 0x9E6, 0xA66, 0xAE6, 0xB66, 0xBE6, 0xC66, 0xCE6, 0xD66, 0xDE6,
    0xE50, 0xED0, 0xF20, 0x1040, 0x1090, 0x17E0, 0x1810, 0x1946, 0x19D0, 0x1A80, 0x1A90, 0x1B50,
    0x1BB0, 0x1C40, 0x1C50, 0xA620, 0xA8D0, 0xA900, 0xA9D0, 0xA9F0, 0xAA50, 0xABF0, 0xFF10, 0x104A0,
    0x10D30, 0x10D40, 0x11066, 0x110F0, 0x11136, 0x111D0, 0x112F0, 0x11450, 0x114D0, 0x11650,
    0x116C0, 0x116D0, 0x116DA, 0x11730, 0x118E0, 0x11950, 0x11BF0, 0x11C50, 0x11D50, 0x11DA0,
    0x11F50, 0x16130, 0x16A60, 0x16AC0, 0x16B50, 0x16D70, 0x1CCF0, 0x1D7CE, 0x1D7D8, 0x1D7E2,
    0x1D7EC, 0x1D7F6, 0x1E140, 0x1E2F0, 0x1E4F0, 0x1E5F1, 0x1E950, 0x1FBF0]

/-- A decimal digit of any script. -/
def isDecimalDigit (c : Char) : Bool :=
  digitZeros.any fun first => decide (first ≤ c.toNat ∧ c.toNat < first + 10)

/-- One of the ten digits `0` to `9`. -/
def isAsciiDigit (c : Char) : Bool :=
  decide ('0'.toNat ≤ c.toNat ∧ c.toNat ≤ '9'.toNat)

/-- The value of a character as a digit; letters count from ten on, in either case. -/
def digitValue? (c : Char) : Option Nat :=
  if '0' ≤ c ∧ c ≤ '9' then some (c.toNat - '0'.toNat)
  else if 'a' ≤ c ∧ c ≤ 'z' then some (c.toNat - 'a'.toNat + 10)
  else if 'A' ≤ c ∧ c ≤ 'Z' then some (c.toNat - 'A'.toNat + 10)
  else none

/-- Whether a character is a digit of the given radix. -/
def isDigitOf (radix : Nat) (c : Char) : Bool :=
  match digitValue? c with
  | some value => decide (value < radix)
  | none => false

/-- The number that digits denote in a radix; characters that are no digits count as zero. -/
def numberOf (radix : Nat) (digits : List Char) : Nat :=
  digits.foldl (fun n c => n * radix + (digitValue? c).getD 0) 0

/-- Every digit of ASCII is a decimal digit. -/
theorem isDecimalDigit_of_isAsciiDigit {c : Char} (h : isAsciiDigit c) : isDecimalDigit c := by
  simp only [isAsciiDigit, decide_eq_true_eq] at h
  have hzero : '0'.toNat = 0x30 := rfl
  have hnine : '9'.toNat = 0x39 := rfl
  rw [isDecimalDigit, List.any_eq_true]
  exact ⟨0x30, by simp [digitZeros], by simp only [decide_eq_true_eq]; omega⟩

theorem digitValue?_of_isAsciiDigit {c : Char} (h : isAsciiDigit c = true) :
    digitValue? c = some (c.toNat - '0'.toNat) := by
  rw [isAsciiDigit, decide_eq_true_eq] at h
  exact if_pos h

/-- Decimal digits denote the number that the library reads in them. -/
theorem numberOf_eq_ofDigitChars {digits : List Char}
    (h : ∀ c ∈ digits, isAsciiDigit c = true) :
    numberOf 10 digits = Nat.ofDigitChars 10 digits 0 := by
  have hfrom : ∀ start, digits.foldl (fun n c => n * 10 + (digitValue? c).getD 0) start =
      Nat.ofDigitChars 10 digits start := by
    induction digits with
    | nil => exact fun _ => rfl
    | cons c digits ih =>
        intro start
        rw [List.forall_mem_cons] at h
        rw [List.foldl_cons, ih h.2, Nat.ofDigitChars_cons, digitValue?_of_isAsciiDigit h.1,
          Option.getD_some, Nat.mul_comm]
  exact hfrom 0

end FormRules.Text
