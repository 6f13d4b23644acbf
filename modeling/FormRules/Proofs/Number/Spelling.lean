/-
How numbers are written.

A number is written as an optional sign with a magnitude: the word for infinity, a decimal numeral with
an optional exponent, or an integer in decimal or hexadecimal digits.  Which characters are digits is a
parameter throughout.
-/
import FormRules.Number.Coercion
import FormRules.Proofs.Number.Rounding
import Mathlib.Data.Nat.Digits.Defs

namespace FormRules

namespace Text

/-- One or more digits and nothing else. -/
def IsDigits (isDigit : Char → Bool) (text : List Char) : Prop :=
  text ≠ [] ∧ ∀ c ∈ text, isDigit c = true

instance (isDigit : Char → Bool) (text : List Char) : Decidable (IsDigits isDigit text) :=
  decidable_of_iff (text ≠ [] ∧ text.all isDigit = true) (and_congr_right' List.all_eq_true)

/-- The number that digits denote by their places. -/
def placeValue (radix : Nat) (digits : List Char) : Nat :=
  Nat.ofDigits radix (digits.reverse.map fun c => (digitValue? c).getD 0)

theorem placeValue_append (radix : Nat) (digits more : List Char) :
    placeValue radix (digits ++ more) =
      placeValue radix digits * radix ^ more.length + placeValue radix more := by
  rw [placeValue, List.reverse_append, List.map_append, Nat.ofDigits_append, List.length_map,
    List.length_reverse, Nat.mul_comm, Nat.add_comm]
  rfl

/-- Reading digits from the left gives the number that they denote. -/
theorem numberOf_eq_placeValue (radix : Nat) (digits : List Char) :
    numberOf radix digits = placeValue radix digits := by
  induction digits using List.reverseRecOn with
  | nil => rfl
  | append_singleton digits c ih =>
      have hlast : placeValue radix [c] = (digitValue? c).getD 0 := Nat.ofDigits_singleton ..
      rw [placeValue_append, hlast, List.length_singleton, Nat.pow_one, ← ih, numberOf,
        List.foldl_append]
      rfl

end Text

open Text

/-- A sign as it is written in front of a number, and whether it is a minus. -/
inductive SpellsSign : Bool → List Char → Prop
  | bare : SpellsSign false []
  | plus : SpellsSign false ['+']
  | minus : SpellsSign true ['-']

/-- A magnitude written behind a sign. -/
inductive SpellsSigned {α : Type} (Spells : α → List Char → Prop) : Bool × α → List Char → Prop
  | mk {negative : Bool} {sign : List Char} {magnitude : α} {body : List Char} :
      SpellsSign negative sign → Spells magnitude body →
      SpellsSigned Spells (negative, magnitude) (sign ++ body)

/-- A text that spells a magnitude with an optional sign. -/
def IsWritten {α : Type} (Spells : α → List Char → Prop) (text : List Char) : Prop :=
  ∃ number, SpellsSigned Spells number text

namespace Numeral

variable (isDigit : Char → Bool)

/-- An exponent as it is written: a mark, an optional sign and digits, or nothing. -/
inductive SpellsExponent : Option (Bool × List Char) → List Char → Prop
  | absent : SpellsExponent none []
  | marked {mark : Char} {negative : Bool} {sign digits : List Char} :
      mark = 'e' ∨ mark = 'E' → SpellsSign negative sign → IsDigits isDigit digits →
      SpellsExponent (some (negative, digits)) (mark :: (sign ++ digits))

/-- A numeral as it is written: digits, digits with a point and optional further digits, or a point
with digits, each with an optional exponent. -/
inductive Spells : Numeral → List Char → Prop
  | whole {digits : List Char} {exponent : Option (Bool × List Char)} {part : List Char} :
      IsDigits isDigit digits → SpellsExponent isDigit exponent part →
      Spells ⟨digits, none, exponent⟩ (digits ++ part)
  | pointed {digits places : List Char} {exponent : Option (Bool × List Char)} {part : List Char} :
      IsDigits isDigit digits → (∀ c ∈ places, isDigit c = true) →
      SpellsExponent isDigit exponent part →
      Spells ⟨digits, some places, exponent⟩ (digits ++ '.' :: (places ++ part))
  | fraction {places : List Char} {exponent : Option (Bool × List Char)} {part : List Char} :
      IsDigits isDigit places → SpellsExponent isDigit exponent part →
      Spells ⟨[], some places, exponent⟩ ('.' :: (places ++ part))

/-- The power of ten that an exponent stands for. -/
def power : Option (Bool × List Char) → ℚ
  | none => 1
  | some (false, digits) => 10 ^ placeValue 10 digits
  | some (true, digits) => 1 / 10 ^ placeValue 10 digits

/-- The number that a numeral denotes. -/
def value (n : Numeral) : ℚ :=
  let places := n.fraction.getD []
  (placeValue 10 n.whole + placeValue 10 places / 10 ^ places.length) * power n.exponent

/-- The decimal of a numeral is the number that it denotes. -/
theorem value_toDecimal (n : Numeral) : n.toDecimal.value = n.value := by
  obtain ⟨whole, fraction, exponent⟩ := n
  have hten : (10 : ℚ) ≠ 0 := by norm_num
  simp only [Decimal.value, toDecimal, value, numberOf_eq_placeValue, placeValue_append]
  rw [zpow_sub₀ hten, zpow_natCast]
  push_cast
  rcases exponent with _ | ⟨_ | _, digits⟩
  · rw [power, zpow_zero]
    field_simp
  · rw [power, zpow_natCast]
    field_simp
  · rw [power, zpow_neg, zpow_natCast]
    field_simp

end Numeral

/-- The magnitude of a number in a text: infinity, or that of a numeral. -/
inductive Magnitude where
  | infinite
  | finite (numeral : Numeral)
deriving DecidableEq, Repr

/-- How a magnitude is written. -/
inductive Magnitude.Spells (isDigit : Char → Bool) : Magnitude → List Char → Prop
  | infinite : Spells isDigit .infinite Coercion.infinityWord
  | finite {numeral : Numeral} {body : List Char} :
      numeral.Spells isDigit body → Spells isDigit (.finite numeral) body

/-- A magnitude with a sign denotes a double. -/
def Magnitude.Denotes : Bool × Magnitude → Double → Prop
  | (negative, infinite), x => x = Double.infinity.withSign negative
  | (negative, finite numeral), x => x.Rounds negative numeral.value

theorem Magnitude.Denotes.ne_nan {number : Bool × Magnitude} {x : Double} (h : Denotes number x) :
    x ≠ .nan := by
  obtain ⟨negative, _ | n⟩ := number
  · have hinfinity : x = Double.infinity.withSign negative := h
    rw [hinfinity]
    cases negative <;> exact nofun
  · have hrounds : x.Rounds negative n.value := h
    exact hrounds.ne_nan

/-- The digits of an integer in a text. -/
inductive Integer where
  | decimal (digits : List Char)
  | hexadecimal (digits : List Char)
deriving DecidableEq, Repr

namespace Integer

/-- How an integer is written. -/
inductive Spells (isDigit : Char → Bool) : Integer → List Char → Prop
  | decimal {digits : List Char} : IsDigits isDigit digits → Spells isDigit (.decimal digits) digits
  | hexadecimal {mark : Char} {digits : List Char} :
      mark = 'x' ∨ mark = 'X' → IsDigits (isDigitOf 16) digits →
      Spells isDigit (.hexadecimal digits) ('0' :: mark :: digits)

def value : Integer → Nat
  | decimal digits => placeValue 10 digits
  | hexadecimal digits => placeValue 16 digits

/-- An integer with a sign denotes a double. -/
def Denotes (n : Bool × Integer) (x : Double) : Prop := x.Rounds n.1 n.2.value

end Integer

end FormRules
