/-
The decimal text of a whole number.

Between any blanks it is read as the number itself, as a whole and at its beginning, as a float and as an
integer.
-/
import FormRules.Proofs.Number.Agreement
import FormRules.Proofs.Number.Display

namespace FormRules

open Text Coercion

namespace Numeral

theorem isDigits_toDigits (n : Nat) : IsDigits isAsciiDigit (Nat.toDigits 10 n) := by
  refine ⟨Nat.toDigits_ne_nil, fun c hc => ?_⟩
  rw [← Date.paddedDigits_of_le (Nat.zero_le _)] at hc
  exact Date.isAsciiDigit_of_mem_paddedDigits hc

/-- The digits of a natural number are turned into the double nearest to it. -/
theorem toDouble_toDigits (n : Nat) :
    (Numeral.mk (Nat.toDigits 10 n) none none).toDouble = .ofNat n := by
  have hdigits := (isDigits_toDigits n).2
  have hrounds := Integer.rounds_decimal hdigits
  rw [← numberOf_eq_placeValue, numberOf_eq_ofDigitChars hdigits, Nat.ofDigitChars_ten_toDigits] at hrounds
  exact hrounds.unique (Double.rounds_ofNat n)

end Numeral

theorem Double.withSign_ofNat (v : Int) : (ofNat v.natAbs).withSign (decide (v < 0)) = ofInt v := by
  rw [ofNat, ofInt]
  cases decide (v < 0) <;> rfl

/-- The magnitude in the decimal text of a whole number. -/
def Magnitude.ofNat (n : Nat) : Magnitude := .finite ⟨Nat.toDigits 10 n, none, none⟩

theorem spells_toString (v : Int) :
    SpellsSigned (Magnitude.Spells isAsciiDigit) (decide (v < 0), .ofNat v.natAbs)
      (toString v).toList := by
  have hbody : (Magnitude.ofNat v.natAbs).Spells isAsciiDigit (Nat.toDigits 10 v.natAbs) := by
    have hwhole := Numeral.Spells.whole (Numeral.isDigits_toDigits v.natAbs) .absent
    rw [List.append_nil] at hwhole
    exact .finite hwhole
  rw [Double.toList_toString]
  by_cases hneg : v < 0
  · rw [if_pos hneg, decide_eq_true hneg]
    exact .mk .minus hbody
  · rw [if_neg hneg, decide_eq_false hneg]
    exact .mk .bare hbody

/-- A text that is the decimal text of a whole number between blanks. -/
def IsTextOf (v : Int) (text : List Char) : Prop :=
  ∃ before after, allBlank before = true ∧ allBlank after = true ∧
    text = before ++ ((toString v).toList ++ after)

namespace IsTextOf

variable {v : Int} {text : List Char}

theorem toString (v : Int) : IsTextOf v (toString v).toList :=
  ⟨[], [], rfl, rfl, by simp⟩

theorem spells_trim (h : IsTextOf v text) :
    SpellsSigned (Magnitude.Spells isAsciiDigit) (decide (v < 0), .ofNat v.natAbs) (trim text) := by
  obtain ⟨before, after, hbefore, hafter, rfl⟩ := h
  have hspells := spells_toString v
  rw [trim_append (List.all_eq_true.mp hbefore)
    (Magnitude.isBlank_of_mem (fun _ => isBlank_of_isAsciiDigit) hspells) (List.all_eq_true.mp hafter)]
  exact hspells

theorem toDouble_eq (v : Int) :
    (Magnitude.ofNat v.natAbs).toDouble.withSign (decide (v < 0)) = .ofInt v := by
  rw [Magnitude.ofNat, Magnitude.toDouble, Numeral.toDouble_toDigits, Double.withSign_ofNat]

theorem toNumber_eq (h : IsTextOf v text) : toNumber text = .ofInt v := by
  rw [Magnitude.toNumber_of_spells h.spells_trim, toDouble_eq]

theorem parseFloat_eq (h : IsTextOf v text) : parseFloat text = .ofInt v := by
  rw [Magnitude.parseFloat_of_spells h.spells_trim, toDouble_eq]

theorem parseInt_eq (h : IsTextOf v text) : parseInt text = .ofInt v := by
  rw [Magnitude.parseInt_of_spells h.spells_trim, Magnitude.ofNat, Magnitude.wholeDouble,
    if_neg (Numeral.isDigits_toDigits v.natAbs).1]
  exact toDouble_eq v

end IsTextOf

end FormRules
