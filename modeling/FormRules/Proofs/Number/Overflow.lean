/-
Numbers beyond the finite doubles.

A number that is too large is rounded to infinity.  Two readings of one text that are both infinite are
numerically equal, whatever the text says; behind the mark of a radix none is.
-/
import FormRules.Proofs.Number.Agreement
import FormRules.Proofs.Number.Exact

namespace FormRules

open Text Coercion

open Precision (double)

namespace Double

variable {x y : Double}

/-- A whole number of 64 bits is rounded to a finite double. -/
theorem isFinite_ofNat {n : Nat} (hn : n ≤ 2 ^ 64) : (ofNat n).isFinite = true := by
  obtain ⟨rank, htop, hrank⟩ := exists_magnitude_eq (n := 1) (by decide) 64 (by decide)
  have hnearest := double.isNearestIn_magnitude (by decide) n Nat.one_pos
  have hle := hnearest.place_le double.magnitude_strictMono rank (by
    rw [hrank, Nat.cast_one, div_one, one_mul]
    exact_mod_cast hn)
  have hbelow : double.nearest n 1 < double.top := by
    rw [Precision.nearest_eq]
    omega
  exact decide_eq_true hbelow

/-- Nothing is numerically equal to not-a-number. -/
theorem ne_nan_of_numEq (h : x.numEq y = true) : x ≠ .nan ∧ y ≠ .nan := by
  constructor
  · rintro rfl
    cases h
  · rintro rfl
    cases x <;> cases h

theorem isFinite_withSign (x : Double) (negative : Bool) :
    (x.withSign negative).isFinite = x.isFinite := by
  cases negative <;> cases x <;> rfl

/-- Of two numerically equal doubles both or none are finite. -/
theorem isFinite_congr (h : x.numEq y = true) : x.isFinite = y.isFinite := by
  cases x with
  | nan => cases h
  | signed negative rank _ =>
      cases y with
      | nan => cases h
      | signed negative' rank' _ =>
          have hposition : (if negative then -(rank : Int) else rank) =
              if negative' then -(rank' : Int) else rank' := beq_iff_eq.mp h
          have hrank : rank = rank' := by
            split at hposition <;> split at hposition <;> omega
          rw [isFinite, isFinite, hrank]

/-- The rounding of a magnitude is infinite exactly if infinity is its rounding. -/
theorem Rounds.isFinite_eq_false_iff {r : ℚ} (h : x.Rounds false r) :
    x.isFinite = false ↔ infinity.Rounds false r := by
  constructor
  · obtain ⟨rank, hrank, rfl⟩ := h
    intro hinfinite
    refine ⟨rank, hrank, ?_⟩
    have htop : ¬ Nat.min double.top rank < double.top := of_decide_eq_false hinfinite
    have hsame : min double.top rank = double.top :=
      Nat.le_antisymm (Nat.min_le_left ..) (Nat.le_of_not_lt htop)
    simp only [infinity, ofRank, Nat.min_self, hsame]
  · intro hinfinity
    rw [h.unique hinfinity]
    decide

end Double

/-- A number behind the mark of a radix is finite. -/
theorem isFinite_of_followsMark {radix : Nat} {text tail : List Char}
    (h : FollowsMark radix tail (trim text)) (hnan : toNumber text ≠ .nan) :
    (toNumber text).isFinite = true := by
  have hfinite : ∀ digits, radixNumber radix digits ≠ .nan →
      (radixNumber radix digits).isFinite = true := by
    intro digits hread
    have hfits := radixNumber_ne_nan_iff.mp hread
    rw [radixNumber, if_pos hfits]
    exact Double.isFinite_ofNat hfits.2.le
  rw [toNumber_eq_readWhole h.ne_nil, readWhole_of_followsMark h] at hnan ⊢
  by_cases hplus : ∃ digits, tail = '+' :: digits
  · obtain ⟨digits, rfl⟩ := hplus
    rw [readRadix_plus] at hnan ⊢
    exact hfinite digits hnan
  · rw [readRadix_of_unsigned (not_exists.mp hplus)] at hnan ⊢
    exact hfinite tail hnan

namespace Magnitude

variable {negative : Bool} {n : Numeral} {text : List Char}

/-- The digits in front of the point of a numeral are turned into the double nearest to their number. -/
theorem rounds_wholeDouble (h : SpellsSigned (Spells isAsciiDigit) (negative, .finite n) text)
    (hwhole : n.whole ≠ []) : (finite n).wholeDouble.Rounds false (placeValue 10 n.whole) := by
  have hdigits : ∀ c ∈ n.whole, isAsciiDigit c = true := fun c hc =>
    isReadable.isAsciiDigit_of_mem h c
      (List.mem_append_left _ (List.mem_append_left _ hc))
  rw [wholeDouble, if_neg hwhole]
  exact Integer.rounds_decimal hdigits

end Magnitude

end FormRules
