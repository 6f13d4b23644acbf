/-
The numbers that doubles hold.

A finite double holds a number, and numeric comparison of doubles is comparison of what they hold.  Whole
numbers up to two to the power of 53 are held exactly.
-/
import FormRules.Proofs.Number.Rounding
import Mathlib.Data.Int.ConditionallyCompleteOrder

namespace FormRules

open Precision (double)

namespace IsNearestIn

variable {sequence : Nat → ℚ} {x : ℚ} {place : Nat}

/-- A number that a sequence reaches is nearest to that place. -/
theorem of_eq (hmono : StrictMono sequence) (h : sequence place = x) :
    IsNearestIn sequence x place := by
  intro other hother
  rw [← h, sub_self, abs_zero]
  exact Or.inl (abs_pos.mpr (sub_ne_zero.mpr (hmono.injective.ne hother)))

/-- Rounding does not pass over a place. -/
theorem place_le (hmono : StrictMono sequence) (h : IsNearestIn sequence x place) (other : Nat)
    (hle : x ≤ sequence other) : place ≤ other := by
  by_contra hlt
  have hless := hmono (Nat.lt_of_not_le hlt)
  have hnear := h.le other
  rw [abs_of_nonneg (by linarith), abs_of_nonneg (by linarith)] at hnear
  linarith

end IsNearestIn

namespace Precision

variable (p : Precision)

/-- Whole steps of a block up to the end of the significand are magnitudes. -/
theorem exists_units_eq (shift : Nat) {n : Nat} (hn : n ≤ 2 * 2 ^ p.fractionBits) :
    ∃ rank, p.units rank = n * 2 ^ shift := by
  induction shift generalizing n with
  | zero =>
      have hfirst := p.units_add_mul (Or.inr rfl) hn
      exact ⟨n + 0 * 2 ^ p.fractionBits, hfirst⟩
  | succ shift ih =>
      rcases Nat.lt_or_ge n (2 ^ p.fractionBits) with hsmall | hlarge
      · obtain ⟨rank, hrank⟩ := ih (n := 2 * n) (by omega)
        exact ⟨rank, by rw [hrank, Nat.pow_succ']; ring⟩
      · exact ⟨_, p.units_add_mul (Or.inl hlarge) hn⟩

/-- The number at a position of the line of ranks. -/
def numberAt (position : Int) : ℚ := position.sign * p.magnitude position.natAbs

theorem magnitude_nonneg (rank : Nat) : 0 ≤ p.magnitude rank := by
  rw [← p.magnitude_zero]
  exact p.magnitude_strictMono.monotone (Nat.zero_le rank)

theorem numberAt_natCast (rank : Nat) : p.numberAt rank = p.magnitude rank := by
  cases rank with
  | zero => simp [numberAt]
  | succ rank =>
      rw [numberAt, Int.natAbs_natCast, Int.sign_eq_one_of_pos (by omega), Int.cast_one, one_mul]

theorem numberAt_neg (position : Int) : p.numberAt (-position) = -p.numberAt position := by
  rw [numberAt, Int.sign_neg, Int.natAbs_neg, Int.cast_neg, neg_mul, numberAt]

theorem numberAt_strictMono : StrictMono p.numberAt := by
  have hnat : ∀ {a b : Nat}, (a : Int) < b → p.numberAt a < p.numberAt b := by
    intro a b hab
    rw [numberAt_natCast, numberAt_natCast]
    exact p.magnitude_strictMono (by omega)
  intro a b hab
  obtain ⟨m, rfl | rfl⟩ := a.eq_nat_or_neg <;> obtain ⟨n, rfl | rfl⟩ := b.eq_nat_or_neg
  · exact hnat hab
  · omega
  · -- Zero stands on both sides of the line, so one of the two magnitudes is positive.
    rw [numberAt_neg, numberAt_natCast, numberAt_natCast]
    have hm := p.magnitude_nonneg m
    have hn := p.magnitude_nonneg n
    rcases Nat.eq_zero_or_pos m with hzero | hpos
    · have hpos := p.magnitude_strictMono (by omega : 0 < n)
      rw [p.magnitude_zero] at hpos
      linarith
    · have hpos := p.magnitude_strictMono hpos
      rw [p.magnitude_zero] at hpos
      linarith
  · rw [numberAt_neg, numberAt_neg, neg_lt_neg_iff]
    exact hnat (by omega)

end Precision

namespace Double

variable {x y : Double} {a b : ℚ}

/-- The number that a finite double holds; both zeros hold zero. -/
def value? : Double → Option ℚ
  | nan => none
  | signed negative rank _ =>
      if rank < double.top then
        some (if negative then -double.magnitude rank else double.magnitude rank)
      else none

theorem numberAt_position (h : x.value? = some a) :
    ∃ position, x.position = some position ∧ double.numberAt position = a := by
  cases x with
  | nan => cases h
  | signed negative rank _ =>
      obtain ⟨_, hvalue⟩ := Option.ite_none_right_eq_some.mp h
      refine ⟨_, rfl, ?_⟩
      rw [← Option.some.inj hvalue]
      cases negative
      · exact double.numberAt_natCast rank
      · rw [if_pos rfl, if_pos rfl, double.numberAt_neg, double.numberAt_natCast]

/-- The sign and the rank of a double that holds a whole number. -/
theorem exists_of_value? {v : Int} (h : x.value? = some (v : ℚ)) :
    ∃ negative rank hle, x = signed negative rank hle ∧ rank < double.top ∧
      double.magnitude rank = v.natAbs ∧ (rank ≠ 0 → negative = decide (v < 0)) := by
  cases x with
  | nan => cases h
  | signed negative rank hle =>
      obtain ⟨htop, hvalue⟩ := Option.ite_none_right_eq_some.mp h
      have hvalue := Option.some.inj hvalue
      refine ⟨negative, rank, hle, rfl, htop, ?_, fun hne => ?_⟩
      · have hnonneg := double.magnitude_nonneg rank
        rw [Nat.cast_natAbs, Int.cast_abs, ← hvalue]
        cases negative
        · exact (abs_of_nonneg hnonneg).symm
        · rw [if_pos rfl, abs_neg, abs_of_nonneg hnonneg]
      · have hpos := double.magnitude_strictMono (Nat.pos_of_ne_zero hne)
        rw [double.magnitude_zero] at hpos
        have hiff : (v : ℚ) < 0 ↔ negative = true := by
          rw [← hvalue]
          cases negative <;> simp <;> linarith
        rw [Int.cast_lt_zero] at hiff
        rw [Bool.eq_iff_iff, decide_eq_true_eq]
        exact hiff.symm

/-- Finite doubles are ordered as the numbers that they hold. -/
theorem numLe_iff (hx : x.value? = some a) (hy : y.value? = some b) :
    x.numLe y = true ↔ a ≤ b := by
  obtain ⟨p, hp, rfl⟩ := numberAt_position hx
  obtain ⟨q, hq, rfl⟩ := numberAt_position hy
  simp only [numLe, hp, hq, decide_eq_true_eq, double.numberAt_strictMono.le_iff_le]

/-- Finite doubles are numerically equal exactly if they hold the same number. -/
theorem numEq_iff (hx : x.value? = some a) (hy : y.value? = some b) :
    x.numEq y = true ↔ a = b := by
  obtain ⟨p, hp, rfl⟩ := numberAt_position hx
  obtain ⟨q, hq, rfl⟩ := numberAt_position hy
  simp only [numEq, hp, hq, beq_iff_eq, double.numberAt_strictMono.injective.eq_iff]

theorem isFinite_of_value? (h : x.value? = some a) : x.isFinite = true := by
  cases x with
  | nan => cases h
  | signed _ rank _ => exact decide_eq_true (Option.ite_none_right_eq_some.mp h).1

/-- Whole steps up to the end of the significand, shifted within the finite doubles, are magnitudes of
finite doubles. -/
theorem exists_magnitude_eq {n : Nat} (hn : n ≤ 2 ^ 53) (shift : Nat) (hshift : 53 + shift < 1024) :
    ∃ rank < double.top, double.magnitude rank = n * 2 ^ shift := by
  obtain ⟨rank, hrank⟩ := double.exists_units_eq (double.scale + shift) (n := n) hn
  have hmagnitude : double.magnitude rank = n * 2 ^ shift := by
    rw [Precision.magnitude, hrank, Nat.pow_add]
    push_cast
    field_simp
  refine ⟨rank, double.magnitude_strictMono.lt_iff_lt.mp ?_, hmagnitude⟩
  rw [hmagnitude, Decimal.magnitude_top]
  calc (n : ℚ) * 2 ^ shift
      ≤ 2 ^ 53 * 2 ^ shift := by gcongr; exact_mod_cast hn
    _ = 2 ^ (53 + shift) := (pow_add 2 53 shift).symm
    _ < 2 ^ 1024 := pow_lt_pow_right₀ (by norm_num) hshift

/-- A natural number that is the magnitude of a finite rank is rounded to this rank. -/
theorem nearest_of_magnitude {n rank : Nat} (htop : rank < double.top)
    (h : double.magnitude rank = n) : double.nearest n 1 = rank := by
  have hnearest := double.isNearestIn_magnitude (by decide) n Nat.one_pos
  rw [Nat.cast_one, div_one] at hnearest
  have hnear : double.rankNear n 1 = rank :=
    hnearest.unique double.magnitude_strictMono (.of_eq double.magnitude_strictMono h)
  rw [Precision.nearest_eq, hnear, Nat.min_eq_right htop.le]

/-- A whole magnitude is a whole number of least steps. -/
theorem units_of_magnitude {n rank : Nat} (h : double.magnitude rank = n) :
    double.units rank = n * 2 ^ double.scale := by
  rw [Precision.magnitude, div_eq_iff (by positivity)] at h
  exact_mod_cast h

/-- A whole number up to two to the power of 53 is rounded to itself. -/
theorem value?_ofInt {v : Int} (hv : v.natAbs ≤ 2 ^ 53) : (ofInt v).value? = some (v : ℚ) := by
  obtain ⟨rank, htop, hrank⟩ := exists_magnitude_eq hv 0 (by decide)
  rw [pow_zero, mul_one] at hrank
  have hsame := nearest_of_magnitude htop hrank
  simp only [ofInt, ofRatio, value?, hsame, if_pos htop, hrank, decide_eq_true_eq]
  congr 1
  rw [← Int.cast_natCast v.natAbs]
  split
  · have hneg : -(v.natAbs : Int) = v := by omega
    rw [← Int.cast_neg, hneg]
  · have hpos : (v.natAbs : Int) = v := by omega
    rw [hpos]

end Double

end FormRules
