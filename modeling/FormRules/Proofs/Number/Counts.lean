/-
Numbers of things, counted in doubles.

A natural number is rounded to a double, which keeps the order of numbers.  So a comparison with a whole
number up to two to the power of 53 is exact however large the natural number is, but for one case: the
successor of that bound is rounded to the bound and counts as it.
-/
import FormRules.Proofs.Number.Exact

namespace FormRules

open Precision (double)

/-- Rounding keeps the order of numbers. -/
theorem IsNearestIn.mono {sequence : Nat → ℚ} {x y : ℚ} {place other : Nat}
    (hmono : StrictMono sequence) (hx : IsNearestIn sequence x place)
    (hy : IsNearestIn sequence y other) (hle : x ≤ y) : place ≤ other := by
  rcases hle.eq_or_lt with rfl | hlt
  · exact (hx.unique hmono hy).le
  by_contra hless
  have hplaces := hmono (Nat.lt_of_not_le hless)
  -- The smaller number is at or above the middle of the two places, and the larger one at or below it.
  have hsmaller : sequence other + sequence place ≤ 2 * x := by
    have hnear := hx.le other
    rcases abs_cases (sequence place - x) with ⟨habs, _⟩ | ⟨habs, _⟩ <;>
      rcases abs_cases (sequence other - x) with ⟨habs', _⟩ | ⟨habs', _⟩ <;> linarith
  have hlarger : 2 * y ≤ sequence other + sequence place := by
    have hnear := hy.le place
    rcases abs_cases (sequence other - y) with ⟨habs, _⟩ | ⟨habs, _⟩ <;>
      rcases abs_cases (sequence place - y) with ⟨habs', _⟩ | ⟨habs', _⟩ <;> linarith
  linarith

namespace Double

variable {x y z : Double} {m n : Nat} {k : Int}

theorem numLe_eq_true_iff :
    x.numLe y = true ↔ ∃ a b, x.position = some a ∧ y.position = some b ∧ a ≤ b := by
  unfold numLe
  cases x.position <;> cases y.position <;> simp

theorem numLe_trans (hxy : x.numLe y = true) (hyz : y.numLe z = true) : x.numLe z = true := by
  obtain ⟨a, b, hx, hy, hab⟩ := numLe_eq_true_iff.mp hxy
  obtain ⟨b', c, hy', hz, hbc⟩ := numLe_eq_true_iff.mp hyz
  obtain rfl : b = b' := Option.some.inj (hy.symm.trans hy')
  exact numLe_eq_true_iff.mpr ⟨a, c, hx, hz, hab.trans hbc⟩

/-- Doubles are numerically equal if each is at most the other. -/
theorem numEq_eq (x y : Double) : x.numEq y = (x.numLe y && y.numLe x) := by
  unfold numEq numLe
  cases x.position with
  | none => rfl
  | some a =>
      cases y.position with
      | none => rfl
      | some b => exact Bool.eq_iff_iff.mpr (by simp [Int.le_antisymm_iff])

/-- Larger natural numbers are rounded to larger doubles or to the same. -/
theorem ofNat_mono (h : m ≤ n) : (ofNat m).numLe (ofNat n) = true := by
  obtain ⟨rank, hrank, hm⟩ := rounds_ofNat m
  obtain ⟨rank', hrank', hn⟩ := rounds_ofNat n
  have hle := hrank.mono double.magnitude_strictMono hrank' (by exact_mod_cast h)
  rw [hm, hn, numLe_eq_true_iff]
  exact ⟨_, _, rfl, rfl, Int.ofNat_le.mpr (min_le_min_left double.top hle)⟩

/-- Natural numbers up to two to the power of 53, with zeros behind them in binary, are rounded to
themselves. -/
theorem value?_ofNat_mul (hn : n ≤ 2 ^ 53) (shift : Nat) (hshift : 53 + shift < 1024) :
    (ofNat (n * 2 ^ shift)).value? = some ((n * 2 ^ shift : Nat) : ℚ) := by
  obtain ⟨rank, htop, hrank⟩ := exists_magnitude_eq hn shift hshift
  have hmagnitude : double.magnitude rank = (n * 2 ^ shift : Nat) := by
    rw [hrank]
    push_cast
    rfl
  simp only [ofNat, ofRatio, value?, nearest_of_magnitude htop hmagnitude, if_pos htop, hmagnitude,
    Bool.false_eq_true, if_false]

theorem value?_neg (x : Double) : x.neg.value? = x.value?.map Neg.neg := by
  cases x with
  | nan => rfl
  | signed negative rank _ => cases negative <;> simp only [neg, value?] <;> split <;> simp

theorem value?_ofNat (hn : n ≤ 2 ^ 53) : (ofNat n).value? = some (n : ℚ) := by
  have hvalue := value?_ofNat_mul hn 0 (by decide)
  rwa [pow_zero, mul_one] at hvalue

/-- A double that holds a whole number has no fraction to lose. -/
theorem trunc_of_value? (h : x.value? = some (k : ℚ)) : x.trunc = x := by
  obtain ⟨negative, rank, hle, rfl, htop, hrank, _⟩ := exists_of_value? h
  have hwhole : double.units rank / 2 ^ double.scale = k.natAbs := by
    rw [units_of_magnitude hrank, Nat.mul_div_cancel _ (Nat.two_pow_pos _)]
  simp only [trunc, if_pos htop, Nat.pow_eq, hwhole, ofRatio, nearest_of_magnitude htop hrank]

/-- Between a natural number and a smaller integer up to the bound stands a number that is rounded to
itself, unless the two are the bound and its successor. -/
theorem exists_value?_between (hn : 2 ^ 53 ≤ n) (hless : k < n) (hk : k.natAbs ≤ 2 ^ 53)
    (hround : ¬ (k = 2 ^ 53 ∧ n = 2 ^ 53 + 1)) :
    ∃ m, (ofNat m).value? = some (m : ℚ) ∧ k < m ∧ m ≤ n := by
  by_cases hbound : k = 2 ^ 53
  · refine ⟨(2 ^ 52 + 1) * 2 ^ 1, value?_ofNat_mul (by decide) 1 (by decide), ?_, ?_⟩ <;> omega
  · refine ⟨2 ^ 53, value?_ofNat le_rfl, ?_, hn⟩
    omega

/-- The successor of the bound is rounded to the bound. -/
theorem ofNat_bound_succ : ofNat (2 ^ 53 + 1) = ofNat (2 ^ 53) := by
  decide +kernel

section Compare

variable (hx : x.value? = some (k : ℚ)) (hk : k.natAbs ≤ 2 ^ 53)
include hx hk

theorem numLe_ofNat_iff (n : Nat) : x.numLe (ofNat n) = true ↔ k ≤ n := by
  rcases Nat.le_total n (2 ^ 53) with hn | hn
  · rw [numLe_iff hx (value?_ofNat hn)]
    exact_mod_cast Iff.rfl
  · have hbound : x.numLe (ofNat (2 ^ 53)) = true := by
      rw [numLe_iff hx (value?_ofNat le_rfl)]
      exact_mod_cast (by omega : k ≤ (2 ^ 53 : Nat))
    exact iff_of_true (numLe_trans hbound (ofNat_mono hn)) (by omega)

theorem ofNat_numLe_iff (n : Nat) :
    (ofNat n).numLe x = true ↔ n ≤ k ∨ k = 2 ^ 53 ∧ n = 2 ^ 53 + 1 := by
  by_cases hround : k = 2 ^ 53 ∧ n = 2 ^ 53 + 1
  · obtain ⟨rfl, rfl⟩ := hround
    rw [ofNat_bound_succ, numLe_iff (value?_ofNat le_rfl) hx]
    norm_num
  rw [or_iff_left hround]
  rcases Nat.le_total n (2 ^ 53) with hn | hn
  · rw [numLe_iff (value?_ofNat hn) hx]
    exact_mod_cast Iff.rfl
  constructor
  · intro hle
    by_contra hless
    obtain ⟨m, hm, hkm, hmn⟩ := exists_value?_between hn (Int.lt_of_not_ge hless) hk hround
    have hback := numLe_trans (ofNat_mono hmn) hle
    rw [numLe_iff hm hx] at hback
    exact absurd (by exact_mod_cast hback : (m : Int) ≤ k) (by omega)
  · intro hle
    obtain rfl : n = 2 ^ 53 := by omega
    rw [numLe_iff (value?_ofNat le_rfl) hx]
    exact_mod_cast hle

theorem ofNat_numEq_iff (n : Nat) :
    (ofNat n).numEq x = true ↔ n = k ∨ k = 2 ^ 53 ∧ n = 2 ^ 53 + 1 := by
  rw [numEq_eq, Bool.and_eq_true, ofNat_numLe_iff hx hk, numLe_ofNat_iff hx hk]
  omega

end Compare

end Double

end FormRules
