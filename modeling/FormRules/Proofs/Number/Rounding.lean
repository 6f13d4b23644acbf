/-
The double nearest to a number.

Each magnitude with a sign has exactly one nearest double.  Quotients of whole numbers and decimals are
turned into it, also where a decimal lies so far out that it is never computed.
-/
import FormRules.Number.Numeral
import FormRules.Proofs.Number.Nearest
import Mathlib.Algebra.Order.Field.Power
import Mathlib.Tactic.NormNum

namespace FormRules

namespace Precision

/-- The magnitude of a rank.  Ranks from that of infinity on continue the scale without end. -/
def magnitude (p : Precision) (rank : Nat) : ℚ := p.units rank / 2 ^ p.scale

theorem magnitude_strictMono (p : Precision) : StrictMono p.magnitude := by
  intro a b hab
  have hunits : (p.units a : ℚ) < p.units b := by exact_mod_cast p.units_strictMono hab
  exact div_lt_div_of_pos_right hunits (by positivity)

@[simp] theorem magnitude_zero (p : Precision) : p.magnitude 0 = 0 := by
  have hzero : p.units 0 = 0 := if_pos (Nat.two_pow_pos p.fractionBits)
  rw [magnitude, hzero, Nat.cast_zero, zero_div]

theorem isNearestIn_magnitude (p : Precision) (hbits : 0 < p.fractionBits) (num : Nat) {den : Nat}
    (hden : 0 < den) : IsNearestIn p.magnitude (num / den) (p.rankNear num den) := by
  have hscale : (0 : ℚ) < 2 ^ p.scale := by positivity
  have hscaled := (p.isNearestIn_rankNear hbits num hden).mul_right (inv_pos.mpr hscale)
  have hpoint : ((num * 2 ^ p.scale : Nat) : ℚ) / den * (2 ^ p.scale)⁻¹ = num / den := by
    push_cast
    field_simp
  rw [hpoint] at hscaled
  exact hscaled

end Precision

namespace Double

open Precision (double)

theorem withSign_eq_nan_iff {negative : Bool} {x : Double} :
    x.withSign negative = nan ↔ x = nan := by
  cases negative <;> cases x <;> simp [withSign, neg]

/-- A double is the rounding of a magnitude with a sign when its rank is that of the nearest magnitude.
Where this one lies beyond the finite doubles the rounding is infinity. -/
def Rounds (d : Double) (negative : Bool) (x : ℚ) : Prop :=
  ∃ rank, IsNearestIn double.magnitude x rank ∧ d = ofRank negative rank

theorem Rounds.unique {d e : Double} {negative : Bool} {x : ℚ} (hd : d.Rounds negative x)
    (he : e.Rounds negative x) : d = e := by
  obtain ⟨rank, hrank, rfl⟩ := hd
  obtain ⟨other, hother, rfl⟩ := he
  rw [hrank.unique double.magnitude_strictMono hother]

theorem Rounds.ne_nan {d : Double} {negative : Bool} {x : ℚ} (h : d.Rounds negative x) :
    d ≠ nan := by
  obtain ⟨rank, _, rfl⟩ := h
  exact nofun

theorem Rounds.withSign {d : Double} {x : ℚ} (h : d.Rounds false x) (negative : Bool) :
    (d.withSign negative).Rounds negative x := by
  obtain ⟨rank, hrank, rfl⟩ := h
  cases negative <;> exact ⟨rank, hrank, rfl⟩

theorem rounds_ofRatio (negative : Bool) (num : Nat) {den : Nat} (hden : 0 < den) :
    (ofRatio negative num den).Rounds negative (num / den) :=
  ⟨double.rankNear num den, double.isNearestIn_magnitude (by decide) num hden, by
    simp only [ofRatio, ofRank, Precision.nearest_eq]⟩

theorem rounds_ofNat (n : Nat) : (ofNat n).Rounds false n := by
  have h := rounds_ofRatio false n Nat.one_pos
  rwa [Nat.cast_one, div_one] at h

/-- A magnitude less than half the least positive one is rounded to zero. -/
theorem rounds_zero {x : ℚ} (hx : 0 ≤ x) (hsmall : 2 * x < double.magnitude 1) :
    zero.Rounds false x := by
  refine ⟨0, fun other hother => Or.inl ?_, rfl⟩
  have hle : double.magnitude 1 ≤ double.magnitude other :=
    double.magnitude_strictMono.monotone (Nat.one_le_iff_ne_zero.mpr hother)
  rw [Precision.magnitude_zero, zero_sub, abs_neg, abs_of_nonneg hx, abs_of_pos (by linarith)]
  linarith

/-- A quotient that is not below the magnitude of infinity's rank is rounded to infinity. -/
theorem rounds_infinity {num den : Nat} (hden : 0 < den)
    (hlarge : double.magnitude double.top ≤ (num : ℚ) / den) : infinity.Rounds false (num / den) := by
  have hnear := double.isNearestIn_magnitude (by decide) num hden
  refine ⟨double.rankNear num den, hnear, ?_⟩
  have htop : double.top ≤ double.rankNear num den := by
    by_contra hbelow
    have hless := double.magnitude_strictMono (Nat.lt_of_not_le hbelow)
    have hle := hnear.le double.top
    rw [abs_of_nonpos (by linarith), abs_of_nonpos (by linarith)] at hle
    linarith
  simp only [infinity, ofRank, Nat.min_self, Nat.min_eq_left htop]

end Double

namespace Decimal

open Precision (double)

/-- The number that a decimal stands for. -/
def value (d : Decimal) : ℚ := d.digits * 10 ^ d.exponent

theorem value_eq_div (d : Decimal) :
    d.value = (d.digits * 10 ^ d.exponent.toNat : Nat) / (10 ^ (-d.exponent).toNat : Nat) := by
  rw [value]
  obtain ⟨n, hn | hn⟩ := d.exponent.eq_nat_or_neg
  · have hneg : (-(n : Int)).toNat = 0 := by omega
    rw [hn, Int.toNat_natCast, hneg, zpow_natCast]
    push_cast
    ring
  · have hneg : (-(n : Int)).toNat = 0 := by omega
    rw [hn, hneg, neg_neg, Int.toNat_natCast, zpow_neg, zpow_natCast]
    push_cast
    ring

theorem value_nonneg (d : Decimal) : 0 ≤ d.value := by
  rw [value]
  positivity

/-- The rank of infinity continues the scale at two to the power of 1024. -/
theorem magnitude_top : double.magnitude double.top = 2 ^ 1024 := by
  have hplace : double.top = 2 ^ double.fractionBits + 2046 * 2 ^ double.fractionBits := rfl
  have hunits : double.units (2 ^ double.fractionBits + 2046 * 2 ^ double.fractionBits) =
      2 ^ double.fractionBits * 2 ^ 2046 :=
    double.units_add_mul (Or.inl le_rfl) (Nat.le_mul_of_pos_left _ Nat.two_pos)
  have hbits : double.fractionBits = 52 := rfl
  have hscale : double.scale = 1074 := rfl
  rw [Precision.magnitude, hplace, hunits, hbits, hscale, Nat.cast_mul, Nat.cast_pow, Nat.cast_pow,
    Nat.cast_ofNat, div_eq_iff (by positivity), ← pow_add, ← pow_add]

theorem magnitude_one : double.magnitude 1 = 1 / 2 ^ 1074 := by
  have hunits : double.units 1 = 1 := rfl
  have hscale : double.scale = 1074 := rfl
  rw [Precision.magnitude, hunits, hscale, Nat.cast_one]

/-- Powers of ten are at least those of eight. -/
theorem two_pow_le_ten_pow {m n : Nat} (h : m ≤ 3 * n) : (2 : ℚ) ^ m ≤ 10 ^ n := by
  calc (2 : ℚ) ^ m
      ≤ 2 ^ (3 * n) := pow_le_pow_right₀ (by norm_num) h
    _ = 8 ^ n := by rw [pow_mul]; norm_num
    _ ≤ 10 ^ n := pow_le_pow_left₀ (by norm_num) (by norm_num) n

theorem rounds_toDouble_of_large {d : Decimal} (hdigits : d.digits ≠ 0) (h : 400 < d.exponent) :
    Double.infinity.Rounds false d.value := by
  have hdigits' : (1 : ℚ) ≤ d.digits := by exact_mod_cast Nat.one_le_iff_ne_zero.mpr hdigits
  have hlarge : double.magnitude double.top ≤ d.value := by
    calc double.magnitude double.top
        = 2 ^ 1024 := magnitude_top
      _ ≤ 10 ^ 400 := two_pow_le_ten_pow (by decide)
      _ = 10 ^ (400 : Int) := (zpow_ofNat 10 400).symm
      _ ≤ 10 ^ d.exponent := zpow_le_zpow_right₀ (by norm_num) h.le
      _ ≤ d.digits * 10 ^ d.exponent := le_mul_of_one_le_left (by positivity) hdigits'
  rw [value_eq_div] at hlarge ⊢
  exact Double.rounds_infinity (Nat.pow_pos (by decide)) hlarge

theorem rounds_toDouble_of_small {d : Decimal} (h : d.exponent < -(d.digits.log2 + 400 : Int)) :
    Double.zero.Rounds false d.value := by
  have hdigits : (d.digits : ℚ) < 2 ^ (d.digits.log2 + 1) := by exact_mod_cast Nat.lt_log2_self
  have hexponent : d.exponent ≤ -((d.digits.log2 + 401 : Nat) : Int) := by omega
  have hpowers : 2 * (2 : ℚ) ^ (d.digits.log2 + 1) * 2 ^ 1074 ≤ 10 ^ (d.digits.log2 + 401) := by
    rw [← pow_succ' 2 (d.digits.log2 + 1), ← pow_add]
    exact two_pow_le_ten_pow (by omega)
  have hpower : (10 : ℚ) ^ d.exponent ≤ 10 ^ (-((d.digits.log2 + 401 : Nat) : Int)) :=
    zpow_le_zpow_right₀ (by norm_num) hexponent
  refine Double.rounds_zero d.value_nonneg ?_
  calc 2 * d.value
      ≤ 2 * (d.digits * 10 ^ (-((d.digits.log2 + 401 : Nat) : Int))) :=
        mul_le_mul_of_nonneg_left (mul_le_mul_of_nonneg_left hpower (Nat.cast_nonneg _)) zero_le_two
    _ < 2 * (2 ^ (d.digits.log2 + 1) * 10 ^ (-((d.digits.log2 + 401 : Nat) : Int))) := by gcongr
    _ = 2 * 2 ^ (d.digits.log2 + 1) / 10 ^ (d.digits.log2 + 401) := by
        rw [zpow_neg, zpow_natCast, mul_div_assoc, div_eq_mul_inv]
    _ ≤ 1 / 2 ^ 1074 :=
        (div_le_div_iff₀ (by positivity) (by positivity)).mpr (hpowers.trans_eq (one_mul _).symm)
    _ = double.magnitude 1 := magnitude_one.symm

/-- A decimal is turned into the nearest double. -/
theorem rounds_toDouble (d : Decimal) : d.toDouble.Rounds false d.value := by
  unfold toDouble
  split
  · rename_i hzero
    have hvalue : d.value = 0 := by rw [value, hzero, Nat.cast_zero, zero_mul]
    rw [hvalue]
    refine Double.rounds_zero le_rfl ?_
    rw [mul_zero, magnitude_one]
    positivity
  split
  · rename_i hdigits hlarge
    exact rounds_toDouble_of_large hdigits hlarge
  split
  · rename_i hsmall
    exact rounds_toDouble_of_small hsmall
  · rw [value_eq_div]
    exact Double.rounds_ofRatio false _ (Nat.pow_pos (by decide))

end Decimal

end FormRules
