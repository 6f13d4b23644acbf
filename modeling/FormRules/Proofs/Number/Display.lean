/-
The shortest text of a whole number.

A whole number up to two to the power of 53 is the only multiple of a power of ten within its rounding
interval, on every grid that has it.  So its digits are its shortest text, with zeros for those that a
coarser grid leaves out.
-/
import FormRules.Proofs.Number.Exact
import FormRules.Proofs.Date.Digits

namespace FormRules

open Precision (double)

namespace Shortest

variable {n rank : Nat}

/-- The least whole number above that is a magnitude, for those up to two to the power of 53. -/
def nextWhole (n : Nat) : Nat :=
  if n = 2 ^ 53 then n + 2 else n + 1

theorem lt_nextWhole (n : Nat) : n < nextWhole n := by
  unfold nextWhole
  split <;> omega

theorem exists_units_eq_nextWhole (hn : n ≤ 2 ^ 53) :
    ∃ above, double.units above = nextWhole n * 2 ^ double.scale := by
  have hbits : 2 * 2 ^ double.fractionBits = 2 ^ 53 := rfl
  unfold nextWhole
  split
  · -- Beyond the end of the significand only every second whole number is a magnitude.
    rename_i htop
    subst htop
    obtain ⟨above, habove⟩ := double.exists_units_eq (double.scale + 1) (n := 2 ^ 52 + 1) (by decide)
    refine ⟨above, ?_⟩
    rw [habove, Nat.pow_succ]
    ring
  · exact double.exists_units_eq double.scale (by omega)

/-- The magnitudes around a whole number reach no further than the whole numbers around it that are
magnitudes. -/
theorem units_around (hn : n ≤ 2 ^ 53) (hpos : 0 < n) (hrank : double.units rank = n * 2 ^ double.scale) :
    (n - 1) * 2 ^ double.scale ≤ double.units (rank - 1) ∧
    double.units (rank + 1) ≤ nextWhole n * 2 ^ double.scale := by
  have hmono := double.units_strictMono
  have hbits : 2 * 2 ^ double.fractionBits = 2 ^ 53 := rfl
  constructor
  · obtain ⟨below, hbelow⟩ := double.exists_units_eq double.scale (n := n - 1) (by omega)
    have hlt : below < rank := hmono.lt_iff_lt.mp (by
      rw [hbelow, hrank]
      exact Nat.mul_lt_mul_of_pos_right (by omega) (Nat.two_pow_pos double.scale))
    rw [← hbelow]
    exact hmono.monotone (by omega)
  · obtain ⟨above, habove⟩ := exists_units_eq_nextWhole hn
    have hlt : rank < above := hmono.lt_iff_lt.mp (by
      rw [habove, hrank]
      exact Nat.mul_lt_mul_of_pos_right (lt_nextWhole n) (Nat.two_pow_pos double.scale))
    rw [← habove]
    exact hmono.monotone (by omega)

/-- Two to the power of 53 and one is no multiple of ten, so it is on none of the coarser grids. -/
theorem eq_zero_of_mul_pow_eq {q m : Nat} (h : q * 10 ^ m = 2 ^ 53 + 1) : m = 0 := by
  cases m with
  | zero => rfl
  | succ m =>
      rw [Nat.pow_succ, ← Nat.mul_assoc] at h
      omega

/-- The multiples of a power of ten around a whole number that is none of them lie beyond the whole
numbers around it that are magnitudes. -/
theorem multiples_around {m : Nat} (hdvd : ¬ 10 ^ m ∣ n) :
    n / 10 ^ m * 10 ^ m ≤ n - 1 ∧ nextWhole n ≤ (n / 10 ^ m + 1) * 10 ^ m := by
  have hdiv := Nat.div_add_mod' n (10 ^ m)
  have hmod := Nat.mod_lt n (Nat.pow_pos (by decide) : 0 < 10 ^ m)
  have hrem : n % 10 ^ m ≠ 0 := fun hzero => hdvd (Nat.dvd_of_mod_eq_zero hzero)
  have hnext : n + 1 ≤ (n / 10 ^ m + 1) * 10 ^ m := by
    rw [Nat.succ_mul]
    omega
  refine ⟨by omega, ?_⟩
  unfold nextWhole
  split
  · rename_i htop
    refine Nat.lt_of_le_of_ne hnext fun heq => ?_
    have hzero := eq_zero_of_mul_pow_eq (htop ▸ heq.symm)
    rw [hzero, Nat.pow_zero] at hdvd
    exact hdvd (Nat.one_dvd n)
  · exact hnext

theorem inside_of_lt {low point high : Nat} (closed : Bool) (hlow : low < point)
    (hhigh : point < high) : inside closed low point high = true := by
  cases closed
  · exact decide_eq_true ⟨hlow, hhigh⟩
  · exact decide_eq_true ⟨hlow.le, hhigh.le⟩

theorem inside_eq_false {low point high : Nat} (closed : Bool) (h : point < low ∨ high < point) :
    inside closed low point high = false := by
  cases closed <;> simp only [inside, Bool.false_eq_true, if_false, if_true, decide_eq_false_iff_not] <;>
    omega

section Grid

variable {exponent : Int} {stepNum digits : Nat} (tie : TieRule)

/-- A grid that has the number itself gives it. -/
theorem onGrid_of_eq (hstep : step exponent = (stepNum, 1)) (hrank : 0 < rank) (hpos : 0 < stepNum)
    (h : 2 * double.units rank = digits * stepNum) : onGrid rank tie exponent = some digits := by
  have hbelow := double.units_strictMono (Nat.sub_one_lt hrank.ne')
  have habove := double.units_strictMono (Nat.lt_add_one rank)
  have hquot : 2 * double.units rank / stepNum = digits := by
    rw [h, Nat.mul_div_cancel _ hpos]
  have hfits : ∀ closed, inside closed (double.units (rank - 1) + double.units rank)
      (digits * stepNum) (double.units rank + double.units (rank + 1)) = true := fun closed =>
    inside_of_lt closed (by omega) (by rw [← h]; omega)
  have hnearer : digits * stepNum - digits * stepNum < (digits + 1) * stepNum - digits * stepNum := by
    rw [Nat.succ_mul]
    omega
  simp only [onGrid, hstep, Nat.mul_one, hquot, hfits, Bool.true_and]
  rw [h, if_pos hnearer]
  simp only [if_true, ite_self]

/-- A grid whose points around the number lie outside the rounding interval gives nothing. -/
theorem onGrid_eq_none (hstep : step exponent = (stepNum, 1))
    (hbelow : 2 * double.units rank / stepNum * stepNum < double.units (rank - 1) + double.units rank)
    (habove : double.units rank + double.units (rank + 1) <
      (2 * double.units rank / stepNum + 1) * stepNum) :
    onGrid rank tie exponent = none := by
  simp only [onGrid, hstep, Nat.mul_one, inside_eq_false _ (Or.inl hbelow),
    inside_eq_false _ (Or.inr habove), Bool.and_self, Bool.false_eq_true, if_false]

end Grid

theorem step_natCast (m : Nat) : step m = (10 ^ m * (2 ^ double.scale * 2), 1) := by
  have hneg : (-(m : Int)).toNat = 0 := by omega
  rw [step, hneg, Int.toNat_natCast, Nat.pow_eq, Nat.pow_eq, Nat.pow_eq, Nat.pow_zero, Nat.pow_succ 2]

theorem onGrid_of_dvd (hpos : 0 < n) (hrank : double.units rank = n * 2 ^ double.scale)
    (tie : TieRule) {m : Nat} (hdvd : 10 ^ m ∣ n) : onGrid rank tie m = some (n / 10 ^ m) := by
  have hgrid : 0 < 10 ^ m := Nat.pow_pos (by decide)
  have hne : 0 < rank := Nat.pos_of_ne_zero fun hzero => by
    rw [hzero] at hrank
    exact absurd hrank (Nat.mul_pos hpos (Nat.two_pow_pos double.scale)).ne
  obtain ⟨d, rfl⟩ := hdvd
  rw [Nat.mul_div_cancel_left d hgrid]
  refine onGrid_of_eq tie (step_natCast m) hne (by positivity) ?_
  rw [hrank]
  ring

theorem onGrid_of_not_dvd (hn : n ≤ 2 ^ 53) (hpos : 0 < n)
    (hrank : double.units rank = n * 2 ^ double.scale) (tie : TieRule) {m : Nat}
    (hdvd : ¬ 10 ^ m ∣ n) : onGrid rank tie m = none := by
  have hunit : 0 < 2 ^ double.scale := Nat.two_pow_pos _
  have hstep := step_natCast m
  obtain ⟨hbelow, habove⟩ := units_around hn hpos hrank
  obtain ⟨hpointBelow, hpointAbove⟩ := multiples_around hdvd
  generalize 2 ^ double.scale = unit at *
  have hquot : 2 * double.units rank / (10 ^ m * (unit * 2)) = n / 10 ^ m := by
    rw [hrank, ← Nat.mul_div_mul_right n (10 ^ m) (by omega : 0 < unit * 2)]
    congr 1
    ring
  refine onGrid_eq_none tie hstep ?_ ?_ <;> rw [hquot, ← Nat.mul_assoc, ← Nat.mul_assoc, hrank]
  · calc n / 10 ^ m * 10 ^ m * unit * 2
        ≤ (n - 1) * unit * 2 := by gcongr
      _ < (n - 1) * unit + n * unit := by
          have := Nat.mul_lt_mul_of_pos_right (by omega : n - 1 < n) hunit
          omega
      _ ≤ double.units (rank - 1) + n * unit := by omega
  · calc n * unit + double.units (rank + 1)
        ≤ n * unit + nextWhole n * unit := by omega
      _ < nextWhole n * unit * 2 := by
          have := Nat.mul_lt_mul_of_pos_right (lt_nextWhole n) hunit
          omega
      _ ≤ (n / 10 ^ m + 1) * 10 ^ m * unit * 2 := by gcongr

/-- A grid has a point within the rounding interval of a whole number exactly if it has the number. -/
theorem onGrid_natCast (hn : n ≤ 2 ^ 53) (hpos : 0 < n) (hrank : double.units rank = n * 2 ^ double.scale)
    (tie : TieRule) (m : Nat) :
    onGrid rank tie m = if 10 ^ m ∣ n then some (n / 10 ^ m) else none := by
  split
  · exact onGrid_of_dvd hpos hrank tie ‹_›
  · exact onGrid_of_not_dvd hn hpos hrank tie ‹_›

/-- The grids are searched downwards, so a whole number is found on one that has it. -/
theorem search_natCast (hn : n ≤ 2 ^ 53) (hpos : 0 < n) (hrank : double.units rank = n * 2 ^ double.scale)
    (tie : TieRule) {m finer : Nat} (hfiner : m < finer) :
    ∃ k : Nat, 10 ^ k ∣ n ∧ search rank tie finer m = ⟨n / 10 ^ k, k⟩ := by
  induction m generalizing finer with
  | zero =>
      obtain ⟨finer, rfl⟩ := Nat.exists_eq_succ_of_ne_zero (by omega : finer ≠ 0)
      have hdvd : 10 ^ 0 ∣ n := Nat.one_dvd n
      refine ⟨0, hdvd, ?_⟩
      rw [search, onGrid_natCast hn hpos hrank, if_pos hdvd]
  | succ m ih =>
      obtain ⟨finer, rfl⟩ := Nat.exists_eq_succ_of_ne_zero (by omega : finer ≠ 0)
      rw [search, onGrid_natCast hn hpos hrank]
      by_cases hdvd : 10 ^ (m + 1) ∣ n
      · rw [if_pos hdvd]
        exact ⟨m + 1, hdvd, rfl⟩
      · rw [if_neg hdvd]
        have hnext : ((m + 1 : Nat) : Int) - 1 = m := by omega
        dsimp only
        rw [hnext]
        exact ih (by omega)

end Shortest

namespace Decimal

theorem digitChars_eq (n : Nat) : digitChars n = Nat.toDigits 10 n := Nat.toList_repr

/-- A whole number without some zeros at its end is written with them. -/
theorem positional_natCast {n k : Nat} (hpos : 0 < n) (hdvd : 10 ^ k ∣ n) :
    positional ⟨n / 10 ^ k, k⟩ = Nat.toDigits 10 n := by
  obtain ⟨d, rfl⟩ := hdvd
  have hd : 0 < d := Nat.pos_of_mul_pos_left hpos
  have hzeros : ∀ c ∈ List.replicate k '0', Text.isAsciiDigit c = true := by
    intro c hc
    rw [List.eq_of_mem_replicate hc]
    rfl
  have hdigits := Date.toDigits_ofDigitChars hzeros hd
  rw [Nat.ofDigitChars_replicate_zero] at hdigits
  rw [Nat.mul_div_cancel_left d (Nat.pow_pos (by decide)), positional, digitChars_eq,
    if_pos (Int.natCast_nonneg k), Int.toNat_natCast, hdigits]

end Decimal

namespace Double

/-- The digits of a double that holds a whole number up to two to the power of 53. -/
theorem positional_shortest {n rank : Nat} (hn : n ≤ 2 ^ 53) (hpos : 0 < n)
    (hrank : double.magnitude rank = n) (tie : TieRule) :
    (shortest tie rank).positional = Nat.toDigits 10 n := by
  have hunits := units_of_magnitude hrank
  obtain ⟨k, hdvd, hfound⟩ :=
    Shortest.search_natCast hn hpos hunits tie (by decide : 308 < 640)
  have hshortest : shortest tie rank = ⟨n / 10 ^ k, k⟩ := hfound
  rw [hshortest, Decimal.positional_natCast hpos hdvd]

/-- A whole number is written in its digits behind the sign. -/
theorem toList_toString (v : Int) :
    (toString v).toList = (if v < 0 then ['-'] else []) ++ Nat.toDigits 10 v.natAbs := by
  cases v with
  | ofNat n => exact Nat.toList_repr
  | negSucc n =>
      have hrepr : toString (Int.negSucc n) = "-" ++ Nat.repr (n + 1) := rfl
      rw [hrepr, String.toList_append, Nat.toList_repr, if_pos (Int.negSucc_lt_zero n)]
      rfl

/-- A double that holds a whole number up to two to the power of 53 is shown in its digits. -/
theorem toText_of_value? {x : Double} {v : Int} (hx : x.value? = some (v : ℚ))
    (hv : v.natAbs ≤ 2 ^ 53) : x.toText = toString v := by
  obtain ⟨negative, rank, hle, rfl, htop, hmagnitude, hsign⟩ := exists_of_value? hx
  by_cases hzero : rank = 0
  · -- Both zeros are shown without a sign.
    subst hzero
    rw [Precision.magnitude_zero] at hmagnitude
    have hnone : v = 0 := Int.natAbs_eq_zero.mp (by exact_mod_cast hmagnitude.symm)
    subst hnone
    rfl
  · have hpos : 0 < v.natAbs := by
      have hpositive := double.magnitude_strictMono (Nat.pos_of_ne_zero hzero)
      rw [Precision.magnitude_zero, hmagnitude] at hpositive
      exact_mod_cast hpositive
    have hdigits := positional_shortest hv hpos hmagnitude .upward
    apply String.toList_injective
    rw [toText, if_neg hzero, if_pos htop, hdigits, toList_toString, hsign hzero]
    by_cases hneg : v < 0 <;> simp [hneg]

end Double

end FormRules
