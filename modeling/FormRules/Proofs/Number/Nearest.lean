/-
Rounding to the nearest magnitude.

Among magnitudes in ascending order at most one is nearest to a number when a tie goes to the even
place.  Rounding a quotient to a whole number and rounding it to a rank both find this one.
-/
import FormRules.Number.Precision
import Mathlib.Tactic.Ring
import Mathlib.Tactic.Linarith
import Mathlib.Tactic.FieldSimp
import Mathlib.Tactic.Positivity

namespace FormRules

/-- A place of a sequence whose member is nearer to `x` than all others, or as near and at an even
place. -/
def IsNearestIn (sequence : Nat → ℚ) (x : ℚ) (place : Nat) : Prop :=
  ∀ other ≠ place, |sequence place - x| < |sequence other - x| ∨
    |sequence place - x| = |sequence other - x| ∧ place % 2 = 0

namespace IsNearestIn

variable {sequence : Nat → ℚ} {x : ℚ} {place : Nat}

theorem le (h : IsNearestIn sequence x place) (other : Nat) :
    |sequence place - x| ≤ |sequence other - x| := by
  by_cases hother : other = place
  · rw [hother]
  · rcases h other hother with hlt | ⟨heq, _⟩
    · exact hlt.le
    · exact heq.le

/-- Scaling keeps the nearest place. -/
theorem mul_right (h : IsNearestIn sequence x place) {c : ℚ} (hc : 0 < c) :
    IsNearestIn (fun n => sequence n * c) (x * c) place := by
  have hscale : ∀ n, |sequence n * c - x * c| = |sequence n - x| * c := by
    intro n
    rw [← sub_mul, abs_mul, abs_of_pos hc]
  intro other hother
  rw [hscale, hscale]
  rcases h other hother with hlt | ⟨heq, heven⟩
  · exact Or.inl (mul_lt_mul_of_pos_right hlt hc)
  · exact Or.inr ⟨by rw [heq], heven⟩

/-- Between two even places an odd one is nearer to their middle. -/
theorem not_lt (hmono : StrictMono sequence) {other : Nat} (h : IsNearestIn sequence x place)
    (hother : IsNearestIn sequence x other) : ¬ place < other := by
  intro hlt
  have hends := hmono hlt
  rcases h other hlt.ne' with hnear | ⟨htie, heven⟩
  · exact absurd hnear (hother.le place).not_gt
  rcases hother place hlt.ne with hnear | ⟨_, heven'⟩
  · exact absurd hnear htie.le.not_gt
  have hnext : place + 1 < other := by omega
  have hbetween := hmono (Nat.lt_succ_self place)
  have hbetween' := hmono hnext
  have hle := h.le (place + 1)
  rcases abs_eq_abs.mp htie with hsame | hopposite
  · linarith
  · rw [abs_of_neg (by linarith : sequence place - x < 0)] at hle
    rcases abs_cases (sequence (place + 1) - x) with ⟨habs, _⟩ | ⟨habs, _⟩ <;> linarith

theorem unique (hmono : StrictMono sequence) {other : Nat} (h : IsNearestIn sequence x place)
    (hother : IsNearestIn sequence x other) : place = other :=
  Nat.le_antisymm (Nat.le_of_not_lt (not_lt hmono hother h)) (Nat.le_of_not_lt (not_lt hmono h hother))

end IsNearestIn

/-- A whole number less than a half away is nearest, and so is an even one a half away. -/
theorem isNearestIn_cast {x : ℚ} {place : Nat}
    (h : |(place : ℚ) - x| < 1 / 2 ∨ |(place : ℚ) - x| = 1 / 2 ∧ place % 2 = 0) :
    IsNearestIn (fun n => (n : ℚ)) x place := by
  intro other hother
  have hapart : (1 : ℚ) ≤ |(other : ℚ) - place| := by
    have hne : (other : ℤ) - place ≠ 0 := sub_ne_zero.mpr (by exact_mod_cast hother)
    exact_mod_cast Int.one_le_abs hne
  have htriangle : |(other : ℚ) - place| ≤ |(other : ℚ) - x| + |x - place| := abs_sub_le ..
  rw [abs_sub_comm x] at htriangle
  rcases h with hlt | ⟨htie, heven⟩
  · exact Or.inl (by dsimp only; linarith)
  · rcases lt_or_eq_of_le (by linarith : |(place : ℚ) - x| ≤ |(other : ℚ) - x|) with hlt | heq
    · exact Or.inl hlt
    · exact Or.inr ⟨heq, heven⟩

/-- A quotient is rounded to the nearest whole number. -/
theorem isNearestIn_roundHalfEven (num : Nat) {den : Nat} (hden : 0 < den) :
    IsNearestIn (fun n => (n : ℚ)) (num / den) (roundHalfEven num den) := by
  have hpos : (0 : ℚ) < den := by exact_mod_cast hden
  have hnum : (num : ℚ) = den * (num / den : Nat) + (num % den : Nat) := by
    exact_mod_cast (Nat.div_add_mod num den).symm
  have hsplit : (num : ℚ) / den - (num / den : Nat) = (num % den : Nat) / den := by
    rw [hnum]
    field_simp
    ring
  have hrest : (num % den : Nat) / (den : ℚ) < 1 := by
    rw [div_lt_one hpos]
    exact_mod_cast Nat.mod_lt num hden
  have hnonneg : (0 : ℚ) ≤ (num % den : Nat) / (den : ℚ) := by positivity
  apply isNearestIn_cast
  unfold roundHalfEven
  dsimp only
  split
  · rename_i hbelow
    have hhalf : (num % den : Nat) / (den : ℚ) < 1 / 2 := by
      rw [div_lt_div_iff₀ hpos (by norm_num)]
      exact_mod_cast (by omega : num % den * 2 < 1 * den)
    rw [abs_sub_comm, hsplit, abs_of_nonneg hnonneg]
    exact Or.inl hhalf
  · split
    · rename_i habove
      have hhalf : 1 / 2 < (num % den : Nat) / (den : ℚ) := by
        rw [div_lt_div_iff₀ (by norm_num) hpos]
        exact_mod_cast (by omega : 1 * den < num % den * 2)
      push_cast
      rw [abs_sub_comm, ← sub_sub, hsplit, abs_of_neg (by linarith)]
      exact Or.inl (by linarith)
    · have htie : (num % den : Nat) / (den : ℚ) = 1 / 2 := by
        rw [div_eq_div_iff hpos.ne' (by norm_num)]
        exact_mod_cast (by omega : num % den * 2 = 1 * den)
      refine Or.inr ⟨?_, by omega⟩
      rcases Nat.mod_two_eq_zero_or_one (num / den) with heven | hodd
      · rw [heven, Nat.add_zero, abs_sub_comm, hsplit, htie]
        norm_num
      · rw [hodd]
        push_cast
        rw [abs_sub_comm, ← sub_sub, hsplit, htie]
        norm_num

namespace Precision

/-- The magnitude of a rank within a block, and of the first rank of the next one. -/
theorem units_add_mul (p : Precision) {place shift : Nat}
    (hlow : 2 ^ p.fractionBits ≤ place ∨ shift = 0) (hhigh : place ≤ 2 * 2 ^ p.fractionBits) :
    p.units (place + shift * 2 ^ p.fractionBits) = place * 2 ^ shift := by
  have hpos : 0 < 2 ^ p.fractionBits := Nat.two_pow_pos _
  simp only [units, Nat.pow_eq]
  generalize 2 ^ p.fractionBits = block at *
  rcases Nat.lt_or_ge place block with hsmall | hlarge
  · have hzero : shift = 0 := hlow.resolve_left (Nat.not_le.mpr hsmall)
    subst hzero
    rw [Nat.zero_mul, Nat.add_zero, if_pos hsmall, Nat.pow_zero, Nat.mul_one]
  · rw [if_neg (by omega), Nat.add_mul_mod_self_right, Nat.add_mul_div_right _ _ hpos]
    rcases Nat.lt_or_ge place (2 * block) with hinner | hend
    · have hmod : place % block = place - block := by
        rw [Nat.mod_eq_sub_mod hlarge, Nat.mod_eq_of_lt (by omega)]
      have hdiv : place / block = 1 :=
        Nat.div_eq_of_lt_le (by omega : 1 * block ≤ place) (by omega : place < (1 + 1) * block)
      rw [hmod, hdiv, Nat.sub_add_cancel hlarge, Nat.add_sub_cancel_left]
    · have hplace : place = 2 * block := by omega
      rw [hplace, Nat.mul_mod_left, Nat.mul_div_cancel _ hpos, Nat.zero_add, Nat.mul_comm 2 block,
        Nat.mul_assoc, ← Nat.pow_succ']
      congr 2
      omega

/-- Every rank stands in one block. -/
theorem exists_place (p : Precision) (rank : Nat) :
    ∃ place shift, rank = place + shift * 2 ^ p.fractionBits ∧
      (2 ^ p.fractionBits ≤ place ∨ shift = 0) ∧ place < 2 * 2 ^ p.fractionBits := by
  have hpos : 0 < 2 ^ p.fractionBits := Nat.two_pow_pos _
  generalize 2 ^ p.fractionBits = block at *
  rcases Nat.lt_or_ge rank block with hsmall | hlarge
  · exact ⟨rank, 0, by omega, Or.inr rfl, by omega⟩
  · have hrank := Nat.mod_add_div' rank block
    have hblocks : 1 ≤ rank / block := (Nat.one_le_div_iff hpos).mpr hlarge
    have hmod := Nat.mod_lt rank hpos
    refine ⟨rank % block + block, rank / block - 1, ?_, Or.inl (by omega), by omega⟩
    rw [Nat.sub_mul]
    have : block ≤ rank / block * block := Nat.le_mul_of_pos_left block hblocks
    omega

theorem units_strictMono (p : Precision) : StrictMono p.units := by
  refine strictMono_nat_of_lt_succ fun rank => ?_
  obtain ⟨place, shift, rfl, hlow, hhigh⟩ := p.exists_place rank
  rw [Nat.add_right_comm, p.units_add_mul hlow hhigh.le,
    p.units_add_mul (hlow.imp_left Nat.le_succ_of_le) hhigh]
  exact Nat.mul_lt_mul_of_pos_right (Nat.lt_succ_self place) (Nat.two_pow_pos shift)

/-- The rank that a quotient is rounded to when ranks go on beyond infinity. -/
def rankNear (p : Precision) (num den : Nat) : Nat :=
  let scaled := num * 2 ^ p.scale
  let shift := (scaled / den).log2 - p.fractionBits
  roundHalfEven scaled (den * 2 ^ shift) + shift * 2 ^ p.fractionBits

theorem nearest_eq (p : Precision) (num den : Nat) :
    p.nearest num den = min p.top (p.rankNear num den) := rfl

theorem roundHalfEven_le {num den bound : Nat} (h : num < bound * den) :
    roundHalfEven num den ≤ bound := by
  have hlt : num / den < bound := Nat.div_lt_of_lt_mul (Nat.mul_comm bound den ▸ h)
  unfold roundHalfEven
  grind

theorem le_roundHalfEven {num den bound : Nat} (hden : 0 < den) (h : bound * den ≤ num) :
    bound ≤ roundHalfEven num den := by
  have hle : bound ≤ num / den := (Nat.le_div_iff_mul_le hden).mpr h
  unfold roundHalfEven
  grind

/-- A whole number without its low bits beyond the significand stands in the block of its shift. -/
theorem shift_spec (bits n : Nat) :
    (2 ^ bits * 2 ^ (n.log2 - bits) ≤ n ∨ n.log2 - bits = 0) ∧
      n < 2 * 2 ^ bits * 2 ^ (n.log2 - bits) := by
  constructor
  · rcases Nat.eq_zero_or_pos (n.log2 - bits) with hzero | hpos
    · exact Or.inr hzero
    · refine Or.inl ?_
      have hne : n ≠ 0 := by
        rintro rfl
        simp at hpos
      rw [← Nat.pow_add, Nat.add_sub_cancel' (by omega)]
      exact Nat.log2_self_le hne
  · have hexponent : n.log2 + 1 ≤ bits + 1 + (n.log2 - bits) := by omega
    rw [← Nat.pow_succ', ← Nat.pow_add]
    exact Nat.lt_of_lt_of_le Nat.lt_log2_self (Nat.pow_le_pow_right (by decide) hexponent)

/-- Ranks from a block on have magnitudes in whole steps of the block, and those below it are smaller
than the first one of the block. -/
theorem units_cases (p : Precision) (shift rank : Nat) :
    (∃ n, p.units rank = n * 2 ^ shift) ∨
      shift ≠ 0 ∧ p.units rank < 2 ^ p.fractionBits * 2 ^ shift := by
  obtain ⟨place, own, rfl, hlow, hhigh⟩ := p.exists_place rank
  rw [p.units_add_mul hlow hhigh.le]
  rcases Nat.lt_or_ge own shift with hbelow | habove
  · refine Or.inr ⟨by omega, ?_⟩
    calc place * 2 ^ own
        < 2 * 2 ^ p.fractionBits * 2 ^ own := Nat.mul_lt_mul_of_pos_right hhigh (Nat.two_pow_pos own)
      _ = 2 ^ p.fractionBits * 2 ^ (own + 1) := by ring
      _ ≤ 2 ^ p.fractionBits * 2 ^ shift :=
        Nat.mul_le_mul_left _ (Nat.pow_le_pow_right (by decide) hbelow)
  · refine Or.inl ⟨place * 2 ^ (own - shift), ?_⟩
    rw [Nat.mul_assoc, ← Nat.pow_add, Nat.sub_add_cancel habove]

/-- The rank that a quotient is rounded to is nearest to it, counted in least steps. -/
theorem isNearestIn_rankNear (p : Precision) (hbits : 0 < p.fractionBits) (num : Nat) {den : Nat}
    (hden : 0 < den) :
    IsNearestIn (fun rank => (p.units rank : ℚ)) ((num * 2 ^ p.scale : Nat) / den)
      (p.rankNear num den) := by
  unfold rankNear
  generalize num * 2 ^ p.scale = scaled
  obtain ⟨hlow, hhigh⟩ := shift_spec p.fractionBits (scaled / den)
  dsimp only
  generalize (scaled / den).log2 - p.fractionBits = shift at *
  have hdenStep : 0 < den * 2 ^ shift := Nat.mul_pos hden (Nat.two_pow_pos shift)
  have hplaceLow : 2 ^ p.fractionBits ≤ roundHalfEven scaled (den * 2 ^ shift) ∨ shift = 0 := by
    refine hlow.imp_left fun hle => le_roundHalfEven hdenStep ?_
    rw [Nat.mul_comm den, ← Nat.mul_assoc]
    exact (Nat.le_div_iff_mul_le hden).mp hle
  have hplaceHigh : roundHalfEven scaled (den * 2 ^ shift) ≤ 2 * 2 ^ p.fractionBits := by
    refine roundHalfEven_le ?_
    rw [Nat.mul_comm den, ← Nat.mul_assoc]
    exact (Nat.div_lt_iff_lt_mul hden).mp hhigh
  have hwhole := (isNearestIn_roundHalfEven scaled hdenStep).mul_right
    (by positivity : (0 : ℚ) < 2 ^ shift)
  have hpoint : (scaled : ℚ) / (den * 2 ^ shift : Nat) * 2 ^ shift = scaled / den := by
    push_cast
    field_simp
  rw [hpoint] at hwhole
  generalize roundHalfEven scaled (den * 2 ^ shift) = place at *
  have hunits := p.units_add_mul hplaceLow hplaceHigh
  have heven : place % 2 = 0 → (place + shift * 2 ^ p.fractionBits) % 2 = 0 := by
    obtain ⟨bits, hbits⟩ := Nat.exists_eq_succ_of_ne_zero hbits.ne'
    intro hplace
    rw [hbits, Nat.pow_succ, ← Nat.mul_assoc, Nat.add_mul_mod_self_right, hplace]
  intro other hother
  dsimp only
  rw [hunits, Nat.cast_mul, Nat.cast_pow, Nat.cast_ofNat]
  rcases p.units_cases shift other with ⟨n, hn⟩ | ⟨hshift, hbelow⟩
  · have hne : n ≠ place := by
      rintro rfl
      exact hother (p.units_strictMono.injective (hn.trans hunits.symm))
    rw [hn, Nat.cast_mul, Nat.cast_pow, Nat.cast_ofNat]
    exact (hwhole n hne).imp_right fun htie => ⟨htie.1, heven htie.2⟩
  · have hreach : (2 : ℚ) ^ p.fractionBits * 2 ^ shift ≤ scaled / den := by
      rw [le_div_iff₀ (by exact_mod_cast hden)]
      exact_mod_cast (Nat.le_div_iff_mul_le hden).mp (hlow.resolve_right hshift)
    have hfirst := hwhole.le (2 ^ p.fractionBits)
    have hbelow' : (p.units other : ℚ) < 2 ^ p.fractionBits * 2 ^ shift := by exact_mod_cast hbelow
    rw [Nat.cast_pow, Nat.cast_ofNat, abs_of_nonpos (sub_nonpos.mpr hreach)] at hfirst
    rw [abs_of_neg (by linarith : (p.units other : ℚ) - scaled / den < 0)]
    exact Or.inl (by linarith)

end Precision

end FormRules
