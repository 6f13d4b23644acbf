/-
Sets of positions and the moves between them.

The moves of an expression carry each position of a set along a relation between positions.  The rounds of
a repetition are steps of that relation, and the search that goes on only from the positions found last
finds every position that can be reached.
-/
import FormRules.Pattern.Search
import Mathlib.Data.Nat.Bitwise

namespace FormRules.Pattern

/-- So many steps of a relation between positions. -/
inductive Steps (leads : Nat → Nat → Prop) : Nat → Nat → Nat → Prop
  | stay {i : Nat} : Steps leads 0 i i
  | step {n i k j : Nat} : leads i k → Steps leads n k j → Steps leads (n + 1) i j

namespace Steps

variable {leads : Nat → Nat → Prop} {m n i j : Nat}

theorem zero_iff : Steps leads 0 i j ↔ i = j := by
  constructor
  · rintro ⟨⟩
    rfl
  · rintro rfl
    exact .stay

theorem succ_iff : Steps leads (n + 1) i j ↔ ∃ k, leads i k ∧ Steps leads n k j := by
  constructor
  · rintro (_ | ⟨hstep, hrest⟩)
    exact ⟨_, hstep, hrest⟩
  · rintro ⟨k, hstep, hrest⟩
    exact .step hstep hrest

theorem add_iff : Steps leads (m + n) i j ↔ ∃ k, Steps leads m i k ∧ Steps leads n k j := by
  induction m generalizing i with
  | zero => simp [zero_iff]
  | succ m ih =>
      rw [Nat.add_right_comm]
      simp only [succ_iff, ih]
      exact ⟨fun ⟨k, hstep, l, hrest⟩ => ⟨l, ⟨k, hstep, hrest.1⟩, hrest.2⟩,
        fun ⟨l, ⟨k, hstep, hrest⟩, hlast⟩ => ⟨k, hstep, l, hrest, hlast⟩⟩

/-- What holds at a position and is kept by every step holds where the steps lead. -/
theorem invariant (holds : Nat → Prop) (hstep : ∀ i j, holds i → leads i j → holds j) (hi : holds i)
    (h : Steps leads n i j) : holds j := by
  induction h with
  | stay => exact hi
  | step hfirst _ ih => exact ih (hstep _ _ hi hfirst)

/-- Where no step leads back, the steps that stay in place can be left out. -/
theorem exists_le (hle : ∀ i j, leads i j → i ≤ j) (h : Steps leads n i j) :
    i ≤ j ∧ ∃ m ≤ n, m ≤ j - i ∧ Steps leads m i j := by
  induction h with
  | stay => exact ⟨le_rfl, 0, le_rfl, Nat.zero_le _, .stay⟩
  | @step n i k j hstep _ ih =>
      obtain ⟨hkj, m, hmn, hm, hsteps⟩ := ih
      have hik := hle i k hstep
      refine ⟨hik.trans hkj, ?_⟩
      rcases hik.eq_or_lt with rfl | hlt
      · exact ⟨m, by omega, hm, hsteps⟩
      · exact ⟨m + 1, by omega, by omega, .step hstep hsteps⟩

end Steps

/-- A function on sets of positions that carries each position along a relation. -/
def Follows (step : Nat → Nat) (leads : Nat → Nat → Prop) : Prop :=
  ∀ marks j, (step marks).testBit j = true ↔ ∃ i, marks.testBit i = true ∧ leads i j

/-- Bit by bit, a set of positions tells where a condition holds. -/
theorem testBit_positionsWhere (holds : Nat → Bool) (count i : Nat) :
    (positionsWhere holds count).testBit i = true ↔ i < count ∧ holds i = true := by
  have hlist : ∀ (list : List Nat) (i : Nat),
      (list.foldr (fun i later => 2 * later + (holds i).toNat) 0).testBit i =
        (list[i]?.map holds).getD false := by
    intro list
    induction list with
    | nil => simp
    | cons first list ih =>
        intro i
        rw [List.foldr_cons, ← Nat.bit_val]
        cases i with
        | zero => rw [Nat.testBit_bit_zero]; rfl
        | succ i => rw [Nat.testBit_bit_succ, ih]; rfl
  rw [positionsWhere, hlist]
  by_cases hi : i < count <;> simp [hi]

section Repetition

variable {step : Nat → Nat} {leads : Nat → Nat → Prop}

theorem iterate_eq (step : Nat → Nat) (count marks : Nat) :
    iterate step count marks = step^[count] marks := by
  induction count generalizing marks with
  | zero => rfl
  | succ count ih =>
      rw [iterate]
      split
      · rename_i hfixed
        exact (Function.iterate_fixed hfixed (count + 1)).symm
      · rw [ih, Function.iterate_succ_apply]

theorem Follows.iterate (h : Follows step leads) (count : Nat) :
    Follows (iterate step count) (Steps leads count) := by
  intro marks j
  rw [iterate_eq]
  induction count generalizing marks with
  | zero => simp [Steps.zero_iff]
  | succ count ih =>
      rw [Function.iterate_succ_apply, ih]
      simp only [h marks, Steps.succ_iff]
      exact ⟨fun ⟨k, ⟨i, hi, hstep⟩, hrest⟩ => ⟨i, hi, k, hstep, hrest⟩,
        fun ⟨i, hi, k, hstep, hrest⟩ => ⟨k, ⟨i, hi, hstep⟩, hrest⟩⟩

/-- From the positions found last the search reaches what all positions found so far lead to, because the
positions found earlier lead only to such ones. -/
theorem Follows.closure_iff (h : Follows step leads) {frontier reached : Nat}
    (hfrontier : ∀ i, frontier.testBit i = true → reached.testBit i = true)
    (hclosed : ∀ i j, reached.testBit i = true → frontier.testBit i = false → leads i j →
      reached.testBit j = true) (count j : Nat) :
    (closure step count frontier reached).testBit j = true ↔
      ∃ n ≤ count, ∃ i, reached.testBit i = true ∧ Steps leads n i j := by
  induction count generalizing frontier reached with
  | zero => simp [closure, Steps.zero_iff]
  | succ count ih =>
      have hfresh : ∀ j, (step frontier ^^^ (step frontier &&& reached)).testBit j = true ↔
          (step frontier).testBit j = true ∧ reached.testBit j = false := by
        intro j
        rw [Nat.testBit_xor, Nat.testBit_and]
        cases (step frontier).testBit j <;> cases reached.testBit j <;> decide
      have hnext : ∀ i j, reached.testBit i = true → leads i j →
          (reached ||| (step frontier ^^^ (step frontier &&& reached))).testBit j = true := by
        intro i j hi hstep
        rw [Nat.testBit_or, Bool.or_eq_true, hfresh]
        by_cases hlast : frontier.testBit i = true
        · have hfound := (h frontier j).mpr ⟨i, hlast, hstep⟩
          cases hreached : reached.testBit j <;> simp [hfound]
        · exact Or.inl (hclosed i j hi (Bool.of_not_eq_true hlast) hstep)
      rw [closure]
      generalize step frontier ^^^ (step frontier &&& reached) = fresh at *
      split
      · -- Nothing new was found, so no step leads out of the positions reached.
        rename_i hnone
        rw [hnone, Nat.or_zero] at hnext
        constructor
        · exact fun hj => ⟨0, Nat.zero_le _, j, hj, .stay⟩
        · rintro ⟨n, _, i, hi, hsteps⟩
          exact hsteps.invariant (reached.testBit · = true) hnext hi
      · have hreached : ∀ i, (reached ||| fresh).testBit i = true ↔
            reached.testBit i = true ∨ fresh.testBit i = true := by simp
        rw [ih (fun i hi => (hreached i).mpr (Or.inr hi)) ?_]
        · constructor
          · rintro ⟨n, hn, i, hi, hsteps⟩
            rcases (hreached i).mp hi with hold | hnew
            · exact ⟨n, by omega, i, hold, hsteps⟩
            · obtain ⟨k, hk, hstep⟩ := (h frontier i).mp ((hfresh i).mp hnew).1
              exact ⟨n + 1, by omega, k, hfrontier k hk, .step hstep hsteps⟩
          · rintro ⟨n, hn, i, hi, hsteps⟩
            cases hsteps with
            | stay => exact ⟨0, Nat.zero_le _, j, (hreached j).mpr (Or.inl hi), .stay⟩
            | @step n _ k _ hstep hrest => exact ⟨n, by omega, k, hnext i k hi hstep, hrest⟩
        · intro i j hi hold hstep
          rcases (hreached i).mp hi with hi | hnew
          · exact hnext i j hi hstep
          · rw [hold] at hnew
            cases hnew

theorem Follows.closure (h : Follows step leads) (count : Nat) :
    Follows (fun marks => closure step count marks marks) fun i j => ∃ n ≤ count, Steps leads n i j := by
  intro marks j
  have hclosed : ∀ i j, marks.testBit i = true → marks.testBit i = false → leads i j →
      marks.testBit j = true := by
    intro i j hi hnot
    rw [hi] at hnot
    cases hnot
  rw [h.closure_iff (fun _ => id) hclosed]
  exact ⟨fun ⟨n, hn, i, hi, hsteps⟩ => ⟨i, hi, n, hn, hsteps⟩,
    fun ⟨i, hi, n, hn, hsteps⟩ => ⟨n, hn, i, hi, hsteps⟩⟩

end Repetition

/-- Where moves lead from a position. -/
def Moves.Leads : Moves → Nat → Nat → Prop
  | stay, i, j => i = j
  | take starts width, i, j => starts.testBit i = true ∧ j = i + width
  | seq first second, i, j => ∃ k, first.Leads i k ∧ second.Leads k j
  | either first second, i, j => first.Leads i j ∨ second.Leads i j
  | repeated least more body, i, j => ∃ n, least ≤ n ∧ n ≤ least + more ∧ Steps body.Leads n i j

/-- Moves carry every position of a set to where they lead from it. -/
theorem Moves.follows_run (moves : Moves) : Follows moves.run moves.Leads := by
  induction moves with
  | stay => exact fun marks j => by simp [run, Leads]
  | take starts width =>
      intro marks j
      simp only [run, Leads, Nat.testBit_shiftLeft, Nat.testBit_and, Bool.and_eq_true, decide_eq_true_eq]
      constructor
      · rintro ⟨hle, hmark, hstart⟩
        exact ⟨j - width, hmark, hstart, by omega⟩
      · rintro ⟨i, hmark, hstart, rfl⟩
        rw [Nat.add_sub_cancel]
        exact ⟨Nat.le_add_left width i, hmark, hstart⟩
  | seq first second ihFirst ihSecond =>
      intro marks j
      simp only [run, Leads, ihSecond _ j, ihFirst marks]
      exact ⟨fun ⟨k, ⟨i, hi, hfirst⟩, hsecond⟩ => ⟨i, hi, k, hfirst, hsecond⟩,
        fun ⟨i, hi, k, hfirst, hsecond⟩ => ⟨k, ⟨i, hi, hfirst⟩, hsecond⟩⟩
  | either first second ihFirst ihSecond =>
      intro marks j
      simp only [run, Leads, Nat.testBit_or, Bool.or_eq_true, ihFirst marks j, ihSecond marks j,
        ← exists_or, ← and_or_left]
  | repeated least more body ih =>
      intro marks j
      simp only [run, Leads]
      rw [ih.closure more _ j]
      simp only [ih.iterate least marks]
      constructor
      · rintro ⟨k, ⟨i, hi, hleast⟩, n, hn, hmore⟩
        exact ⟨i, hi, least + n, by omega, by omega, Steps.add_iff.mpr ⟨k, hleast, hmore⟩⟩
      · rintro ⟨i, hi, n, hleast, hmore, hsteps⟩
        obtain ⟨rest, rfl⟩ := Nat.exists_eq_add_of_le hleast
        obtain ⟨k, hfirst, hrest⟩ := Steps.add_iff.mp hsteps
        exact ⟨k, ⟨i, hi, hfirst⟩, rest, by omega, hrest⟩

end FormRules.Pattern
