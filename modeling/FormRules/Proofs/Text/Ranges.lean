/-
Sets of characters given by ranges.

A set is kept as ranges in ascending order that do not meet.  Bringing ranges into this form keeps the
characters in them.
-/
import FormRules.Text.Category

namespace FormRules

namespace CharSet

/-- A code point lies in one of the ranges. -/
def Covers (ranges : List (Nat × Nat)) (code : Nat) : Prop :=
  ∃ range ∈ ranges, range.1 ≤ code ∧ code ≤ range.2

/-- The beginnings of the ranges ascend. -/
def Ascends (ranges : List (Nat × Nat)) : Prop :=
  ranges.Pairwise fun range later => range.1 ≤ later.1

variable {range following : Nat × Nat} {ranges : List (Nat × Nat)} {code : Nat}

theorem covers_cons_iff :
    Covers (range :: ranges) code ↔ (range.1 ≤ code ∧ code ≤ range.2) ∨ Covers ranges code := by
  simp only [Covers, List.mem_cons, exists_eq_or_imp]

theorem covers_insertRange_iff : Covers (insertRange range ranges) code ↔ Covers (range :: ranges) code := by
  induction ranges with
  | nil => rfl
  | cons following rest ih =>
      rw [insertRange]
      split
      · rfl
      · rw [covers_cons_iff, ih]
        simp only [covers_cons_iff]
        exact or_left_comm

theorem mem_insertRange_iff {other : Nat × Nat} :
    other ∈ insertRange range ranges ↔ other = range ∨ other ∈ ranges := by
  induction ranges with
  | nil => simp [insertRange]
  | cons following rest ih =>
      rw [insertRange]
      split
      · exact List.mem_cons
      · rw [List.mem_cons, ih, List.mem_cons]
        exact or_left_comm

theorem ascends_insertRange (h : Ascends ranges) : Ascends (insertRange range ranges) := by
  induction ranges with
  | nil => exact List.pairwise_singleton _ _
  | cons following rest ih =>
      obtain ⟨hfirst, hrest⟩ := List.pairwise_cons.mp h
      rw [insertRange]
      split
      · rename_i hle
        refine List.pairwise_cons.mpr ⟨?_, h⟩
        exact List.forall_mem_cons.mpr ⟨hle, fun other hother => Nat.le_trans hle (hfirst other hother)⟩
      · rename_i hlt
        refine List.pairwise_cons.mpr ⟨fun other hother => ?_, ih hrest⟩
        rcases mem_insertRange_iff.mp hother with rfl | hother
        · exact Nat.le_of_not_le hlt
        · exact hfirst other hother

/-- Joining begins no range before the first one. -/
theorem joinOnto_spec (h : Ascends (range :: ranges)) :
    Ascends (joinOnto range ranges) ∧ (∀ other ∈ joinOnto range ranges, range.1 ≤ other.1) ∧
      (Covers (joinOnto range ranges) code ↔ Covers (range :: ranges) code) := by
  induction ranges generalizing range with
  | nil => exact ⟨h, fun other hother => List.mem_singleton.mp hother ▸ Nat.le_refl _, Iff.rfl⟩
  | cons following rest ih =>
      obtain ⟨hfirst, hrest⟩ := List.pairwise_cons.mp h
      have hle := hfirst following List.mem_cons_self
      rw [joinOnto]
      split
      · rename_i hmeet
        have hjoined : Ascends ((range.1, max range.2 following.2) :: rest) := by
          refine List.pairwise_cons.mpr ⟨fun other hother => ?_, (List.pairwise_cons.mp hrest).2⟩
          exact hfirst other (List.mem_cons_of_mem _ hother)
        obtain ⟨hascends, hbegin, hcovers⟩ := ih hjoined
        refine ⟨hascends, hbegin, ?_⟩
        rw [hcovers, covers_cons_iff, covers_cons_iff, covers_cons_iff, ← or_assoc]
        refine or_congr_left ?_
        dsimp only
        omega
      · obtain ⟨hascends, hbegin, hcovers⟩ := ih hrest
        refine ⟨List.pairwise_cons.mpr ⟨fun other hother => ?_, hascends⟩, ?_, ?_⟩
        · exact Nat.le_trans hle (hbegin other hother)
        · exact List.forall_mem_cons.mpr
            ⟨Nat.le_refl _, fun other hother => Nat.le_trans hle (hbegin other hother)⟩
        · rw [covers_cons_iff, hcovers, ← covers_cons_iff]

/-- The characters of a set are those in the ranges that it is made of. -/
theorem mem_ofRanges_iff {c : Char} : (ofRanges ranges).mem c = true ↔ Covers ranges c.toNat := by
  have hsorted : Ascends (ranges.foldr insertRange []) ∧
      (Covers (ranges.foldr insertRange []) c.toNat ↔ Covers ranges c.toNat) := by
    induction ranges with
    | nil => exact ⟨List.Pairwise.nil, Iff.rfl⟩
    | cons range rest ih =>
        refine ⟨ascends_insertRange ih.1, ?_⟩
        rw [List.foldr_cons, covers_insertRange_iff, covers_cons_iff, covers_cons_iff, ih.2]
  rw [← hsorted.2, ofRanges]
  cases hranges : ranges.foldr insertRange [] with
  | nil => simp [joinRanges, mem, holds, Covers]
  | cons range rest =>
      have hjoined : Ascends (joinOnto range rest) ∧ (∀ other ∈ joinOnto range rest, range.1 ≤ other.1) ∧
          (Covers (joinOnto range rest) c.toNat ↔ Covers (range :: rest) c.toNat) :=
        joinOnto_spec (hranges ▸ hsorted.1)
      exact (mem_iff hjoined.1).trans hjoined.2.2

theorem covers_of_mem {set : CharSet} {c : Char} (h : set.mem c = true) : Covers set.ranges c.toNat := by
  obtain ⟨ranges⟩ := set
  change holds c.toNat ranges = true at h
  induction ranges with
  | nil => cases h
  | cons range rest ih =>
      rw [holds] at h
      refine covers_cons_iff.mpr ?_
      split at h
      · cases h
      · rename_i hbegin
        split at h
        · rename_i hlast
          exact Or.inl ⟨Nat.le_of_not_lt hbegin, hlast⟩
        · exact Or.inr (ih h)

theorem mem_unionAll {set : CharSet} {sets : List CharSet} {c : Char} (hset : set ∈ sets)
    (h : set.mem c = true) : (unionAll sets).mem c = true := by
  obtain ⟨range, hrange, hc⟩ := covers_of_mem h
  exact mem_ofRanges_iff.mpr ⟨range, List.mem_flatMap.mpr ⟨set, hset, hrange⟩, hc⟩

/-- The set of two characters. -/
def pair (first second : Char) : CharSet :=
  ⟨[(first.toNat, first.toNat), (second.toNat, second.toNat)]⟩

theorem mem_pair_iff {first second c : Char} (h : first.toNat ≤ second.toNat) :
    (pair first second).mem c = true ↔ c = first ∨ c = second := by
  have hascends : (pair first second).ranges.Pairwise fun range later => range.1 ≤ later.1 :=
    List.pairwise_pair.mpr h
  rw [mem_iff hascends]
  simp only [pair, List.mem_cons, List.not_mem_nil, or_false, exists_eq_or_imp, exists_eq_left,
    ← Char.toNat_inj]
  omega

end CharSet

namespace Text

/-- What stands in a stretch of a line is in the set that the lines are written for. -/
theorem mem_setOf {lines : List String} {line : String} {range : Nat × Nat} {c : Char} (hline : line ∈ lines)
    (hrange : range ∈ readStretches line) (hc : range.1 ≤ c.toNat ∧ c.toNat ≤ range.2) :
    (RangeTable.setOf lines).mem c = true := by
  have hread : (readSet line).mem c = true := CharSet.mem_ofRanges_iff.mpr ⟨range, hrange, hc⟩
  obtain ⟨inner, hinner, hinside⟩ := CharSet.covers_of_mem hread
  exact CharSet.mem_ofRanges_iff.mpr ⟨inner, List.mem_flatMap.mpr ⟨line, hline, hinner⟩, hinside⟩

/-- A character of a stretch that some line of an entry has. -/
theorem mem_find? {table : RangeTable} {name : String} {range : Nat × Nat} {c : Char}
    (h : (List.find? (fun entry => entry.1.contains name) table).any (fun entry =>
      entry.2.any fun line => (readStretches line).contains range) = true)
    (hc : range.1 ≤ c.toNat ∧ c.toNat ≤ range.2) : ∃ set ∈ table.find? name, set.mem c = true := by
  obtain ⟨entry, hentry, hlines⟩ := (Option.any_eq_true _ _).mp h
  obtain ⟨line, hline, hrange⟩ := List.any_eq_true.mp hlines
  refine ⟨RangeTable.setOf entry.2, ?_, mem_setOf hline (List.contains_iff_mem.mp hrange) hc⟩
  rw [RangeTable.find?, hentry]
  rfl

/-- The last code point that a character can have. -/
theorem toNat_le (c : Char) : c.toNat ≤ 0x10FFFF := by
  obtain h | ⟨_, h⟩ := c.valid
  · exact Nat.le_of_lt (Nat.lt_trans h (by decide))
  · exact Nat.le_of_lt_succ h

/-- The digits of every script are those of the class of digits. -/
theorem mem_decimalDigitSet : decimalDigitSet.mem = isDecimalDigit := by
  funext c
  rw [Bool.eq_iff_iff, decimalDigitSet, CharSet.mem_ofRanges_iff, isDecimalDigit, List.any_eq_true]
  constructor
  · rintro ⟨_, hrange, hfirst, hlast⟩
    obtain ⟨first, hmem, rfl⟩ := List.mem_map.mp hrange
    exact ⟨first, hmem, decide_eq_true ⟨hfirst, Nat.lt_succ_of_le hlast⟩⟩
  · rintro ⟨first, hmem, hinside⟩
    obtain ⟨hfirst, hlast⟩ := of_decide_eq_true hinside
    exact ⟨_, List.mem_map_of_mem hmem, hfirst, Nat.le_of_lt_succ hlast⟩

end Text

end FormRules
