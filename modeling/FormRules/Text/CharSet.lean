/-
Sets of characters as ordered ranges of code points.

Surrogates are no characters.  Where a set is cut, the code points on both sides of them count as
neighbours; ranges join only where their numbers meet.
-/
namespace FormRules

/-- A set of characters: closed ranges in ascending order with gaps between them. -/
structure CharSet where
  ranges : List (Nat × Nat)
deriving DecidableEq, Repr

namespace CharSet

def empty : CharSet := ⟨[]⟩

def isEmpty (set : CharSet) : Bool := set.ranges.isEmpty

/-- The greatest code point. -/
def lastCodePoint : Nat := 0x10FFFF

/-- The code point of the next character. -/
def next (code : Nat) : Nat := if code = 0xD7FF then 0xE000 else code + 1

/-- The code point of the character before; the first has none before it. -/
def previous (code : Nat) : Nat := if code = 0xE000 then 0xD7FF else code - 1

def ofRange (first last : Nat) : CharSet := ⟨[(first, last)]⟩

def ofChar (c : Char) : CharSet := ofRange c.toNat c.toNat

def all : CharSet := ofRange 0 lastCodePoint

/-- Whether a code point stands in one of the ranges; a range that begins beyond it ends the
search. -/
def holds (code : Nat) : List (Nat × Nat) → Bool
  | [] => false
  | (first, last) :: rest =>
      if code < first then false else if code ≤ last then true else holds code rest

def mem (set : CharSet) (c : Char) : Bool := holds c.toNat set.ranges

theorem holds_iff {code : Nat} {ranges : List (Nat × Nat)}
    (h : ranges.Pairwise fun range later => range.1 ≤ later.1) :
    holds code ranges = true ↔ ∃ range ∈ ranges, range.1 ≤ code ∧ code ≤ range.2 := by
  induction ranges with
  | nil => simp [holds]
  | cons range rest ih =>
      obtain ⟨hfirst, hrest⟩ := List.pairwise_cons.mp h
      simp only [holds, List.mem_cons, exists_eq_or_imp, ← ih hrest]
      by_cases hbelow : code < range.1
      · have hnot : ¬ holds code rest = true := by
          rw [ih hrest]
          rintro ⟨later, hmem, hle, _⟩
          have := hfirst later hmem
          omega
        simp [hbelow, hnot, Nat.not_le_of_lt hbelow]
      · by_cases hinside : code ≤ range.2
        · simp [hbelow, hinside, Nat.le_of_not_lt hbelow]
        · simp [hbelow, hinside]

/-- A character is a member of a set if it lies in one of its ranges. -/
theorem mem_iff {set : CharSet} {c : Char} (h : set.ranges.Pairwise fun range later => range.1 ≤ later.1) :
    set.mem c = true ↔ ∃ range ∈ set.ranges, range.1 ≤ c.toNat ∧ c.toNat ≤ range.2 :=
  holds_iff h

/-- Whether some code point of a span may stand in one of the ranges. -/
def meets (first last : Nat) : List (Nat × Nat) → Bool
  | [] => false
  | (low, high) :: rest =>
      if last < low then false else if first ≤ high then true else meets first last rest

/-- Joins a range with those after it where they meet or overlap; beginnings ascend. -/
def joinOnto (range : Nat × Nat) : List (Nat × Nat) → List (Nat × Nat)
  | [] => [range]
  | following :: rest =>
      if following.1 ≤ range.2 + 1 then joinOnto (range.1, max range.2 following.2) rest
      else range :: joinOnto following rest

def joinRanges : List (Nat × Nat) → List (Nat × Nat)
  | [] => []
  | range :: rest => joinOnto range rest

/-- Puts a range in front of those that do not begin before it. -/
def insertRange (range : Nat × Nat) : List (Nat × Nat) → List (Nat × Nat)
  | [] => [range]
  | following :: rest =>
      if range.1 ≤ following.1 then range :: following :: rest
      else following :: insertRange range rest

/-- The set of ranges given in any order. -/
def ofRanges (ranges : List (Nat × Nat)) : CharSet :=
  ⟨joinRanges (ranges.foldr insertRange [])⟩

def union (a b : CharSet) : CharSet := ofRanges (a.ranges ++ b.ranges)

/-- The union of some sets. -/
def unionAll (sets : List CharSet) : CharSet := ofRanges (sets.flatMap ranges)

/-- The spans after a code point that ranges leave free.  Where only surrogates stand between two
ranges, no character is free, and the span is that of their two neighbours. -/
def gapsAfter (last : Nat) : List (Nat × Nat) → List (Nat × Nat)
  | [] => if last < lastCodePoint then [(next last, lastCodePoint)] else []
  | (first, final) :: rest =>
      (min (next last) (previous first), max (next last) (previous first)) :: gapsAfter final rest

def complement (set : CharSet) : CharSet :=
  match set.ranges with
  | [] => all
  | (first, last) :: rest =>
      ⟨(if first = 0 then [] else [(0, previous first)]) ++ gapsAfter last rest⟩

/-- What two ranges have in common. -/
def overlap? (a b : Nat × Nat) : Option (Nat × Nat) :=
  let first := max a.1 b.1
  let last := min a.2 b.2
  if first ≤ last then some (first, last) else none

def inter (a b : CharSet) : CharSet :=
  ⟨a.ranges.flatMap fun range => b.ranges.filterMap (overlap? range)⟩

/-- What is left of one range without another. -/
def cutRange (cut range : Nat × Nat) : List (Nat × Nat) :=
  match overlap? range cut with
  | none => [range]
  | some (first, last) =>
      (if range.1 < first then [(range.1, previous first)] else []) ++
        (if last < range.2 then [(next last, range.2)] else [])

def diff (a b : CharSet) : CharSet :=
  ⟨a.ranges.flatMap fun range =>
    b.ranges.foldl (fun pieces cut => pieces.flatMap (cutRange cut)) [range]⟩

def symmDiff (a b : CharSet) : CharSet := (a.union b).diff (a.inter b)

/-- Whether every member is below a code point. -/
def isBelow (bound : Nat) (set : CharSet) : Bool :=
  set.ranges.all fun range => decide (range.2 < bound)

/-- The only member of a set that has just one. -/
def single? (set : CharSet) : Option Char :=
  match set.ranges with
  | [(first, last)] =>
      if h : first = last ∧ first.isValidChar then some (Char.ofNatAux first h.2) else none
  | _ => none

end CharSet

end FormRules
