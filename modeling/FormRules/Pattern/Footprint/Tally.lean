/-
Counting the memory of an automaton while it is laid out.
-/
namespace FormRules.Pattern.Footprint

/-- What has been laid out: states, and bytes that states take beyond their fixed size.  States are
numbered in the order in which they are laid out. -/
structure Tally where
  states : Nat
  extra : Nat
deriving DecidableEq, Repr

namespace Tally

def none : Tally := ⟨0, 0⟩

/-- The fixed size of a state, in bytes. -/
def stateSize : Nat := 32

/-- What a choice takes for each way on, in bytes. -/
def choiceSize : Nat := 4

/-- What a state that branches by the next byte takes for each range of bytes. -/
def branchSize : Nat := 8

def bytes (tally : Tally) : Nat := stateSize * tally.states + tally.extra

/-- The greatest automaton allowed, in bytes. -/
def limit : Nat := 10485760

def add (tally : Tally) (states extra : Nat) : Tally :=
  ⟨tally.states + states, tally.extra + extra⟩

def withinLimit (tally : Tally) : Bool := decide (tally.bytes ≤ limit)

end Tally

end FormRules.Pattern.Footprint
