/-
Automata for sets of characters beyond ASCII.

States that would be alike are laid out once, as far as that is noticed: what has been laid out is
remembered in a bounded number of slots, and a later entry takes the place of an earlier one in the
same slot.  The slots, and with them the size of an automaton, hence depend on the numbers of its
states.
-/
import FormRules.Pattern.Footprint.Encoding
import FormRules.Pattern.Footprint.Tally
import Std.Data.HashMap

namespace FormRules.Pattern.Footprint

/-- The slot of a key, given as numbers, among so many. -/
def slotOf (slots : Nat) (key : List Nat) : Nat :=
  let mix (hash : UInt64) (n : Nat) : UInt64 := (hash ^^^ n.toUInt64) * 1099511628211
  (key.foldl mix 14695981039346656037).toNat % slots

/-- An automaton under construction, with the states remembered by slot. -/
structure Sharing (Key : Type) where
  tally : Tally
  slots : Std.HashMap Nat (Key × Nat)

/-! ### Forwards -/

/-- A range of bytes with the state that it leads to. -/
structure Arrow where
  range : ByteRange
  target : Nat
deriving DecidableEq, Repr

/-- A state that is not laid out yet: its finished arrows, and the range whose target is still
open. -/
structure Draft where
  arrows : List Arrow
  last : Option ByteRange

namespace Draft

/-- The arrows when the open one leads to a target. -/
def finish (draft : Draft) (target : Nat) : List Arrow :=
  draft.arrows ++ (draft.last.map fun range => ⟨range, target⟩).toList

/-- Drafts for a sequence of ranges, each leading to the next. -/
def ofRanges (ranges : List ByteRange) : List Draft := ranges.map fun range => ⟨[], some range⟩

end Draft

abbrev ForwardSharing := Sharing (List Arrow)

namespace ForwardSharing

def slotCount : Nat := 10000

/-- The state with the given arrows, laid out unless it is remembered. -/
def layOut (sharing : ForwardSharing) (arrows : List Arrow) : Nat × ForwardSharing :=
  let slot := slotOf slotCount
    (arrows.flatMap fun arrow => [arrow.range.first, arrow.range.last, arrow.target])
  let made :=
    (sharing.tally.states,
      (⟨sharing.tally.add 1 (Tally.branchSize * arrows.length),
        sharing.slots.insert slot (arrows, sharing.tally.states)⟩ : ForwardSharing))
  match sharing.slots[slot]? with
  | some (key, state) => if key = arrows then (state, sharing) else made
  | none => made

/-- Lays out drafts from the last to the first; the last leads to `target`. -/
def close (target : Nat) : List Draft → ForwardSharing → Nat × ForwardSharing
  | [], sharing => (target, sharing)
  | draft :: deeper, sharing =>
      let (following, sharing) := close target deeper sharing
      sharing.layOut (draft.finish following)

/-- Adds a sequence of ranges to the drafts on the path of the sequence before.  Drafts beyond what
both have in common are laid out. -/
def add (target : Nat) : List ByteRange → List Draft → ForwardSharing →
    List Draft × ForwardSharing
  | [], drafts, sharing => (drafts, sharing)
  | ranges, [], sharing => (Draft.ofRanges ranges, sharing)
  | range :: ranges, draft :: deeper, sharing =>
      if draft.last = some range then
        let (deeper, sharing) := add target ranges deeper sharing
        (draft :: deeper, sharing)
      else
        let (following, sharing) := close target deeper sharing
        (⟨draft.finish following, some range⟩ :: Draft.ofRanges ranges, sharing)

end ForwardSharing

/-- Lays out an automaton that reads the bytes of a character forwards. -/
def layForwards (set : CharSet) (tally : Tally) : Tally :=
  let target := tally.states
  let start : List Draft × ForwardSharing := ([⟨[], none⟩], ⟨tally.add 1 0, ∅⟩)
  let (drafts, sharing) := (sequencesOf set).foldl
    (fun (drafts, sharing) ranges => ForwardSharing.add target ranges drafts sharing) start
  (ForwardSharing.close target drafts sharing).2.tally

/-! ### Backwards -/

abbrev BackwardSharing := Sharing (Nat × ByteRange)

namespace BackwardSharing

def slotCount : Nat := 1000

/-- The state that leads over a range of bytes to a target, laid out unless it is remembered. -/
def layOut (sharing : BackwardSharing) (target : Nat) (range : ByteRange) : Nat × BackwardSharing :=
  let slot := slotOf slotCount [target, range.first, range.last]
  let made :=
    (sharing.tally.states,
      (⟨sharing.tally.add 1 0,
        sharing.slots.insert slot ((target, range), sharing.tally.states)⟩ : BackwardSharing))
  match sharing.slots[slot]? with
  | some (key, state) => if key = (target, range) then (state, sharing) else made
  | none => made

/-- Adds the states of one sequence, and to the choice at the beginning the way to its last. -/
def add (target : Nat) (ranges : List ByteRange) (sharing : BackwardSharing) : BackwardSharing :=
  let (_, sharing) := ranges.foldl
    (fun (target, sharing) range => layOut sharing target range) (target, sharing)
  { sharing with tally := sharing.tally.add 0 Tally.choiceSize }

end BackwardSharing

/-- Lays out an automaton that reads the bytes of a character backwards. -/
def layBackwards (set : CharSet) (tally : Tally) : Tally :=
  let start : BackwardSharing := ⟨tally.add 2 0, ∅⟩
  ((sequencesOf set).foldl
    (fun sharing ranges => BackwardSharing.add (tally.states + 1) ranges sharing) start).tally

end FormRules.Pattern.Footprint
