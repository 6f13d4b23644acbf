/-
The memory that the search for a pattern takes.

For every pattern two automata over the bytes of texts are laid out: one that reads a match
forwards and keeps where its groups begin and end, and one that reads a match backwards.  A pattern
whose automata are too large is refused.
-/
import FormRules.Pattern.Expr
import FormRules.Pattern.Footprint.Sharing
import FormRules.Pattern.Footprint.Words

namespace FormRules.Pattern

/-- The way in which an automaton reads a match. -/
inductive Direction where
  | forwards
  | backwards
deriving DecidableEq, Repr

/-- What has to be laid out, in order. -/
inductive Layout where
  /-- So many states, and so many bytes beyond their fixed size. -/
  | states (count extra : Nat)
  | set (members : CharSet)
  | words (list : List (List Nat))
  | both (first second : Layout)
  /-- Copies of one layout. -/
  | times (count : Nat) (body : Layout)

namespace Layout

open Footprint

/-- The layouts one after the other. -/
def all (layouts : List Layout) : Layout := layouts.foldr both (states 0 0)

/-- Repeats a step so many times, as long as the limit is kept. -/
def repeatStep (step : Tally → Option Tally) : Nat → Tally → Option Tally
  | 0, tally => some tally
  | count + 1, tally =>
      match step tally with
      | some tally => repeatStep step count tally
      | none => none

/-- Adds a layout to what has been laid out, as long as the limit is kept. -/
def lay (direction : Direction) : Layout → Tally → Option Tally
  | states count extra, tally => some (tally.add count extra) |>.filter Tally.withinLimit
  | set members, tally =>
      some (match direction with
        | .forwards => layForwards members tally
        | .backwards => layBackwards members tally) |>.filter Tally.withinLimit
  | words list, tally => some (layWords list tally) |>.filter Tally.withinLimit
  | both first second, tally => (first.lay direction tally).bind fun tally =>
      second.lay direction tally
  | times count body, tally => repeatStep (fun tally => body.lay direction tally) count tally

end Layout

namespace Expr

open Footprint

/-- The bytes of a text in the order in which they are read. -/
def bytesIn (direction : Direction) (run : List Char) : List Nat :=
  let bytes := run.flatMap fun c => bytesOf c.toNat
  match direction with
  | .forwards => bytes
  | .backwards => bytes.reverse

/-- What it takes to go on from the end of an expression: its last state may be a choice, which
then gets one more way. -/
def exitSize (direction : Direction) : Expr → Nat
  | empty | text _ | chars _ | edge _ | either .. => 0
  | group _ body =>
      match direction with
      | .forwards => 0
      | .backwards => body.exitSize direction
  | seq first second =>
      match direction with
      | .forwards => second.exitSize direction
      | .backwards => first.exitSize direction
  | repeated least most _ body =>
      match most with
      | none => if least = 0 ∧ !body.takesText then 0 else Tally.choiceSize
      | some most => if least = most then body.exitSize direction else 0

/-- The layout of a choice from those of its alternatives.  Fixed texts are read along a tree.
Otherwise a choice leads to the beginnings, and their ends lead to a common one; both are laid out
after the second alternative. -/
def joined (direction : Direction) (choice : Expr) (layouts : List Layout) : Layout :=
  let exits := choice.branches.map fun branch =>
    Layout.states 0 (Tally.choiceSize + branch.exitSize direction)
  match layouts with
  | [] => .states 0 0
  | [only] => only
  | first :: second :: rest =>
      match choice.branches.mapM text? with
      | some runs => .words (runs.map (bytesIn direction))
      | none => .all (first :: second :: .states 2 0 :: rest ++ exits)

/-- The layout of a repetition of a body.

What always takes text is repeated without end by one choice, which is also the way out.  Otherwise
two choices are needed, so that an empty round is not preferred over going on. -/
def repetition (direction : Direction) (least : Nat) (most : Option Nat) (body : Expr)
    (layout : Layout) : Layout :=
  let link := body.exitSize direction
  let way := Tally.choiceSize
  match most with
  | none =>
      if least = 0 then
        if body.takesText then .all [.states 1 0, layout, .states 0 (way + link)]
        else .all [layout, .states 3 (4 * way + link)]
      else .all [.times least layout, .states 1 (way + least * link)]
  | some most =>
      if least = most then .all [.times least layout, .states 0 ((least - 1) * link)]
      else if most = 1 then .all [.states 1 0, layout, .states 1 (2 * way + link)]
      else
        .all [if least = 0 then .states 1 0 else .times least layout, .states 1 0,
          .times (most - least) (.both (.states 1 (2 * way)) layout), .states 0 (most * link)]

/-- The layouts of the alternatives of an expression. -/
def layouts (direction : Direction) : Expr → List Layout
  | empty | edge _ => [.states 1 0]
  | text run => [.states (bytesIn direction run).length 0]
  | chars set =>
      [if set.isBelow 0x80 then .states 2 (Tally.branchSize * set.ranges.length) else .set set]
  | group _ body =>
      let inner := joined direction body (body.layouts direction)
      match direction with
      | .forwards => [.all [.states 1 0, inner, .states 1 (body.exitSize direction)]]
      | .backwards => [inner]
  | seq first second =>
      let before := joined direction first (first.layouts direction)
      let after := joined direction second (second.layouts direction)
      match direction with
      | .forwards => [.all [before, .states 0 (first.exitSize direction), after]]
      | .backwards => [.all [after, .states 0 (second.exitSize direction), before]]
  | either first second =>
      joined direction first (first.layouts direction) :: second.layouts direction
  | repeated least most _ body =>
      [repetition direction least most body (joined direction body (body.layouts direction))]

/-- The layout of a whole automaton.  Unless a match is bound to the end of the text at which the
automaton starts, a loop over single bytes leads to the beginning of a match. -/
def layout (direction : Direction) (expr : Expr) : Layout :=
  let bound := match direction with
    | .forwards => expr.beginsAt .textStart
    | .backwards => expr.endsAt .textEnd
  let lead : Layout :=
    if bound then .states 1 0 else .states 3 (2 * Tally.choiceSize + Tally.branchSize)
  let body := joined direction expr (expr.layouts direction)
  let exit : Layout := .states 1 (expr.exitSize direction)
  match direction with
  | .forwards => .all [lead, .states 1 0, body, exit, .states 1 0]
  | .backwards => .all [lead, body, exit]

/-- Whether both automata keep the limit. -/
def fitsLimit (expr : Expr) : Bool :=
  ((expr.layout .forwards).lay .forwards .none).isSome &&
    ((expr.layout .backwards).lay .backwards .none).isSome

end Expr

end FormRules.Pattern
