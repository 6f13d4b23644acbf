/-
Where expressions match in a text.

Matching works on whole sets of positions: an expression takes the positions at which a match may
begin to those at which it may end.  That makes every operator a function on sets, the work
polynomial in the text, and the order of alternatives irrelevant, since only the existence of a
match is asked for.

A set of positions is a number: bit `i` stands for the position before the `i`-th character.
-/
import FormRules.Pattern.Expr

namespace FormRules.Pattern

/-- The set of those positions below `count` at which a condition holds. -/
def positionsWhere (holds : Nat → Bool) (count : Nat) : Nat :=
  (List.range count).foldr (fun i later => 2 * later + (holds i).toNat) 0

/-- Applies a step so many times, or until it changes nothing. -/
def iterate (step : Nat → Nat) : Nat → Nat → Nat
  | 0, marks => marks
  | count + 1, marks =>
      let following := step marks
      if following = marks then marks else iterate step count following

/-- All positions reached in at most so many steps: those of `reached`, and those that steps from
`frontier`, the positions found last, still lead to. -/
def closure (step : Nat → Nat) : Nat → Nat → Nat → Nat
  | 0, _, reached => reached
  | count + 1, frontier, reached =>
      let found := step frontier
      let fresh := found ^^^ (found &&& reached)
      if fresh = 0 then reached else closure step count fresh (reached ||| fresh)

/-- What an expression does to the positions of one text. -/
inductive Moves where
  | stay
  /-- From the positions `starts`, so many characters on. -/
  | take (starts width : Nat)
  | seq (first second : Moves)
  | either (first second : Moves)
  /-- The body so many times, and then up to so many times more. -/
  | repeated (least more : Nat) (body : Moves)

/-- Where the moves lead from a set of positions. -/
def Moves.run : Moves → Nat → Nat
  | stay, marks => marks
  | take starts width, marks => (marks &&& starts) <<< width
  | seq first second, marks => second.run (first.run marks)
  | either first second, marks => first.run marks ||| second.run marks
  | repeated least more body, marks =>
      let start := iterate (fun m => body.run m) least marks
      closure (fun m => body.run m) more start start

/-- Whether characters stand in a text from a position on. -/
def standsAt (text : Array Char) : List Char → Nat → Bool
  | [], _ => true
  | c :: rest, i => text[i]? == some c && standsAt text rest (i + 1)

/-- Whether the character after a position belongs to a set. -/
def belongsAt (text : Array Char) (set : CharSet) (i : Nat) : Bool :=
  match text[i]? with
  | some c => set.mem c
  | none => false

/-- Whether a condition holds at a position. -/
def holdsAt (text : Array Char) (edge : Edge) (i : Nat) : Bool :=
  edge.holds (if i = 0 then none else text[i - 1]?) text[i]?

namespace Expr

/-- What the expression does to the positions of a text.  A repetition without a limit finds all
positions within as many rounds as there are positions. -/
def movesIn (subject : Array Char) : Expr → Moves
  | empty => .stay
  | text run => .take (positionsWhere (standsAt subject run) subject.size) run.length
  | chars set => .take (positionsWhere (belongsAt subject set) subject.size) 1
  | edge condition => .take (positionsWhere (holdsAt subject condition) (subject.size + 1)) 0
  | group _ body => body.movesIn subject
  | seq first second => .seq (first.movesIn subject) (second.movesIn subject)
  | either first second => .either (first.movesIn subject) (second.movesIn subject)
  | repeated least most _ body =>
      .repeated least ((most.map (· - least)).getD (subject.size + 1)) (body.movesIn subject)

/-- Whether the expression matches somewhere in a text. -/
def occursIn (expr : Expr) (text : List Char) : Bool :=
  let subject := text.toArray
  (expr.movesIn subject).run (Nat.pow 2 (subject.size + 1) - 1) != 0

end Expr

end FormRules.Pattern
