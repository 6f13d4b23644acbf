/-
Search expressions and their normal form.

Expressions are built by `ofSet`, `sequence`, `choice` and `counted`, which bring them into a normal
form: neighbouring texts are joined and empty parts left out, a choice between characters is a set
of characters, what all alternatives begin with stands before them, and what matches only the empty
text is not repeated.  Sequences and choices of several parts lean to the right.
-/
import FormRules.Pattern.Edge

namespace FormRules.Pattern

/-- A search expression. -/
inductive Expr where
  | empty
  | text (run : List Char)
  | chars (set : CharSet)
  | edge (edge : Edge)
  /-- A group that keeps what its body matched under a number. -/
  | group (number : Nat) (body : Expr)
  | seq (first second : Expr)
  | either (first second : Expr)
  /-- The body at least so many times and at most so many times, or without a limit; preferably
  often or preferably seldom. -/
  | repeated (least : Nat) (most : Option Nat) (often : Bool) (body : Expr)
deriving DecidableEq, Repr

namespace Expr

/-- The number of operators and leaves. -/
def size : Expr → Nat
  | empty | text _ | chars _ | edge _ => 1
  | group _ body | repeated _ _ _ body => body.size + 1
  | seq first second | either first second => first.size + second.size + 1

/-- The least number of characters that a match takes; none with a part that matches nothing. -/
def shortest? : Expr → Option Nat
  | empty | edge _ => some 0
  | text run => some run.length
  | chars set => if set.isEmpty then none else some 1
  | group _ body => body.shortest?
  | seq first second => do pure ((← first.shortest?) + (← second.shortest?))
  | either first second => do pure (min (← first.shortest?) (← second.shortest?))
  | repeated least _ _ body => body.shortest?.map (least * ·)

/-- The greatest number of characters that a match takes; none if there is no limit, or with a part
that matches nothing. -/
def longest? : Expr → Option Nat
  | empty | edge _ => some 0
  | text run => some run.length
  | chars set => if set.isEmpty then none else some 1
  | group _ body => body.longest?
  | seq first second => do pure ((← first.longest?) + (← second.longest?))
  | either first second => do pure (max (← first.longest?) (← second.longest?))
  | repeated _ most _ body => do pure ((← most) * (← body.longest?))

/-- Whether every match is known to take a character. -/
def takesText (expr : Expr) : Bool :=
  match expr.shortest? with
  | some least => decide (0 < least)
  | none => false

/-- Whether every match is known to take no character. -/
def takesNothing (expr : Expr) : Bool := expr.longest? == some 0

/-- Whether a match has to satisfy a condition before it takes a character. -/
def beginsAt (condition : Edge) : Expr → Bool
  | empty | text _ | chars _ => false
  | edge found => found == condition
  | group _ body => body.beginsAt condition
  | seq first second =>
      first.beginsAt condition || (first.takesNothing && second.beginsAt condition)
  | either first second => first.beginsAt condition && second.beginsAt condition
  | repeated least _ _ body => decide (0 < least) && body.beginsAt condition

/-- Whether a match has to satisfy a condition after it has taken its last character. -/
def endsAt (condition : Edge) : Expr → Bool
  | empty | text _ | chars _ => false
  | edge found => found == condition
  | group _ body => body.endsAt condition
  | seq first second =>
      second.endsAt condition || (second.takesNothing && first.endsAt condition)
  | either first second => first.endsAt condition && second.endsAt condition
  | repeated least _ _ body => decide (0 < least) && body.endsAt condition

/-! ### Sets of characters -/

/-- One character of a set. -/
def ofSet (set : CharSet) : Expr :=
  match set.single? with
  | some c => text [c]
  | none => chars set

/-- What matches nothing. -/
def nothing : Expr := chars .empty

/-! ### Sequences -/

/-- The parts of a sequence. -/
def parts : Expr → List Expr
  | empty => []
  | seq first second => first :: second.parts
  | expr => [expr]

/-- Joins texts that stand side by side. -/
def joinTexts : List Expr → List Expr
  | [] => []
  | text run :: rest =>
      match joinTexts rest with
      | text following :: others => text (run ++ following) :: others
      | others => text run :: others
  | expr :: rest => expr :: joinTexts rest

def ofParts : List Expr → Expr
  | [] => empty
  | [expr] => expr
  | expr :: rest => seq expr (ofParts rest)

/-- The expressions one after the other. -/
def sequence (exprs : List Expr) : Expr := ofParts (joinTexts (exprs.flatMap parts))

/-! ### Choices -/

/-- The alternatives of a choice. -/
def branches : Expr → List Expr
  | either first second => first :: second.branches
  | expr => [expr]

def ofBranches : List Expr → Expr
  | [] => nothing
  | [expr] => expr
  | expr :: rest => either expr (ofBranches rest)

/-- The text of an expression that is one. -/
def text? : Expr → Option (List Char)
  | text run => some run
  | _ => none

/-- The set of an expression that is a single character. -/
def letter? : Expr → Option CharSet
  | text [c] => some (.ofChar c)
  | _ => none

/-- The set of an expression that is one. -/
def set? : Expr → Option CharSet
  | chars set => some set
  | _ => none

/-- The parts of an expression that has several. -/
def manyParts : Expr → List Expr
  | seq first second => first :: second.parts
  | _ => []

/-- What two lists begin with. -/
def commonStart : List Expr → List Expr → List Expr
  | a :: as, b :: bs => if a = b then a :: commonStart as bs else []
  | _, _ => []

/-- What all expressions begin with, if each of them has several parts. -/
def sharedStart : List Expr → List Expr
  | [] => []
  | expr :: rest => rest.foldl (fun start other => commonStart start other.manyParts) expr.manyParts

/-- One of the expressions.  Taking out what they begin with leaves a smaller first one, so its size
bounds how often that is done. -/
def choiceWithin : Nat → List Expr → Expr
  | 0, exprs => ofBranches (exprs.flatMap branches)
  | fuel + 1, exprs =>
      let all := exprs.flatMap branches
      if all.length ≤ 1 then ofBranches all
      else
        match (all.mapM letter?).or (all.mapM set?) with
        | some sets => ofSet (.unionAll sets)
        | none =>
            match sharedStart all with
            | [] => ofBranches all
            | start =>
                let rest := all.map fun expr => sequence (expr.parts.drop start.length)
                sequence (start ++ [choiceWithin fuel rest])

/-- One of the expressions. -/
def choice (exprs : List Expr) : Expr :=
  choiceWithin ((exprs.head?.map size).getD 0 + 1) exprs

/-! ### Repetitions -/

/-- The body so many times.  What takes no character matches once if it matches at all. -/
def counted (least : Nat) (most : Option Nat) (often : Bool) (body : Expr) : Expr :=
  let least := if body.takesNothing then min least 1 else least
  let most := if body.takesNothing then some (min (most.getD 1) 1) else most
  if most = some 0 then empty
  else if least = 1 ∧ most = some 1 then body
  else repeated least most often body

end Expr

end FormRules.Pattern
