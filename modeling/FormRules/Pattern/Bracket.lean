/-
Bracketed classes of characters.

A class is read with a stack of the brackets and set operators that are still open.  Operators
have one precedence and bind to the left; adjacency means union and binds tighter.
-/
import FormRules.Pattern.Escape

namespace FormRules.Pattern.Bracket

inductive Operator where
  | intersection
  | difference
  | symmetricDifference
deriving DecidableEq, Repr

/-- A set read so far, with how deep its notation is nested. -/
structure Part where
  set : CharSet
  depth : Nat

/-- Adjacent items of a class. -/
structure Union where
  set : CharSet
  count : Nat
  depth : Nat

def Union.nothing : Union := ⟨.empty, 0, 0⟩

def Union.add (items : Union) (part : Part) : Union :=
  ⟨⟨items.set.ranges ++ part.set.ranges⟩, items.count + 1, max items.depth part.depth⟩

/-- A single item is no deeper for being listed. -/
def Union.toPart (items : Union) : Part :=
  ⟨.ofRanges items.set.ranges, if items.count ≤ 1 then items.depth else items.depth + 1⟩

/-- What is still open: a bracket, with the items before it, or an operator, with its left side. -/
inductive Open where
  | bracket (before : Union) (negated : Bool)
  | operator (operator : Operator) (left : Part)

def foldPart (switches : Switches) (set : CharSet) : CharSet :=
  if switches.ignoreCase then foldCase switches.everyScript set else set

/-- Applies the operator on top of the stack, if there is one, to the part read last. -/
def applyOperator (switches : Switches) (stack : List Open) (right : Part) : Part × List Open :=
  match stack with
  | .operator operator left :: outer =>
      let a := foldPart switches left.set
      let b := foldPart switches right.set
      let set := match operator with
        | .intersection => a.inter b
        | .difference => a.diff b
        | .symmetricDifference => a.symmDiff b
      (⟨set, max left.depth right.depth + 1⟩, outer)
  | _ => (right, stack)

/-- Completes a bracket: case variants join first, then the class is turned around if negated.
Without the other scripts a class may not go beyond ASCII, which a negated one always does. -/
def closeBracket? (switches : Switches) (negated : Bool) (part : Part) : Option Part :=
  let set := foldPart switches part.set
  if switches.everyScript then
    some ⟨if negated then set.complement else set, part.depth + 1⟩
  else if negated || !set.isBelow 0x80 then none
  else some ⟨set, part.depth + 1⟩

/-- Reads dashes that stand for themselves at the beginning of a bracket. -/
def leadingDashes (switches : Switches) : Nat → Union → List Char → Union × List Char
  | 0, items, source => (items, source)
  | fuel + 1, items, source =>
      match source with
      | '-' :: _ => leadingDashes switches fuel (items.add ⟨.ofChar '-', 0⟩) (switches.next source)
      | _ => (items, source)

/-- Reads an opening bracket: a caret negates, and a closing bracket in the first place stands for
itself. -/
def openBracket? (switches : Switches) (source : List Char) :
    Option (Bool × Union × List Char) :=
  let body := switches.next source
  let (negated, body) := match body with
    | '^' :: _ => (true, switches.next body)
    | _ => (false, body)
  let (items, body) := leadingDashes switches body.length .nothing body
  match body with
  | [] => none
  | ']' :: _ =>
      if items.count = 0 then
        match switches.next body with
        | [] => none
        | rest => some (negated, items.add ⟨.ofChar ']', 0⟩, rest)
      else some (negated, items, body)
  | _ => some (negated, items, body)

/-- Reads a class named between colons, such as that of the digits, and whether it is negated;
`source` begins with its bracket. -/
def namedClass? (source : List Char) : Option (CharSet × Bool × List Char) := do
  let body ← match source with
    | '[' :: ':' :: body => some body
    | _ => none
  let (negated, body) := match body with
    | '^' :: rest => (true, rest)
    | _ => (false, body)
  let name := body.takeWhile (· != ':')
  match body.dropWhile (· != ':') with
  | ':' :: ']' :: rest => (bracketClass? (String.ofList name)).map fun set => (set, negated, rest)
  | _ => none

/-- The set of a named class.  Case variants join before it is turned around; without the other
scripts it may not be negated. -/
def namedSet? (switches : Switches) (negated : Bool) (set : CharSet) : Option CharSet :=
  let set := foldPart switches set
  if !negated then some set
  else if switches.everyScript then some set.complement
  else none

/-- Reads one character or escape inside a bracket. -/
def item? (switches : Switches) (source : List Char) : Option (Atom × List Char) :=
  match source with
  | [] => none
  | '\\' :: rest => escape? switches rest
  | c :: _ => some (.char c false, switches.next source)

/-- The character of an item that may bound a range.  Without the other scripts it has to be
ASCII. -/
def boundOf? (switches : Switches) : Atom → Option Char
  | .char c _ => if switches.everyScript || decide (c.toNat ≤ 0x7F) then some c else none
  | _ => none

/-- The character that tells whether a dash, with which `source` begins, makes a range.  Between
spaced parts the mark of a comment is passed over, but what the comment says is not. -/
def afterDash? (switches : Switches) (source : List Char) : Option Char :=
  let rest := source.drop 1
  if switches.spaced then
    let following := match rest.dropWhile Text.isBlank with
      | '#' :: note => note.dropWhile Text.isBlank
      | other => other
    following.head?.or rest.head?
  else rest.head?

/-- Reads an item or a range of characters.  A dash before a closing bracket stands for itself, and
two dashes are an operator. -/
def range? (switches : Switches) (source : List Char) : Option (CharSet × List Char) := do
  let (first, rest) ← item? switches source
  let rest := switches.gap rest
  let after := afterDash? switches rest
  if rest.isEmpty then none
  else if rest.head? ≠ some '-' ∨ after = some ']' ∨ after = some '-' then
    match first with
    | .char .. => (boundOf? switches first).map fun c => (.ofChar c, rest)
    | .set set => some (set, rest)
    | .edge _ => none
  else
    let (last, rest) ← item? switches (switches.next rest)
    let low ← boundOf? switches first
    let high ← boundOf? switches last
    if low ≤ high then pure (.ofRange low.toNat high.toNat, rest) else none

/-- Begins the right side of an operator. -/
def startOperator (switches : Switches) (operator : Operator) (stack : List Open)
    (items : Union) : List Open :=
  let (left, outer) := applyOperator switches stack items.toPart
  .operator operator left :: outer

/-- Reads the rest of a bracketed class. -/
def loop? (switches : Switches) : Nat → List Open → Union → List Char →
    Option (Part × List Char)
  | 0, _, _, _ => none
  | fuel + 1, stack, items, source =>
      match switches.gap source with
      | [] => none
      | '[' :: rest =>
          match if stack.isEmpty then none else namedClass? ('[' :: rest) with
          | some (set, negated, rest) => do
              let set ← namedSet? switches negated set
              loop? switches fuel stack (items.add ⟨set, 0⟩) rest
          | none => do
              let (negated, nested, rest) ← openBracket? switches ('[' :: rest)
              loop? switches fuel (.bracket items negated :: stack) nested rest
      | ']' :: rest =>
          match applyOperator switches stack items.toPart with
          | (part, .bracket before negated :: outer) => do
              let closed ← closeBracket? switches negated part
              if outer.isEmpty then pure (closed, rest)
              else loop? switches fuel outer (before.add closed) rest
          | _ => none
      | '&' :: '&' :: rest =>
          loop? switches fuel (startOperator switches .intersection stack items) .nothing rest
      | '-' :: '-' :: rest =>
          loop? switches fuel (startOperator switches .difference stack items) .nothing rest
      | '~' :: '~' :: rest =>
          loop? switches fuel (startOperator switches .symmetricDifference stack items) .nothing rest
      | source => do
          let (set, rest) ← range? switches source
          loop? switches fuel stack (items.add ⟨set, 0⟩) rest

/-- Reads a bracketed class; `source` begins with its bracket. -/
def read? (switches : Switches) (source : List Char) : Option (Part × List Char) :=
  loop? switches (source.length + 1) [] .nothing source

end FormRules.Pattern.Bracket
