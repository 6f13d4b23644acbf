/-
Reading search expressions.

The source is read from left to right with a stack of the groups that are still open.  A switch
set inside a group holds until the group closes.  What the source denotes is built at once; beside
it goes how deep the notation nests, because patterns that nest too deep are refused.
-/
import FormRules.Pattern.Bracket

namespace FormRules.Pattern

/-- A part of a pattern that has been read.  `repeatable` is false for a mere setting of
switches. -/
structure Item where
  expr : Expr
  depth : Nat
  repeatable : Bool

def Item.plain (expr : Expr) : Item := ⟨expr, 0, true⟩

/-- An open group: the switches outside of it, its number if it keeps what it matches, its finished
alternatives, and the items of the current one, both in reverse. -/
structure Level where
  outside : Switches
  number : Option Nat
  alternatives : List Item
  items : List Item

def Level.start (outside : Switches) (number : Option Nat) : Level := ⟨outside, number, [], []⟩

/-- Joins parts, one level deeper if there are several. -/
def joinItems (join : List Expr → Expr) (items : List Item) : Item :=
  match items with
  | [item] => ⟨item.expr, item.depth, true⟩
  | _ =>
      let depth := items.foldl (fun deepest item => max deepest item.depth) 0
      ⟨join (items.map Item.expr), if items.isEmpty then 0 else depth + 1, true⟩

def Level.current (level : Level) : Item := joinItems Expr.sequence level.items.reverse

def Level.whole (level : Level) : Item :=
  joinItems Expr.choice (level.current :: level.alternatives).reverse

/-- Everything known while reading: the switches in force, the open groups from the inside out, how
many groups have a number, and the group names used. -/
structure State where
  switches : Switches
  level : Level
  outer : List Level
  groups : Nat
  names : List (List Char)

def State.push (state : State) (item : Item) : State :=
  { state with level := { state.level with items := item :: state.level.items } }

/-- Reads a number that counts repetitions, with blanks around it. -/
def count? (switches : Switches) (source : List Char) : Option Nat × List Char :=
  let rec digits : Nat → List Char → List Char → List Char × List Char
    | 0, read, rest => (read.reverse, rest)
    | fuel + 1, read, rest =>
        match rest with
        | c :: _ =>
            if Text.isAsciiDigit c then digits fuel (c :: read) (switches.next rest)
            else (read.reverse, rest)
        | [] => (read.reverse, rest)
  let body := Text.trimStart source
  let (read, rest) := digits body.length [] body
  let n := Text.numberOf 10 read
  (if read.isEmpty || decide (Nat.pow 2 32 ≤ n) then none else some n, Text.trimStart rest)

/-- Reads the mark that turns round whether a repetition is preferably done often. -/
def readOften (switches : Switches) : List Char → Bool × List Char
  | '?' :: rest => (switches.swapGreed, rest)
  | source => (!switches.swapGreed, source)

/-- Reads the counts of a repetition; `source` begins with the opening brace.  Gives the least and
the greatest count, and the rest. -/
def counts? (switches : Switches) (source : List Char) :
    Option (Nat × Option Nat × List Char) := do
  let (least, rest) := count? switches (switches.next source)
  let least ← least
  match rest with
  | '\x7d' :: _ => pure (least, some least, switches.next rest)
  | ',' :: _ =>
      match switches.next rest with
      | '\x7d' :: tail => pure (least, none, switches.next ('\x7d' :: tail))
      | body =>
          let (most, rest) := count? switches body
          let most ← most
          match rest with
          | '\x7d' :: _ =>
              if least ≤ most then pure (least, some most, switches.next rest) else none
          | _ => none
  | _ => none

/-- Applies a repetition to the item read last. -/
def State.repeatLast? (state : State) (least : Nat) (most : Option Nat) (rest : List Char) :
    Option (State × List Char) :=
  let (often, rest) := readOften state.switches rest
  match state.level.items with
  | item :: before =>
      if item.repeatable then
        let done : Item := ⟨.counted least most often item.expr, item.depth + 1, true⟩
        some ({ state with level := { state.level with items := done :: before } }, rest)
      else none
  | [] => none

/-- Sets one switch by its letter. -/
def Switches.set? (switches : Switches) (letter : Char) (on : Bool) : Option Switches :=
  match letter with
  | 'i' => some { switches with ignoreCase := on }
  | 'm' => some { switches with multiLine := on }
  | 's' => some { switches with dotMatchesLineFeed := on }
  | 'U' => some { switches with swapGreed := on }
  | 'u' => some { switches with everyScript := on }
  | 'R' => some { switches with pairedLineEnds := on }
  | 'x' => some { switches with spaced := on }
  | _ => none

/-- Reads switch letters up to a colon or a closing parenthesis.  A letter may come once, and the
dash that turns switches off may come once but not last.  Gives the switches, whether any was
named, and the rest from the final mark on. -/
def switches? : Switches → List Char → Bool → List Char → Option (Switches × Bool × List Char)
  | _, _, _, [] => none
  | switches, seen, on, c :: rest =>
      if c = ':' ∨ c = ')' then
        if seen.head? = some '-' then none else some (switches, !seen.isEmpty, c :: rest)
      else if seen.contains c then none
      else if c = '-' then switches? switches ('-' :: seen) false rest
      else
        match switches.set? c on with
        | some switches => switches? switches (c :: seen) on rest
        | none => none

/-- Characters of a group's name; a number may not begin it. -/
def isNameChar (first : Bool) (c : Char) : Bool :=
  c == '_' || Text.alphabeticSet.mem c ||
    (!first && (c == '.' || c == '[' || c == ']' || Text.numberSet.mem c))

/-- Reads the name of a group up to its closing mark. -/
def groupName? (source : List Char) : Option (List Char × List Char) :=
  let name := source.takeWhile (· != '>')
  match source.dropWhile (· != '>'), name with
  | '>' :: rest, first :: others =>
      if isNameChar true first && others.all (isNameChar false) then some (name, rest) else none
  | _, _ => none

/-- Opens a group in which the given switches hold. -/
def State.openGroup (state : State) (inside : Switches) : State :=
  { state with
    switches := inside
    level := .start state.switches none
    outer := state.level :: state.outer }

/-- Opens a group that keeps what it matches. -/
def State.openNumbered (state : State) : State :=
  { state with
    level := .start state.switches (some (state.groups + 1))
    outer := state.level :: state.outer
    groups := state.groups + 1 }

/-- Reads what follows an opening parenthesis: a group, or a setting of switches.  Conditions on
the text around a match are refused. -/
def State.parenthesis? (state : State) (source : List Char) : Option (State × List Char) :=
  let named (body : List Char) : Option (State × List Char) := do
    let (name, rest) ← groupName? body
    if state.names.contains name then none
    else
      pure ({ state.openNumbered with names := name :: state.names }, rest)
  match state.switches.gap source with
  | '?' :: '=' :: _ | '?' :: '!' :: _ | '?' :: '<' :: '=' :: _ | '?' :: '<' :: '!' :: _ => none
  | '?' :: 'P' :: '<' :: body => named body
  | '?' :: '<' :: body => named body
  | '?' :: body => do
      let (inside, any, rest) ← switches? state.switches [] true body
      match rest with
      | ')' :: rest =>
          if any then
            pure ({ state.push ⟨.empty, 0, false⟩ with switches := inside }, rest)
          else none
      | _ :: rest => pure (state.openGroup inside, rest)
      | [] => none
  | body => some (state.openNumbered, body)

/-- Closes the innermost group. -/
def State.closeGroup? (state : State) : Option State :=
  match state.outer with
  | [] => none
  | level :: outer =>
      let whole := state.level.whole
      let expr := match state.level.number with
        | some number => .group number whole.expr
        | none => whole.expr
      let closed := { state with switches := state.level.outside, level, outer }
      some (closed.push ⟨expr, whole.depth + 1, true⟩)

/-- Begins another alternative of the innermost group. -/
def State.alternative (state : State) : State :=
  let level := state.level
  { state with level :=
      { level with alternatives := level.current :: level.alternatives, items := [] } }

/-- What the dot stands for. -/
def dotSet? (switches : Switches) : Option CharSet :=
  if !switches.everyScript then none
  else if switches.dotMatchesLineFeed then some .all
  else if switches.pairedLineEnds then some (CharSet.complement ⟨[(0xA, 0xA), (0xD, 0xD)]⟩)
  else some (CharSet.complement (.ofChar '\n'))

def startEdge (switches : Switches) : Edge :=
  if !switches.multiLine then .textStart
  else if switches.pairedLineEnds then .pairedLineStart else .lineStart

def endEdge (switches : Switches) : Edge :=
  if !switches.multiLine then .textEnd
  else if switches.pairedLineEnds then .pairedLineEnd else .lineEnd

/-- The expression of an atom. -/
def atomExpr? (switches : Switches) : Atom → Option Expr
  | .char c byte => charExpr? switches c byte
  | .set set => some (.ofSet set)
  | .edge edge => some (.edge edge)

/-- Reads one part of a pattern; `source` is not empty. -/
def State.read? (state : State) (c : Char) (rest : List Char) : Option (State × List Char) :=
  let switches := state.switches
  match c with
  | '(' => state.parenthesis? rest
  | ')' => state.closeGroup?.map fun closed => (closed, rest)
  | '|' => some (state.alternative, rest)
  | '[' => do
      let (part, rest) ← Bracket.read? switches (c :: rest)
      pure (state.push ⟨.ofSet part.set, part.depth, true⟩, rest)
  | '?' => state.repeatLast? 0 (some 1) rest
  | '*' => state.repeatLast? 0 none rest
  | '+' => state.repeatLast? 1 none rest
  | '\x7b' => do
      let (least, most, rest) ← counts? switches (c :: rest)
      state.repeatLast? least most rest
  | '\\' => do
      let (atom, rest) ← escape? switches rest
      let expr ← atomExpr? switches atom
      pure (state.push (.plain expr), rest)
  | '.' => (dotSet? switches).map fun set => (state.push (.plain (.ofSet set)), rest)
  | '^' => some (state.push (.plain (.edge (startEdge switches))), rest)
  | '$' => some (state.push (.plain (.edge (endEdge switches))), rest)
  | _ =>
      (atomExpr? switches (.char c false)).map fun expr => (state.push (.plain expr), rest)

/-- Reads a pattern to its end; every part takes at least one character. -/
def readAll? : Nat → State → List Char → Option State
  | 0, _, _ => none
  | fuel + 1, state, source =>
      match state.switches.gap source with
      | [] => some state
      | c :: rest =>
          match state.read? c rest with
          | some (next, rest) => readAll? fuel next rest
          | none => none

/-- The notation may nest so deep. -/
def maxDepth : Nat := 250

/-- The expression of a pattern's source. -/
def parse? (source : List Char) : Option Expr := do
  let initial : State := ⟨.initial, .start .initial none, [], 0, []⟩
  let state ← readAll? (source.length + 1) initial source
  let whole := state.level.whole
  if state.outer.isEmpty ∧ whole.depth ≤ maxDepth then pure whole.expr else none

end FormRules.Pattern
