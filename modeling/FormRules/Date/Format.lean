/-
Date formats.

A format is a text in which certain letters stand for components of a date and time, and every
other character for itself.  Reading takes the tokens from left to right.  Where a component may
be read in several ways the readings are kept in order of preference, and of two that leave the
same rest only the preferred one goes on.
-/
import FormRules.Date.Calendar
import FormRules.Pattern.Footprint

namespace FormRules.Date

/-- A component of a date and time that a token may give. -/
inductive Component where
  | year
  /-- A year of the twentieth century by its last two digits. -/
  | shortYear
  | month
  | day
  | hour
  | minute
  | second
deriving DecidableEq, Repr

/-- The spellings of a component: each spelling gives, digit by digit, the least and the greatest
digit allowed. -/
abbrev Spellings := List (List (Nat × Nat))

/-- One element of a format. -/
inductive Token where
  | field (letter : Char) (component : Component) (spellings : Spellings)
  | literal (c : Char)
deriving DecidableEq, Repr

namespace Token

/-- Months and half-day hours: 01 to 12. -/
def twelve : Spellings := [[(0, 0), (1, 9)], [(1, 1), (0, 2)]]

/-- The same without a leading zero; one digit is preferred. -/
def plainTwelve : Spellings := [[(1, 9)], [(1, 1), (0, 2)]]

/-- Minutes and seconds: 00 to 59. -/
def sixty : Spellings := [[(0, 5), (0, 9)]]

/-- The token of a format's character. -/
def ofChar (c : Char) : Token :=
  match c with
  | 'Y' => .field c .year [[(0, 9), (0, 9), (0, 9), (0, 9)]]
  | 'y' => .field c .shortYear [[(0, 9), (0, 9)]]
  | 'm' => .field c .month twelve
  | 'n' => .field c .month plainTwelve
  | 'd' => .field c .day [[(0, 0), (1, 9)], [(1, 2), (0, 9)], [(3, 3), (0, 1)]]
  | 'j' => .field c .day [[(1, 9)], [(1, 2), (0, 9)], [(3, 3), (0, 1)]]
  | 'g' => .field c .hour plainTwelve
  | 'G' => .field c .hour [[(0, 9)], [(1, 1), (0, 9)], [(2, 2), (0, 3)]]
  | 'h' => .field c .hour twelve
  | 'H' => .field c .hour [[(0, 1), (0, 9)], [(2, 2), (0, 3)]]
  | 'i' => .field c .minute sixty
  | 's' => .field c .second sixty
  | _ => .literal c

/-- The pattern of what a token spells, as the group of the given number if it is a field. -/
def expr : Token × Nat → Pattern.Expr
  | (.field _ _ spellings, number) =>
      let digit (bounds : Nat × Nat) : Pattern.Expr :=
        .ofSet (.ofRange ('0'.toNat + bounds.1) ('0'.toNat + bounds.2))
      .group number (.choice (spellings.map fun digits => .sequence (digits.map digit)))
  | (.literal c, _) => .text [c]

end Token

/-- Components read so far; those without a token are zero, but month and day have to be read. -/
structure Reading where
  year : Nat := 0
  month : Option Nat := none
  day : Option Nat := none
  hour : Nat := 0
  minute : Nat := 0
  second : Nat := 0
deriving DecidableEq, Repr

namespace Reading

/-- Takes over a component; a later value replaces an earlier one. -/
def set (reading : Reading) (component : Component) (n : Nat) : Reading :=
  match component with
  | .year => { reading with year := n }
  | .shortYear => { reading with year := 1900 + n }
  | .month => { reading with month := some n }
  | .day => { reading with day := some n }
  | .hour => { reading with hour := n }
  | .minute => { reading with minute := n }
  | .second => { reading with second := n }

/-- The date and time of a reading, if it has a month and a day that exist together. -/
def toDateTime? (reading : Reading) : Option DateTime :=
  match reading.month, reading.day with
  | some month, some day =>
      let d : DateTime := ⟨reading.year, month, day, reading.hour, reading.minute, reading.second⟩
      if d.IsReal then some d else none
  | _, _ => none

end Reading

/-- Reads one spelling off the front of a text. -/
def spelling? : List (Nat × Nat) → Nat → List Char → Option (Nat × List Char)
  | [], n, text => some (n, text)
  | (low, high) :: bounds, n, c :: rest =>
      let digit := c.toNat - '0'.toNat
      if Text.isAsciiDigit c ∧ low ≤ digit ∧ digit ≤ high then
        spelling? bounds (n * 10 + digit) rest
      else none
  | _ :: _, _, [] => none

/-- A reading of the beginning of a text, with the rest of the text. -/
structure Partial where
  reading : Reading
  rest : List Char
deriving DecidableEq, Repr

namespace Partial

/-- All ways to go on with one token, in order of preference. -/
def step (token : Token) (state : Partial) : List Partial :=
  match token with
  | .field _ component spellings =>
      spellings.filterMap fun bounds =>
        (spelling? bounds 0 state.rest).map fun (n, rest) => ⟨state.reading.set component n, rest⟩
  | .literal c =>
      match state.rest with
      | d :: rest => if d = c then [⟨state.reading, rest⟩] else []
      | [] => []

/-- Keeps the first of all states that leave the same rest. -/
def preferred : List Partial → List Partial
  | [] => []
  | state :: others => state :: (preferred others).filter fun other => other.rest != state.rest

end Partial

/-- A date format: its tokens, which spell its text. -/
structure Format where
  tokens : List Token
deriving DecidableEq, Repr

namespace Format

def ofText (text : String) : Format := ⟨text.toList.map Token.ofChar⟩

/-- The pattern of the texts that a format spells; each field is a group. -/
def expr (format : Format) : Pattern.Expr :=
  .sequence ([.edge .textStart] ++ (format.tokens.zipIdx 1).map Token.expr ++ [.edge .textEnd])

/-- The format of a text.  It is refused if its pattern is too large to be searched for. -/
def ofText? (text : String) : Option Format :=
  let format := ofText text
  if format.expr.fitsLimit then some format else none

/-- The states after reading some tokens from some states. -/
def run (tokens : List Token) (states : List Partial) : List Partial :=
  tokens.foldl (fun states token => Partial.preferred (states.flatMap (Partial.step token))) states

/-- Reads a whole text as a date and time. -/
def parse? (format : Format) (text : String) : Option DateTime :=
  match (run format.tokens [⟨{}, text.toList⟩]).find? fun state => state.rest.isEmpty with
  | some state => state.reading.toDateTime?
  | none => none

end Format

end FormRules.Date
