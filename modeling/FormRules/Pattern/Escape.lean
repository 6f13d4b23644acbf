/-
Escapes in patterns: characters by name or number, classes, and edges.
-/
import FormRules.Pattern.Class
import FormRules.Pattern.Cursor
import FormRules.Pattern.Expr

namespace FormRules.Pattern

/-- What a single escape or character of a pattern denotes. -/
inductive Atom where
  /-- A character; `byte` tells that it was written as a two-digit number. -/
  | char (c : Char) (byte : Bool)
  | set (set : CharSet)
  | edge (edge : Edge)

/-- The character of a code point that is one. -/
def charOfCode? (code : Nat) : Option Char :=
  if h : code.isValidChar then some (Char.ofNatAux code h) else none

/-- Reads exactly so many hexadecimal digits. -/
def hexDigits? (switches : Switches) : Nat → List Char → List Char →
    Option (List Char × List Char)
  | 0, digits, source => some (digits.reverse, source)
  | count + 1, digits, source =>
      match source with
      | c :: _ =>
          if Text.isDigitOf 16 c then hexDigits? switches count (c :: digits) (switches.next source)
          else none
      | [] => none

/-- Reads hexadecimal digits up to a closing brace; gives what follows the brace. -/
def bracedHex? (switches : Switches) : Nat → List Char → List Char →
    Option (List Char × List Char)
  | 0, _, _ => none
  | fuel + 1, digits, source =>
      match source with
      | '\x7d' :: _ => if digits.isEmpty then none else some (digits.reverse, switches.next source)
      | c :: _ =>
          if Text.isDigitOf 16 c then bracedHex? switches fuel (c :: digits) (switches.next source)
          else none
      | [] => none

/-- Reads a character given by its number; `source` begins with the letter of the escape. -/
def hexChar? (switches : Switches) (letter : Char) (source : List Char) :
    Option (Atom × List Char) := do
  let body := switches.next source
  match body with
  | '\x7b' :: _ =>
      let (digits, rest) ← bracedHex? switches (body.length + 1) [] (switches.next body)
      let c ← charOfCode? (Text.numberOf 16 digits)
      pure (.char c false, rest)
  | _ =>
      let width := if letter = 'x' then 2 else if letter = 'u' then 4 else 8
      let (digits, rest) ← hexDigits? switches width [] body
      let c ← charOfCode? (Text.numberOf 16 digits)
      pure (.char c (letter == 'x'), rest)

/-- Reads the name in braces up to the closing one. -/
def bracedName? (switches : Switches) : Nat → List Char → List Char →
    Option (List Char × List Char)
  | 0, _, _ => none
  | fuel + 1, name, source =>
      match source with
      | '\x7d' :: rest => some (name.reverse, rest)
      | c :: _ => bracedName? switches fuel (c :: name) (switches.next source)
      | [] => none

/-- Reads a class given by a property of characters; `source` begins with the letter of the
escape. -/
def propertyClass? (switches : Switches) (negated : Bool) (source : List Char) :
    Option (Atom × List Char) := do
  let body := switches.next source
  let (name, rest) ← match body with
    | '\x7b' :: _ => bracedName? switches (body.length + 1) [] (switches.next body)
    | '\\' :: _ => none
    | c :: _ => some ([c], switches.next body)
    | [] => none
  if !switches.everyScript then none
  else
    let (set, turned) ← Text.property? name
    let set := if switches.ignoreCase then set.withVariants else set
    pure (.set (if negated != turned then set.complement else set), rest)

def isBoundaryNameChar (c : Char) : Bool := c.isAlpha || c == '-'

/-- Reads the letters and dashes of a boundary's name. -/
def boundaryName (switches : Switches) : Nat → List Char → List Char → List Char × List Char
  | 0, name, source => (name.reverse, source)
  | fuel + 1, name, source =>
      match source with
      | c :: _ =>
          if isBoundaryNameChar c then boundaryName switches fuel (c :: name) (switches.next source)
          else (name.reverse, source)
      | [] => (name.reverse, source)

/-- Reads what follows a word boundary escape.  A name in braces makes it one-sided; braces that
do not begin with a letter or dash are left for a repetition. -/
def boundary? (switches : Switches) (source : List Char) : Option (Atom × List Char) :=
  let ascii := !switches.everyScript
  match source with
  | '\x7b' :: _ =>
      match switches.next source with
      | [] => none
      | c :: tail =>
          if !isBoundaryNameChar c then some (.edge (.wordBoundary ascii), source)
          else
            match boundaryName switches source.length [] (c :: tail) with
            | (name, '\x7d' :: rest) =>
                match String.ofList name with
                | "start" => some (.edge (.wordStart ascii), rest)
                | "end" => some (.edge (.wordEnd ascii), rest)
                | "start-half" => some (.edge (.beforeNotWord ascii), rest)
                | "end-half" => some (.edge (.afterNotWord ascii), rest)
                | _ => none
            | _ => none
  | _ => some (.edge (.wordBoundary ascii), source)

/-- Reads an escape after its backslash. -/
def escape? (switches : Switches) (source : List Char) : Option (Atom × List Char) :=
  match source with
  | [] => none
  | c :: rest =>
      if c.isDigit then none
      else if c = 'x' ∨ c = 'u' ∨ c = 'U' then hexChar? switches c source
      else if c = 'p' ∨ c = 'P' then propertyClass? switches (c == 'P') source
      else if "dswDSW".toList.contains c then
        (letterClass? switches.everyScript c).map fun set => (.set set, rest)
      else if isEscapable c then some (.char c false, rest)
      else
        match c with
        | 'a' => some (.char '\x07' false, rest)
        | 'f' => some (.char '\x0c' false, rest)
        | 't' => some (.char '\t' false, rest)
        | 'n' => some (.char '\n' false, rest)
        | 'r' => some (.char '\r' false, rest)
        | 'v' => some (.char '\x0b' false, rest)
        | 'A' => some (.edge .textStart, rest)
        | 'z' => some (.edge .textEnd, rest)
        | 'b' => boundary? switches rest
        | 'B' => some (.edge (.notWordBoundary !switches.everyScript), rest)
        | '<' => some (.edge (.wordStart !switches.everyScript), rest)
        | '>' => some (.edge (.wordEnd !switches.everyScript), rest)
        | _ => none

/-- The expression of one character under the switches.  Without the other scripts a character
beyond ASCII has no case variants, and one written as a number would be a lone byte; both are
refused. -/
def charExpr? (switches : Switches) (c : Char) (byte : Bool) : Option Expr :=
  if !switches.everyScript && (byte || switches.ignoreCase) && decide (0x7F < c.toNat) then none
  else if switches.ignoreCase then some (.ofSet (foldCase switches.everyScript (.ofChar c)))
  else some (.text [c])

end FormRules.Pattern
