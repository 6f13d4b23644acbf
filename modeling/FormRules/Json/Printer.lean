/-
JSON texts of field values, without any blanks.

Quoted texts escape only the quote, the backslash and the control characters.  Real numbers have
the fewest digits that read back; they always show a point, or else an exponent.
-/
import FormRules.Value

namespace FormRules.Json

/-- A digit of a number below sixteen. -/
def hexDigit (n : Nat) : Char :=
  if n < 10 then Char.ofNat ('0'.toNat + n) else Char.ofNat ('a'.toNat + n - 10)

/-- A character inside a quoted text. -/
def escape (c : Char) : List Char :=
  match c with
  | '"' => ['\\', '"']
  | '\\' => ['\\', '\\']
  | '\x08' => ['\\', 'b']
  | '\x0c' => ['\\', 'f']
  | '\n' => ['\\', 'n']
  | '\r' => ['\\', 'r']
  | '\t' => ['\\', 't']
  | _ =>
      if c.toNat < 0x20 then
        ['\\', 'u', '0', '0', hexDigit (c.toNat / 16), hexDigit (c.toNat % 16)]
      else [c]

/-- A quoted text. -/
def quote (s : String) : String :=
  String.ofList ('"' :: s.toList.flatMap escape ++ ['"'])

/-- Scientific notation starts below this exponent of the leading digit, and above the next. -/
def leastPlainExponent : Int := -5

def greatestPlainExponent : Int := 15

/-- The text of a positive numeral: a point is always shown in plain notation, and the exponent
always has a sign in scientific notation. -/
def printDecimal (d : Decimal) : List Char :=
  let digits := Decimal.digitChars d.digits
  let leading : Int := digits.length - 1 + d.exponent
  if leastPlainExponent ≤ leading ∧ leading ≤ greatestPlainExponent then
    if 0 ≤ d.exponent then d.positional ++ ['.', '0'] else d.positional
  else
    let significand := match digits with
      | first :: rest => if rest.isEmpty then [first] else first :: '.' :: rest
      | [] => []
    let sign := if leading < 0 then '-' else '+'
    significand ++ 'e' :: sign :: Decimal.digitChars leading.natAbs

/-- The text of a real number.  A number that is not finite has no numeral and is written as
null. -/
def printReal : Double → String
  | .nan => "null"
  | .signed negative rank _ =>
      if rank = Precision.double.top then "null"
      else
        let magnitude :=
          if rank = 0 then "0.0" else String.ofList (printDecimal (shortest .toEven rank))
        if negative then "-" ++ magnitude else magnitude

mutual

/-- The text of a value. -/
def print : Value → String
  | .null => "null"
  | .flag b => if b then "true" else "false"
  | .whole n => toString n
  | .real x => printReal x
  | .text s => quote s
  | .list items => "[" ++ printItems items ++ "]"
  | .record members => "\x7b" ++ printMembers members ++ "\x7d"

def printItems : List Value → String
  | [] => ""
  | [item] => print item
  | item :: rest => print item ++ "," ++ printItems rest

def printMembers : List (String × Value) → String
  | [] => ""
  | [(name, value)] => quote name ++ ":" ++ print value
  | (name, value) :: rest => quote name ++ ":" ++ print value ++ "," ++ printMembers rest

end

end FormRules.Json
