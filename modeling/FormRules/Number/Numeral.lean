/-
Decimal numerals in text, and the doubles that they denote.

A numeral is digits with an optional point and an optional exponent.  `scan?` splits the longest
numeral off the front of a text; which characters count as digits is a parameter, because a search
for numerals may know more digits than a reader of them.
-/
import FormRules.Number.Shortest
import FormRules.Text.Digit

namespace FormRules

namespace Decimal

/-- The double nearest to a decimal.  Decimals far outside the range of doubles are infinite or
zero, which also keeps the powers of ten small. -/
def toDouble (d : Decimal) : Double :=
  if d.digits = 0 then .zero
  else if 400 < d.exponent then .infinity
  else if d.exponent < -(d.digits.log2 + 400 : Int) then .zero
  else .ofRatio false (d.digits * Nat.pow 10 d.exponent.toNat) (Nat.pow 10 (-d.exponent).toNat)

end Decimal

/-- The parts of a numeral as they stand in a text. -/
structure Numeral where
  whole : List Char
  /-- The digits after the point, if there is a point. -/
  fraction : Option (List Char)
  /-- Whether the exponent is negative, and its digits, if there is an exponent. -/
  exponent : Option (Bool × List Char)
deriving DecidableEq, Repr

namespace Numeral

open Text

/-- Splits a sign off the front of a text, and tells whether it is a minus. -/
def scanSign : List Char → Bool × List Char
  | '-' :: rest => (true, rest)
  | '+' :: rest => (false, rest)
  | text => (false, text)

/-- Splits an exponent off the front of a text: a mark, an optional sign, and at least one digit.
Without a digit nothing is taken. -/
def scanExponent (isDigit : Char → Bool) (text : List Char) :
    Option (Bool × List Char) × List Char :=
  match text with
  | [] => (none, text)
  | mark :: rest =>
      if mark = 'e' ∨ mark = 'E' then
        let (negative, body) := scanSign rest
        let digits := body.takeWhile isDigit
        if digits.isEmpty then (none, text) else (some (negative, digits), body.dropWhile isDigit)
      else (none, text)

/-- Splits the longest numeral off the front of a text: digits with an optional point and further
digits, or a point with digits, either with an optional exponent. -/
def scan? (isDigit : Char → Bool) (text : List Char) : Option (Numeral × List Char) :=
  let whole := text.takeWhile isDigit
  let rest := text.dropWhile isDigit
  match rest with
  | '.' :: tail =>
      let fraction := tail.takeWhile isDigit
      if whole.isEmpty && fraction.isEmpty then none
      else
        let (exponent, rest) := scanExponent isDigit (tail.dropWhile isDigit)
        some (⟨whole, some fraction, exponent⟩, rest)
  | _ =>
      if whole.isEmpty then none
      else
        let (exponent, rest) := scanExponent isDigit rest
        some (⟨whole, none, exponent⟩, rest)

/-- The characters of a numeral that are no digits. -/
def punctuation : List Char := ['.', 'e', 'E', '+', '-']

/-- All digits of a numeral, in the order of the text. -/
def allDigits (n : Numeral) : List Char :=
  n.whole ++ n.fraction.getD [] ++ (n.exponent.map Prod.snd).getD []

/-- The decimal of a numeral with digits `0` to `9`. -/
def toDecimal (n : Numeral) : Decimal :=
  let fraction := n.fraction.getD []
  let exponent : Int :=
    match n.exponent with
    | some (true, digits) => -(numberOf 10 digits : Int)
    | some (false, digits) => numberOf 10 digits
    | none => 0
  ⟨numberOf 10 (n.whole ++ fraction), exponent - fraction.length⟩

/-- The double nearest to a numeral; not-a-number if a digit is not one of `0` to `9`. -/
def toDouble (n : Numeral) : Double :=
  if n.allDigits.all isAsciiDigit then n.toDecimal.toDouble else .nan

/-- Reads a text that is one numeral from end to end. -/
def read? (text : List Char) : Option Numeral :=
  match scan? isAsciiDigit text with
  | some (numeral, []) => some numeral
  | _ => none

end Numeral

end FormRules
