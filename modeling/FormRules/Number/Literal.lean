/-
Numbers given as literals in one of the number types.
-/
import FormRules.Number.Numeral

namespace FormRules

namespace Double

/-- The double of a magnitude that is first rounded to another precision. -/
def ofRatioVia (p : Precision) (num den : Nat) : Double :=
  let rank := p.nearest num den
  if rank = p.top then infinity else ofRatio false (p.units rank) (Nat.pow 2 p.scale)

/-- The magnitude of a decimal, first rounded to another precision. -/
def ofDecimalVia (p : Precision) (d : Decimal) : Double :=
  if d.digits = 0 then zero
  else if 400 < d.exponent then infinity
  else if d.exponent < -(d.digits.log2 + 400 : Int) then zero
  else ofRatioVia p (d.digits * Nat.pow 10 d.exponent.toNat) (Nat.pow 10 (-d.exponent).toNat)

/-- Reads a floating-point literal: an optional sign, then a numeral or the word for infinity or
not-a-number in any case. -/
def ofLiteral? (p : Precision) (text : List Char) : Option Double :=
  let (negative, body) := Numeral.scanSign text
  let word := String.ofList (body.map Char.toLower)
  if word = "inf" ∨ word = "infinity" then some (infinity.withSign negative)
  else if word = "nan" then some nan
  else (Numeral.read? body).map fun numeral => (ofDecimalVia p numeral.toDecimal).withSign negative

end Double

/-- Reads an integer literal: an optional sign, then digits. -/
def integerLiteral? (text : List Char) : Option Int :=
  let (negative, digits) := Numeral.scanSign text
  if digits.isEmpty || !digits.all Text.isAsciiDigit then none
  else
    let n : Int := Text.numberOf 10 digits
    some (if negative then -n else n)

end FormRules
