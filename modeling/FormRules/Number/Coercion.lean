/-
Reading texts as numbers, in three strengths.

`toNumber` wants the whole text to be a number and takes a blank text for zero.  `parseFloat` and
`parseInt` read the longest numeric beginning and ignore what follows.  A text that cannot be read
gives not-a-number.
-/
import FormRules.Number.Literal
import FormRules.Text.Blank

namespace FormRules.Coercion

open Text Numeral

def infinityWord : List Char := "Infinity".toList

/-- The radix announced by the two leading characters of a text. -/
def radixMark? : Char → Char → Option Nat
  | '0', 'x' | '0', 'X' => some 16
  | '0', 'o' | '0', 'O' => some 8
  | '0', 'b' | '0', 'B' => some 2
  | _, _ => none

/-- The number written after a radix mark.  A plus sign is allowed, and the number has to fit in
sixty-four bits. -/
def readRadix (radix : Nat) (text : List Char) : Double :=
  let digits := match text with
    | '+' :: rest => rest
    | _ => text
  if digits.isEmpty || !digits.all (isDigitOf radix) then .nan
  else
    let n := numberOf radix digits
    if n < Nat.pow 2 64 then .ofNat n else .nan

/-- Whether a text has no other characters than those of numerals. -/
def isDecimalShaped (text : List Char) : Bool :=
  text.all fun c => isAsciiDigit c || punctuation.contains c

/-- Whether a text begins with a sign. -/
def beginsWithSign : List Char → Bool
  | '+' :: _ | '-' :: _ => true
  | _ => false

/-- The number of the text behind a sign.  A literal may be a word or have a sign of its own, so these
are turned down before the text is read as one. -/
def readNumeral (body : List Char) : Double :=
  if !isDecimalShaped body || beginsWithSign body || !body.any isAsciiDigit then .nan
  else (Double.ofLiteral? .double body).getD .nan

/-- The number that a trimmed, non-empty text denotes as a whole. -/
def readWhole (text : List Char) : Double :=
  let (negative, body) := scanSign text
  if body = infinityWord then Double.infinity.withSign negative
  else
    match text with
    | first :: second :: digit :: rest =>
        match radixMark? first second with
        | some radix => readRadix radix (digit :: rest)
        | none => (readNumeral body).withSign negative
    | _ => (readNumeral body).withSign negative

/-- The number that a whole text denotes; a blank text denotes zero. -/
def toNumber (text : List Char) : Double :=
  if allBlank text then .zero else readWhole (trim text)

/-- The number at the beginning of a text, after leading blanks.  The digits of every script take
part in the search, but only `0` to `9` have a value. -/
def parseFloat (text : List Char) : Double :=
  let (negative, body) := scanSign (trimStart text)
  if infinityWord.isPrefixOf body then Double.infinity.withSign negative
  else
    match scan? isDecimalDigit body with
    | some (numeral, _) => numeral.toDouble.withSign negative
    | none => .nan

/-- The hexadecimal digits that follow a radix mark, if there are any. -/
def hexDigits? : List Char → Option (List Char)
  | '0' :: mark :: rest =>
      let digits := rest.takeWhile (isDigitOf 16)
      if (mark = 'x' ∨ mark = 'X') ∧ digits ≠ [] then some digits else none
  | _ => none

/-- The magnitude of hexadecimal digits; one that does not fit in 128 bits is infinite. -/
def hexMagnitude (digits : List Char) : Double :=
  let n := numberOf 16 digits
  if n < Nat.pow 2 128 then .ofNat n else .infinity

/-- The integer at the beginning of a text, after leading blanks: hexadecimal after a radix mark,
otherwise decimal. -/
def parseInt (text : List Char) : Double :=
  let (negative, body) := scanSign (trimStart text)
  match hexDigits? body with
  | some digits => (hexMagnitude digits).withSign negative
  | none =>
      let digits := body.takeWhile isDecimalDigit
      if digits.isEmpty then .nan
      else (Numeral.mk digits none none).toDouble.withSign negative

end FormRules.Coercion
