/-
Web addresses.

An address may name a scheme and credentials; then comes a host, which is a dotted number or a
domain name, and then possibly a port and a path.  Credentials end at an at sign; when there are
several, the last one that leaves a proper host is taken.
-/
import FormRules.Address.Ip
import FormRules.Text.Blank

namespace FormRules.Address

open Text

/-- Whether a character is a small letter of a scheme name in any case; the long s counts as an
s. -/
def isLetterVariant (letter c : Char) : Bool :=
  c.toLower == letter || (letter == 's' && c == '\u017f')

/-- Takes a word in any case off the front of a text. -/
def dropWord? : List Char → List Char → Option (List Char)
  | [], text => some text
  | letter :: word, c :: rest => if isLetterVariant letter c then dropWord? word rest else none
  | _ :: _, [] => none

/-- Takes a scheme with its colon off the front of a text, if there is one. -/
def dropScheme (text : List Char) : List Char :=
  match ["https:", "http:", "ftp:"].findSome? fun scheme => dropWord? scheme.toList text with
  | some rest => rest
  | none => text

/-- What may follow the credentials of a text, the farthest first: the rests after at signs that
come after at least one character, with no blank before them. -/
def afterCredentials (begun : Bool) : List Char → List (List Char)
  | [] => []
  | c :: rest =>
      if isBlank c then []
      else afterCredentials true rest ++ if begun && c == '@' then [rest] else []

/-- Letters of a top-level domain: ASCII letters, and everything from the inverted exclamation mark
to the end of the basic plane. -/
def isDomainLetter (c : Char) : Bool :=
  c.isAlpha || decide (0xA1 ≤ c.toNat ∧ c.toNat ≤ 0xFFFF)

def isHostChar (c : Char) : Bool := isDomainLetter c || isAsciiDigit c

/-- A label of a host: dashes may stand between other characters but not at its ends. -/
def isHostLabel (label : List Char) : Bool :=
  match label.head?, label.getLast? with
  | some first, some last =>
      isHostChar first && isHostChar last && label.all fun c => isHostChar c || c == '-'
  | _, _ => false

/-- Two or more labels; the last consists of at least two letters. -/
def isDomainName (text : List Char) : Bool :=
  let labels := pieces (· == '.') text
  let top := labels.getLast?.getD []
  decide (2 ≤ labels.length) && labels.dropLast.all isHostLabel && decide (2 ≤ top.length) &&
    top.all isDomainLetter

/-- A number between bounds, written without a zero in front. -/
def isNumberBetween (low high : Nat) (digits : List Char) : Bool :=
  digits.all isAsciiDigit && digits.head? != some '0' &&
    decide (low ≤ numberOf 10 digits ∧ numberOf 10 digits ≤ high)

/-- A number up to 255 in at most three digits, of which two may begin with zeros. -/
def isMiddleOctet (digits : List Char) : Bool :=
  digits.all isAsciiDigit &&
    (decide (digits.length = 1 ∨ digits.length = 2) ||
      (decide (digits.length = 3) && isNumberBetween 100 255 digits))

/-- A dotted number as a host: it begins with 1 to 223 and ends with 1 to 254. -/
def isDottedHost (text : List Char) : Bool :=
  match pieces (· == '.') text with
  | [a, b, c, d] =>
      isNumberBetween 1 223 a && isMiddleOctet b && isMiddleOctet c && isNumberBetween 1 254 d
  | _ => false

/-- Loopback, link-local and private addresses. -/
def isReserved (host : List Char) : Bool :=
  match ipv4? host with
  | some (a, b, _, _) =>
      a == 10 || a == 127 || (a == 169 && b == 254) || (a == 192 && b == 168) ||
        (a == 172 && decide (16 ≤ b ∧ b ≤ 31))
  | none => false

/-- Whether a text is empty or a path, query or fragment without blanks. -/
def isTail : List Char → Bool
  | [] => true
  | c :: rest => (c == '/' || c == '?' || c == '#') && rest.all fun d => !isBlank d

/-- What follows a host: possibly a port of two to five digits, then a tail. -/
def isPortAndTail (text : List Char) : Bool :=
  match text with
  | ':' :: rest =>
      let port := rest.takeWhile isAsciiDigit
      decide (2 ≤ port.length ∧ port.length ≤ 5) && isTail (rest.dropWhile isAsciiDigit)
  | _ => isTail text

def isHostEnd (c : Char) : Bool := c == ':' || c == '/' || c == '?' || c == '#'

/-- The host that a text begins with. -/
def hostOf (text : List Char) : List Char := text.takeWhile fun c => !isHostEnd c

/-- Whether a text is a host with what may follow it. -/
def isHostAndRest (text : List Char) : Bool :=
  let host := hostOf text
  (isDottedHost host || isDomainName host) && isPortAndTail (text.drop host.length)

/-- Whether a text is a web address of a public host. -/
def isWebAddress (text : List Char) : Bool :=
  match dropScheme text with
  | '/' :: '/' :: rest =>
      match (afterCredentials false rest ++ [rest]).find? isHostAndRest with
      | some found => !(isDottedHost (hostOf found) && isReserved (hostOf found))
      | none => false
  | _ => false

end FormRules.Address
