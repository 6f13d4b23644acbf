/-
Internet addresses.
-/
import FormRules.Text.Digit
import FormRules.Text.Pieces

namespace FormRules.Address

open Text

/-- The value of one part of a dotted address: one to three digits, no zero in front of others,
and at most 255. -/
def octet? (digits : List Char) : Option Nat :=
  let n := numberOf 10 digits
  if digits ≠ [] ∧ digits.length ≤ 3 ∧ digits.all isAsciiDigit ∧
      (digits.head? ≠ some '0' ∨ digits.length = 1) ∧ n ≤ 255 then
    some n
  else none

/-- The four parts of a dotted address. -/
def ipv4? (text : List Char) : Option (Nat × Nat × Nat × Nat) :=
  match pieces (· == '.') text with
  | [a, b, c, d] => do
      let a ← octet? a
      let b ← octet? b
      let c ← octet? c
      let d ← octet? d
      pure (a, b, c, d)
  | _ => none

def isIpv4 (text : List Char) : Bool := (ipv4? text).isSome

/-- A group of an address with colons: one to four hexadecimal digits. -/
def isGroup (digits : List Char) : Bool :=
  decide (digits ≠ [] ∧ digits.length ≤ 4) && digits.all (isDigitOf 16)

/-- How many groups stand between the colons of a text; the last two may be written as a dotted
address where that is allowed. -/
def groupCount? (dottedEnd : Bool) : List (List Char) → Option Nat
  | [] => some 0
  | [last] =>
      if isGroup last then some 1
      else if dottedEnd && isIpv4 last then some 2
      else none
  | group :: rest => if isGroup group then (groupCount? dottedEnd rest).map (· + 1) else none

/-- The number of groups in one side of an address; an empty side has none. -/
def sideCount? (dottedEnd : Bool) (side : List Char) : Option Nat :=
  if side.isEmpty then some 0 else groupCount? dottedEnd (pieces (· == ':') side)

/-- Splits a text around its first double colon. -/
def aroundDoubleColon : List Char → Option (List Char × List Char)
  | ':' :: ':' :: rest => some ([], rest)
  | c :: rest => (aroundDoubleColon rest).map fun (before, after) => (c :: before, after)
  | [] => none

/-- An address of eight groups.  A double colon stands for one or more groups of zeros, and the
dotted form may only end an address. -/
def isIpv6 (text : List Char) : Bool :=
  match aroundDoubleColon text with
  | none => sideCount? true text == some 8
  | some (before, after) =>
      match sideCount? false before, sideCount? true after with
      | some first, some second => decide (first + second ≤ 7)
      | _, _ => false

/-- An address of either kind. -/
def isIp (text : List Char) : Bool := isIpv4 text || isIpv6 text

end FormRules.Address
