/-
Mailbox addresses.

A mailbox is a local part and a domain around the last at sign.  The domain consists of labels
between dots; the local part does too, or else it stands in quotes.
-/
import FormRules.Text.Blank

namespace FormRules.Address

open Text

/-- Characters of a label: no blanks, and none of the marks that structure an address. -/
def isLabelChar (c : Char) : Bool :=
  !isBlank c && !"<>()[].,;:@\"".toList.contains c

def isLabel (label : List Char) : Bool := !label.isEmpty && label.all isLabelChar

/-- Two or more labels, the last of at least two characters. -/
def isMailDomain (text : List Char) : Bool :=
  let labels := pieces (· == '.') text
  decide (2 ≤ labels.length) && labels.all isLabel &&
    decide (2 ≤ (labels.getLast?.getD []).length)

/-- One or more characters in quotes, none of which ends the line. -/
def isQuoted (text : List Char) : Bool :=
  match text with
  | '"' :: rest =>
      rest.getLast? == some '"' && !rest.dropLast.isEmpty && rest.dropLast.all (· != '\n')
  | _ => false

def isLocalPart (text : List Char) : Bool :=
  (pieces (· == '.') text).all isLabel || isQuoted text

/-- Whether a text is a mailbox address. -/
def isMailbox (text : List Char) : Bool :=
  match cutAtLast '@' text with
  | some (localPart, domain) => isLocalPart localPart && isMailDomain domain
  | none => false

end FormRules.Address
