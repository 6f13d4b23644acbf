/-
Parameters of rules.

A rule instance carries parameters of several kinds side by side.  Each kind has a text, and a
number in each of the three readings.
-/
import FormRules.Number.Coercion
import FormRules.Pattern

namespace FormRules

/-- One parameter of a rule instance. -/
inductive Param where
  | text (s : String)
  | number (x : Double)
  | flag (b : Bool)
  | list (items : List Param)
  | pattern (p : Pattern)

namespace Param

mutual

/-- The text of a parameter, as shown in messages: list items are separated by commas, and a
pattern stands between slashes. -/
def toText : Param → String
  | text s => s
  | number x => x.toText
  | flag b => if b then "true" else "false"
  | list items => itemTexts items
  | pattern p => "/" ++ p.source ++ "/"

def itemTexts : List Param → String
  | [] => ""
  | [item] => item.toText
  | item :: rest => item.toText ++ "," ++ itemTexts rest

end

/-- The number that a parameter denotes as a whole. -/
def toNumber (param : Param) : Double :=
  match param with
  | text s => Coercion.toNumber s.toList
  | number x => x
  | flag b => .ofBool b
  | list _ => Coercion.toNumber param.toText.toList
  | pattern _ => .nan

/-- The number at the beginning of a parameter's text; a number is itself. -/
def parseFloat (param : Param) : Double :=
  match param with
  | number x => x
  | _ => Coercion.parseFloat param.toText.toList

/-- The integer at the beginning of a parameter's text; a finite number loses its fraction. -/
def parseInt (param : Param) : Double :=
  match param with
  | number x => if x.isFinite then x.trunc else Coercion.parseInt param.toText.toList
  | _ => Coercion.parseInt param.toText.toList

/-- Whether a parameter is the flag that is on. -/
def isTrue : Param → Bool
  | flag b => b
  | _ => false

/-- Equality with a text, comparing as numbers where the parameter is a number or a flag. -/
def looselyEquals (param : Param) (other : String) : Bool :=
  match param with
  | text s => s == other
  | number _ | flag _ => (Coercion.toNumber other.toList).numEq param.toNumber
  | list _ | pattern _ => param.toText == other

/-- Equality with a text for a parameter that is a text. -/
def strictlyEquals (param : Param) (other : String) : Bool :=
  match param with
  | text s => s == other
  | _ => false

end Param

end FormRules
