/-
Rules on numbers.

The bounds look at texts only, by the number at their beginning; a value that is a number fails
them.  The two rules on the shape of a number accept both.
-/
import FormRules.Rule.Registry

namespace FormRules.Rule

/-- Between parameter 1 and parameter 2, both included. -/
def between : Rule :=
  configured "between" "Must be between \"%s\" and \"%s\"" fun params => do
    let low := (← argument "between" params 0).parseFloat
    let high := (← argument "between" params 1).parseFloat
    pure fun context => context.holdsText fun text =>
      low.numLe (Coercion.parseFloat text) && (Coercion.parseFloat text).numLe high

/-- At most parameter 1. -/
def max : Rule :=
  configured "max" "Must be less than or equal to %s" fun params => do
    let most := (← argument "max" params 0).parseFloat
    pure fun context => context.holdsText fun text => (Coercion.parseFloat text).numLe most

/-- At least parameter 1. -/
def min : Rule :=
  configured "min" "Must be greater than or equal to %s" fun params => do
    let least := (← argument "min" params 0).parseFloat
    pure fun context => context.holdsText fun text => least.numLe (Coercion.parseFloat text)

/-- Whether a text is an integer: its beginning as an integer is the number of the whole. -/
def isIntegerText (text : List Char) : Bool :=
  (Coercion.parseInt text).numEq (Coercion.toNumber text)

/-- Whether a text is a number: it begins with one, and the whole is a finite one. -/
def isNumberText (text : List Char) : Bool :=
  !(Coercion.parseFloat text).isNan && (Coercion.toNumber text).isFinite

/-- Decides a value that is a text in one way and a value that is a number in another. -/
def decideNumber (onText : List Char → Bool) (onNumber : Double → Bool)
    (context : Context) : Bool :=
  match context.givenValue with
  | some (.text s) => onText s.toList
  | some value =>
      match value.number? with
      | some x => onNumber x
      | none => false
  | none => false

/-- A whole number, or a text that is an integer. -/
def isInt : Rule :=
  plain "isint" "Must be an integer number" (decideNumber isIntegerText Double.isWhole)

/-- A finite number, or a text that is one. -/
def isNumeric : Rule :=
  plain "isnumeric" "Must be a number" (decideNumber isNumberText Double.isFinite)

end FormRules.Rule
