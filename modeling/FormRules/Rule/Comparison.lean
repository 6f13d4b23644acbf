/-
Rules that compare a field with parameters or with another field.
-/
import FormRules.Rule.Registry
import FormRules.Text.Pieces

namespace FormRules.Rule

/-- The control of the field is checked. -/
def accepted : Rule :=
  plain "accepted" "Must be accepted" Context.isChecked

/-- The value differs from that of the field named by parameter 1. -/
def different : Rule :=
  configured "different" "Can not have the same value as \"%s\" field" fun params => do
    let other := (← argument "different" params 0).toText
    pure fun context => !sameGiven context.givenValue (context.otherValue other)

/-- How a rule compares a text with parameter 1: exactly when parameter 2 is the flag that is on,
otherwise with numbers and flags as numbers. -/
def comparison (rule : String) (params : List Param) : Except Fault (String → Bool) := do
  let expected ← argument rule params 0
  let strict := (params[1]?.map Param.isTrue).getD false
  pure fun text => if strict then expected.strictlyEquals text else expected.looselyEquals text

/-- The text equals parameter 1. -/
def equals : Rule :=
  configured "equals" "Must be equal to \"%s\"" fun params => do
    let isEqual ← comparison "equals" params
    pure fun context => context.holdsText fun text => isEqual (String.ofList text)

/-- The field holds a text that does not equal parameter 1. -/
def notEquals : Rule :=
  configured "notequals" "Must not be equal to \"%s\"" fun params => do
    let isEqual ← comparison "notequals" params
    pure fun context => context.holdsText fun text => !isEqual (String.ofList text)

/-- Whether a list item is the same as a value, each kind by itself. -/
def matchesItem (value : Value) (item : Param) : Bool :=
  match item, value with
  | .text a, .text b => a == b
  | .number a, _ =>
      match value.number? with
      | some b => b.numEq a
      | none => false
  | .flag a, .flag b => a == b
  | _, _ => false

/-- Membership in parameter 1: as an item of a list, or as a part of a text. -/
def membership (rule : String) (params : List Param) :
    Except Fault (Option Value → Bool) := do
  match ← argument rule params 0 with
  | .list items =>
      pure fun
        | some value => items.any (matchesItem value)
        | none => false
  | .text whole =>
      pure fun
        | some (.text part) => Text.occursIn part.toList whole.toList
        | _ => false
  | other => .error (.invalidArgument rule (.notListOrText other.toText))

/-- The value is a member of parameter 1. -/
def isIn : Rule :=
  configured "in" "Invalid input" fun params => do
    let isMember ← membership "in" params
    pure fun context => isMember context.givenValue

/-- The value is no member of parameter 1. -/
def notIn : Rule :=
  configured "notin" "Invalid input" fun params => do
    let isMember ← membership "notin" params
    pure fun context => !isMember context.givenValue

/-- The field has a value, even an empty one. -/
def present : Rule :=
  plain "present" "Required" fun context => context.givenValue.isSome

end FormRules.Rule
