/-
What a rule may look at while it decides one field.
-/
import FormRules.Field.Qualified
import FormRules.Param
import FormRules.Rule.Fault
import FormRules.Value

namespace FormRules

/-- The other fields of a form as a rule sees them. -/
structure Surroundings where
  /-- The value of a field by its bare name. -/
  value : String → Option Value
  /-- Whether the control behind a qualified name is checked. -/
  isChecked : String → Bool

/-- A form without other fields. -/
def Surroundings.none : Surroundings := ⟨fun _ => Option.none, fun _ => false⟩

/-- The field to be decided, with the parameters of the rule and the other fields. -/
structure Context where
  field : String
  scope : Option String
  params : List Param
  /-- The message that replaces the rule's own. -/
  message : Option String
  value : Option Value
  others : Surroundings

namespace Context

/-- The value of the field; null counts as absent. -/
def givenValue (context : Context) : Option Value := given context.value

/-- The text of the field, if its value is a text. -/
def text? (context : Context) : Option (List Char) := (textOf context.value).map String.toList

/-- Whether the field holds a text with some property. -/
def holdsText (context : Context) (property : List Char → Bool) : Bool :=
  match context.text? with
  | some text => property text
  | none => false

/-- The value of another field; null counts as absent. -/
def otherValue (context : Context) (field : String) : Option Value :=
  given (context.others.value field)

/-- Whether the control of the field is checked. -/
def isChecked (context : Context) : Bool :=
  context.others.isChecked (qualify context.scope context.field)

end Context

/-- The parameter of a rule at an index, which the rule requires. -/
def argument (rule : String) (params : List Param) (index : Nat) : Except Fault Param :=
  match params[index]? with
  | some param => .ok param
  | none => .error (.missingArgument rule (index + 1))

end FormRules
