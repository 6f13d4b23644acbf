/-
Where field values come from.

A source is asked for the value behind a qualified name each time a rule runs.  `Fields` is a
source held in memory whose values may be changed between questions.
-/
import FormRules.Value

namespace FormRules

/-- A source of field values, of checked controls, and of handles to form elements. -/
structure Source where
  /-- The value behind a qualified name, if there is such a field. -/
  value : String → Option Value
  /-- Whether the control behind a qualified name is checked. -/
  isChecked : String → Bool
  /-- The handle of the element of a field in a scope. -/
  handle : String → Option String → Option String

/-- Field values in memory by qualified name, and the names whose controls are checked. -/
structure Fields where
  values : List (String × Value)
  checked : List String

namespace Fields

def empty : Fields := ⟨[], []⟩

def value? (fields : Fields) (name : String) : Option Value :=
  (fields.values.find? fun entry => entry.1 == name).map Prod.snd

/-- The fields without the value of a name. -/
def remove (fields : Fields) (name : String) : Fields :=
  { fields with values := fields.values.filter fun entry => entry.1 != name }

/-- Stores a value under a name in place of the one before. -/
def set (fields : Fields) (name : String) (value : Value) : Fields :=
  { fields with values := (name, value) :: (fields.remove name).values }

def isChecked (fields : Fields) (name : String) : Bool := fields.checked.contains name

/-- Marks the control behind a name as checked or not. -/
def setChecked (fields : Fields) (name : String) (checked : Bool) : Fields :=
  let others := fields.checked.filter (· != name)
  { fields with checked := if checked then name :: others else others }

/-- The fields as a source without handles. -/
def toSource (fields : Fields) : Source :=
  ⟨fields.value?, fields.isChecked, fun _ _ => none⟩

end Fields

end FormRules
