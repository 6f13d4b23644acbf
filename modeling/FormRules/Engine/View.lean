/-
Field values as rules see them: combined fields first, then those of the source.
-/
import FormRules.Field.Combined
import FormRules.Field.Qualified
import FormRules.Field.Source
import FormRules.Rule.Context

namespace FormRules

/-- All that field values come from. -/
structure FieldView where
  source : Source
  combined : List Combined
  scope : Option String

namespace FieldView

/-- The value of a field of the source, whose name is qualified first. -/
def lookup (view : FieldView) (field : String) : Option Value :=
  view.source.value (qualify view.scope field)

/-- The values of some fields of the source, null for those that are absent. -/
def sourceValues (view : FieldView) (fields : List String) : List Value :=
  fields.map fun field => (view.lookup field).getD .null

/-- The current value of a field.  A combined field reads its sources straight from the source of
values, so combined fields do not nest. -/
def value (view : FieldView) (field : String) : Option Value :=
  match Combined.find? view.combined field with
  | some combined => combined.combine (view.sourceValues combined.sources)
  | none => view.lookup field

/-- The view as the surroundings of a rule. -/
def toSurroundings (view : FieldView) : Surroundings := ⟨view.value, view.source.isChecked⟩

end FieldView

end FormRules
