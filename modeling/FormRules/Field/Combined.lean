/-
Fields assembled from several others.
-/
import FormRules.Json.Printer
import FormRules.Template

namespace FormRules

/-- The text of a value inside a combined field. -/
def Value.toText (value : Value) : String :=
  match value with
  | .text s => s
  | .null => "null"
  | .flag b => if b then "true" else "false"
  | .whole n => (Double.ofInt n).toText
  | .real x => x.toText
  | .list _ | .record _ => Json.print value

/-- A field whose value is made from those of its sources, by joining them with glue or by filling
a template.  Rules can address it once it has a name. -/
structure Combined where
  sources : List String
  glue : Option String := none
  format : Option String := none
  name : Option String := none
deriving DecidableEq, Repr

namespace Combined

/-- The text that a source contributes; null contributes nothing. -/
def part (value : Value) : String :=
  if value.isNull then "" else value.toText

/-- The value made from those of the sources.  Glue wins over a template; without either, or
without sources, there is none. -/
def combine (field : Combined) (values : List Value) : Option Value :=
  if values.isEmpty then none
  else
    let parts := values.map part
    match field.glue, field.format with
    | some glue, _ => some (.text (glue.intercalate parts))
    | none, some format => some (.text (Template.fill format parts))
    | none, none => none

/-- The first of some combined fields that bears a name. -/
def find? (fields : List Combined) (name : String) : Option Combined :=
  fields.find? fun field => field.name == some name

end Combined

end FormRules
