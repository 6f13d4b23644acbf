/-
Rules on dates.
-/
import FormRules.Date.Format
import FormRules.Rule.Registry

namespace FormRules.Rule

open Date

/-- How a rule compares a text with the date in parameter 1, both read by the format in parameter
2; a text or a parameter that cannot be read compares with nothing, and neither does anything by a
format that is refused. -/
def dateComparison (rule : String) (holds : DateTime → DateTime → Bool) (params : List Param) :
    Except Fault (Context → Bool) := do
  let compared := (← argument rule params 0).toText
  let format := Format.ofText? (← argument rule params 1).toText
  let read (text : String) : Option DateTime := format.bind fun format => format.parse? text
  pure fun context =>
    match (textOf context.value).bind read, read compared with
    | some value, some compared => holds value compared
    | _, _ => false

/-- Later than parameter 1. -/
def after : Rule :=
  configured "after" "Date should be after %s"
    (dateComparison "after" fun value compared => compared.isBefore value)

/-- Earlier than parameter 1. -/
def before : Rule :=
  configured "before" "Date should be before %s"
    (dateComparison "before" fun value compared => value.isBefore compared)

/-- A date of the calendar in the format of parameter 1. -/
def isDate : Rule :=
  configured "isdate" "Must be a valid date" fun params => do
    let format := Format.ofText? (← argument "isdate" params 0).toText
    pure fun context =>
      match textOf context.value, format with
      | some text, some format => (format.parse? text).isSome
      | _, _ => false

end FormRules.Rule
