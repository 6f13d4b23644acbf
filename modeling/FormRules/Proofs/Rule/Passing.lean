/-
Rules that pass on a text.

A rule on the text of a field passes if the text has the property.  A rule on dates reads the text, and
the date to compare it with, by the format in its parameters.
-/
import FormRules.Rule.Content
import FormRules.Rule.Dates

namespace FormRules

namespace Date

/-- The date and time that a text is read as by the format of another text. -/
def read? (format text : String) : Option DateTime :=
  (Format.ofText? format).bind fun format => format.parse? text

end Date

theorem Context.holdsText_iff {context : Context} {property : List Char → Bool} :
    context.holdsText property = true ↔
      ∃ text, context.value = some (.text text) ∧ property text.toList = true := by
  obtain ⟨_, _, _, _, value, _⟩ := context
  cases value with
  | none => simp [holdsText, text?, textOf]
  | some value => cases value <;> simp [holdsText, text?, textOf, Value.text?]

namespace Rule

/-- A rule with some parameters passes on a field that holds a text. -/
def Passes (rule : Rule) (context : Context) (params : List Param) (text : String) : Prop :=
  rule.check { context with params := params, value := some (.text text) } = .ok true

variable (context : Context) (text : String)

theorem check_onText (name message : String) (property : List Char → Bool) :
    (onText name message property).check context = .ok (context.holdsText property) := rfl

theorem passes_onText_iff (name message : String) (property : List Char → Bool)
    (params : List Param) :
    (onText name message property).Passes context params text ↔ property text.toList = true := by
  simp [Passes, onText, plain, check_configured, Except.map, Context.holdsText, Context.text?,
    textOf, Value.text?]

theorem passes_isDate_iff (format : String) :
    isDate.Passes context [.text format] text ↔ ∃ date, Date.read? format text = some date := by
  simp only [Passes, isDate, check_configured, argument, Param.toText, Except.map, bind, Except.bind,
    pure, Except.pure, List.getElem?_cons_zero, textOf, Option.bind_some, Value.text?, Date.read?]
  cases Date.Format.ofText? format with
  | none => simp
  | some format => simp [Option.isSome_iff_exists]

/-- A comparison of dates passes if both texts are read and what they are read as compares. -/
theorem passes_dateComparison_iff (name message rule : String) (holds : DateTime → DateTime → Bool)
    (compared format : String) :
    (configured name message (dateComparison rule holds)).Passes context
        [.text compared, .text format] text ↔
      ∃ value other, Date.read? format text = some value ∧ Date.read? format compared = some other ∧
        holds value other = true := by
  have hread : ∀ read, (Date.Format.ofText? format).bind (fun format => format.parse? read) =
      Date.read? format read := fun _ => rfl
  simp only [Passes, check_configured, dateComparison, argument, Param.toText, Except.map, bind,
    Except.bind, pure, Except.pure, List.getElem?_cons_zero, List.getElem?_cons_succ, textOf,
    Option.bind_some, Value.text?, Except.ok.injEq, hread]
  cases Date.read? format text <;> cases Date.read? format compared <;> simp

theorem passes_after_iff (compared format : String) :
    after.Passes context [.text compared, .text format] text ↔
      ∃ value other, Date.read? format text = some value ∧ Date.read? format compared = some other ∧
        other.isBefore value = true :=
  passes_dateComparison_iff context text _ _ _ _ compared format

theorem passes_before_iff (compared format : String) :
    before.Passes context [.text compared, .text format] text ↔
      ∃ value other, Date.read? format text = some value ∧ Date.read? format compared = some other ∧
        value.isBefore other = true :=
  passes_dateComparison_iff context text _ _ _ _ compared format

end Rule

end FormRules
