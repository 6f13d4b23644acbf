/-
Rules look neither at the scope nor at the message.

A rule of the catalog decides on its parameters, on the values of fields by their bare names, and on
whether the control of its field is checked.  The scope is in all that only on the way to the source
of values, and the message that replaces the rule's own is left to those that report the failure.
-/
import FormRules.Rule.Catalog

namespace FormRules

/-- Two contexts that show the same but for the scope. -/
structure Context.Alike (first second : Context) : Prop where
  field_eq : first.field = second.field
  params_eq : first.params = second.params
  message_eq : first.message = second.message
  value_eq : first.value = second.value
  others_eq : first.others.value = second.others.value
  isChecked_eq : first.isChecked = second.isChecked

/-- A decision that is the same in contexts that show the same. -/
def Context.Unscoped {α : Type} (decide : Context → α) : Prop :=
  ∀ ⦃first second : Context⦄, first.Alike second → decide first = decide second

/-- Two contexts that show the same but for the scope and the message. -/
structure Context.Matches (first second : Context) : Prop where
  params_eq : first.params = second.params
  value_eq : first.value = second.value
  others_eq : first.others.value = second.others.value
  isChecked_eq : first.isChecked = second.isChecked

theorem Context.Alike.matches {first second : Context} (h : first.Alike second) :
    first.Matches second :=
  ⟨h.params_eq, h.value_eq, h.others_eq, h.isChecked_eq⟩

/-- A decision that is the same in contexts that match. -/
def Context.Steady {α : Type} (decide : Context → α) : Prop :=
  ∀ ⦃first second : Context⦄, first.Matches second → decide first = decide second

namespace Context.Steady

theorem value {α : Type} (read : Option Value → α) : Steady fun context => read context.value :=
  fun _ _ h => congrArg read h.value_eq

theorem givenValue {α : Type} (read : Option Value → α) :
    Steady fun context => read context.givenValue :=
  value fun held => read (given held)

theorem holdsText (property : List Char → Bool) :
    Steady fun context => context.holdsText property := by
  intro first second h
  simp only [Context.holdsText, Context.text?, h.value_eq]

theorem isChecked : Steady Context.isChecked := fun _ _ h => h.isChecked_eq

theorem otherValue (field : String) : Steady fun context => context.otherValue field := by
  intro first second h
  simp only [Context.otherValue, h.others_eq]

theorem countsWords (property : Double → Bool) :
    Steady fun context => Rule.countsWords context property := by
  intro first second h
  simp only [Rule.countsWords, h.value_eq]

theorem decideNumber (onText : List Char → Bool) (onNumber : Double → Bool) :
    Steady (Rule.decideNumber onText onNumber) := by
  intro first second h
  simp only [Rule.decideNumber, Context.givenValue, h.value_eq]

end Context.Steady

namespace Rule

open Context

/-- Prepared parameters, if they are without a fault, decide alike in contexts that match. -/
def PreparesSteady (prepared : Except Fault (Context → Bool)) : Prop :=
  ∀ decide, prepared = .ok decide → Steady decide

namespace PreparesSteady

theorem pure {decide : Context → Bool} (h : Steady decide) : PreparesSteady (.ok decide) := by
  intro other hother
  obtain rfl := Except.ok.inj hother
  exact h

theorem bind {α : Type} {prepared : Except Fault α} {next : α → Except Fault (Context → Bool)}
    (h : ∀ a, PreparesSteady (next a)) : PreparesSteady (prepared >>= next) := by
  intro decide hdecide
  cases prepared with
  | ok a => exact h a decide hdecide
  | error fault => cases hdecide

end PreparesSteady

/-- A rule that decides without the scope. -/
def IgnoresScope (rule : Rule) : Prop := Unscoped rule.check

/-- A rule that decides without the scope and the message. -/
def IsSteady (rule : Rule) : Prop := Steady rule.check

namespace IsSteady

theorem configured {name message : String} {prepare : List Param → Except Fault (Context → Bool)}
    (h : ∀ params, PreparesSteady (prepare params)) :
    (configured name message prepare).IsSteady := by
  intro first second hmatches
  rw [check_configured, check_configured, hmatches.params_eq]
  cases hprepared : prepare second.params with
  | ok decide => exact congrArg Except.ok (h _ decide hprepared hmatches)
  | error fault => rfl

theorem plain {name message : String} {decide : Context → Bool} (h : Steady decide) :
    (plain name message decide).IsSteady :=
  configured fun _ => .pure h

theorem onText (name message : String) (property : List Char → Bool) :
    (onText name message property).IsSteady :=
  plain (.holdsText property)

end IsSteady

/-- Whether the control of the field is checked is part of what contexts show. -/
theorem isSteady_accepted : accepted.IsSteady := .plain .isChecked

/-- The other field is named without a scope. -/
theorem isSteady_different : different.IsSteady := by
  refine .configured fun params => .bind fun other => .pure ?_
  intro first second h
  have hother := Steady.otherValue other.toText h
  simp only [Context.givenValue, h.value_eq, hother]

theorem isSteady_isDate : isDate.IsSteady := by
  refine .configured fun params => .bind fun format => .pure ?_
  intro first second h
  simp only [h.value_eq]

theorem isSteady_json : json.IsSteady := by
  refine .plain ?_
  intro first second h
  simp only [Context.givenValue, h.value_eq]

namespace PreparesSteady

theorem dateComparison (rule : String) (holds : DateTime → DateTime → Bool)
    (params : List Param) : PreparesSteady (Rule.dateComparison rule holds params) := by
  refine bind fun compared => bind fun format => pure ?_
  intro first second h
  simp only [h.value_eq]

/-- Whatever is made of the membership of the value. -/
theorem membership (rule : String) (params : List Param) (read : Bool → Bool) :
    PreparesSteady (do
      let isMember ← Rule.membership rule params
      Except.ok fun context => read (isMember context.givenValue)) :=
  bind fun isMember => pure (.givenValue fun held => read (isMember held))

end PreparesSteady

/-- No rule of the catalog looks at the scope or at the message. -/
theorem isSteady_of_mem_catalog : ∀ rule ∈ catalog, rule.IsSteady := by
  simp only [catalog, List.forall_mem_cons, List.not_mem_nil, false_imp_iff, implies_true, and_true]
  -- One case per shape: how many parameters are prepared, and what is asked of the field then.
  refine ⟨isSteady_accepted, ?after, ?alpha, ?alphaDash, ?alphaNumeric, ?before, ?between,
    ?contains, isSteady_different, ?email, ?equals, ?isIn, ?ip, ?ipv4, ?ipv6,
    isSteady_isDate, ?isInt, ?isNumeric, isSteady_json, ?length, ?lengthBetween,
    ?lengthMax, ?lengthMin, ?max, ?maxWords, ?min, ?minWords, ?notContains, ?notEquals, ?notIn,
    ?present, ?regex, ?url, ?words⟩
  case alpha | alphaDash | alphaNumeric | email | ip | ipv4 | ipv6 | url => exact .onText _ _ _
  case equals | notEquals | length | lengthMax | lengthMin | max | min =>
    exact .configured fun _ => .bind fun _ => .pure (.holdsText _)
  case between | lengthBetween | contains | notContains | regex =>
    exact .configured fun _ => .bind fun _ => .bind fun _ => .pure (.holdsText _)
  case words | maxWords | minWords =>
    exact .configured fun _ => .bind fun _ => .pure (.countsWords _)
  case after | before => exact .configured (.dateComparison _ _)
  case isInt | isNumeric => exact .plain (.decideNumber _ _)
  case isIn => exact .configured fun params => .membership "in" params id
  case notIn => exact .configured fun params => .membership "notin" params not
  case present => exact .plain (.givenValue _)

theorem ignoresScope_of_mem_catalog : ∀ rule ∈ catalog, rule.IgnoresScope :=
  fun rule hrule _ _ halike => isSteady_of_mem_catalog rule hrule halike.matches

end Rule

end FormRules
