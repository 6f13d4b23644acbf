/-
Which faults a rule of the catalog finds.

A rule prepares its parameters before it looks at the field.  It takes one parameter after the
other, so that the first one missing is the fault; only then the first parameter may turn out to be
unfit.
-/
import FormRules.Rule.Catalog
import Mathlib.Tactic.SplitIfs

namespace FormRules

/-- The fault in what has been prepared. -/
def faultIn? {α : Type} : Except Fault α → Option Fault
  | .ok _ => none
  | .error fault => some fault

theorem faultIn?_eq_some_iff {α : Type} (prepared : Except Fault α) (fault : Fault) :
    faultIn? prepared = some fault ↔ prepared = .error fault := by
  cases prepared <;> simp [faultIn?]

theorem faultIn?_map {α β : Type} (prepared : Except Fault α) (read : α → β) :
    faultIn? (prepared.map read) = faultIn? prepared := by
  cases prepared <;> rfl

theorem faultIn?_bind_ok {α β : Type} (prepared : Except Fault α) (made : α → β) :
    faultIn? (prepared >>= fun a => .ok (made a)) = faultIn? prepared := by
  cases prepared <;> rfl

/-- The fault in some parameters of which a number is required, and whose first one may have a
problem. -/
def faultOf? (rule : String) (count : Nat) (problem? : Param → Option ArgumentProblem)
    (params : List Param) : Option Fault :=
  if params.length < count then some (.missingArgument rule (params.length + 1))
  else (params.head?.bind problem?).map (.invalidArgument rule)

/-- Preparing parameters finds the faults that a required number of them and the problems of the
first one lead to, and no others. -/
def Demands {α : Type} (rule : String) (count : Nat) (problem? : Param → Option ArgumentProblem)
    (prepare : List Param → Except Fault α) : Prop :=
  ∀ params, faultIn? (prepare params) = faultOf? rule count problem? params

/-- A parameter without problems. -/
def noProblem (_ : Param) : Option ArgumentProblem := none

namespace Demands

variable {α β : Type} {rule : String} {count : Nat} {problem? : Param → Option ArgumentProblem}

theorem nothing (rule : String) (made : List Param → α) :
    Demands rule 0 noProblem fun params => .ok (made params) := by
  rintro (_ | ⟨first, rest⟩) <;> rfl

/-- What is made of one parameter may have a problem with it. -/
theorem first {use : Param → Except Fault α}
    (huse : ∀ param, faultIn? (use param) = (problem? param).map (.invalidArgument rule)) :
    Demands rule 1 problem? fun params => argument rule params 0 >>= use := by
  rintro (_ | ⟨first, rest⟩)
  · rfl
  · exact huse first

theorem one (rule : String) (made : Param → α) :
    Demands rule 1 noProblem fun params => argument rule params 0 >>= fun a => .ok (made a) :=
  first fun _ => rfl

theorem two (rule : String) (made : Param → Param → α) :
    Demands rule 2 noProblem fun params =>
      argument rule params 0 >>= fun a => argument rule params 1 >>= fun b => .ok (made a b) := by
  rintro (_ | ⟨first, _ | ⟨second, rest⟩⟩)
  · rfl
  · rfl
  · simp [argument, bind, Except.bind, faultIn?, faultOf?, noProblem]

/-- What comes after the preparation finds no fault. -/
theorem andThen {prepare : List Param → Except Fault α} (h : Demands rule count problem? prepare)
    (made : List Param → α → β) :
    Demands rule count problem? fun params =>
      prepare params >>= fun a => .ok (made params a) := by
  intro params
  rw [← h params]
  exact faultIn?_bind_ok _ _

end Demands

namespace Rule

/-- A rule finds the faults that preparing its parameters finds. -/
def DemandsOf (rule : Rule) (count : Nat) (problem? : Param → Option ArgumentProblem) : Prop :=
  ∀ context, faultIn? (rule.check context) = faultOf? rule.name count problem? context.params

theorem DemandsOf.configured {name message : String} {count : Nat}
    {problem? : Param → Option ArgumentProblem}
    {prepare : List Param → Except Fault (Context → Bool)}
    (h : Demands name count problem? prepare) :
    (configured name message prepare).DemandsOf count problem? := by
  intro context
  rw [check_configured, faultIn?_map]
  exact h context.params

/-- How many parameters a rule of the catalog requires. -/
def requiredParams (name : String) : Nat :=
  if name ∈ ["after", "before", "between", "lengthbetween"] then 2
  else if name ∈ ["accepted", "alpha", "alphadash", "alphanumeric", "email", "ip", "ipv4", "ipv6",
      "isint", "isnumeric", "json", "present", "url"] then 0
  else 1

/-- What is wrong with a parameter of which something is to be a member. -/
def membershipProblem? : Param → Option ArgumentProblem
  | .list _ | .text _ => none
  | other => some (.notListOrText other.toText)

/-- What is wrong with the source of a pattern. -/
def sourceProblem? (source : String) : Option ArgumentProblem :=
  match Pattern.compile source with
  | .ok _ => none
  | .error refusal => some (.refusedSource refusal)

/-- What is wrong with a parameter to search for. -/
def searchProblem? : Param → Option ArgumentProblem
  | .pattern _ => none
  | other => sourceProblem? other.toText

/-- What is wrong with a parameter that is to be a pattern or the source of one. -/
def patternProblem? : Param → Option ArgumentProblem
  | .pattern _ => none
  | .text source => sourceProblem? source
  | other => some (.notPattern other.toText)

/-- What is wrong with the first parameter of a rule of the catalog. -/
def problem? (name : String) : Param → Option ArgumentProblem :=
  if name ∈ ["in", "notin"] then membershipProblem?
  else if name ∈ ["contains", "notcontains"] then searchProblem?
  else if name = "regex" then patternProblem?
  else noProblem

theorem faultIn?_compileFor (rule source : String) :
    faultIn? (compileFor rule source) = (sourceProblem? source).map (.invalidArgument rule) := by
  unfold compileFor sourceProblem?
  cases Pattern.compile source <;> rfl

theorem faultIn?_searchPattern (rule : String) (param : Param) :
    faultIn? (searchPattern rule param) = (searchProblem? param).map (.invalidArgument rule) := by
  cases param with
  | pattern pattern => rfl
  | text | number | flag | list => exact faultIn?_compileFor _ _

theorem faultIn?_patternOrSource (rule : String) (param : Param) :
    faultIn? (patternOrSource rule param) =
      (patternProblem? param).map (.invalidArgument rule) := by
  cases param with
  | text source => exact faultIn?_compileFor _ _
  | pattern | number | flag | list => rfl

theorem demands_membership (rule : String) :
    Demands rule 1 membershipProblem? (membership rule) := by
  apply Demands.first
  intro param
  cases param <;> rfl

theorem demands_comparison (rule : String) : Demands rule 1 noProblem (comparison rule) := by
  rintro (_ | ⟨first, rest⟩) <;> rfl

/-- A rule of the catalog finds a fault if a parameter that it requires is missing, or if the first
one has a problem. -/
theorem demandsOf_of_mem_catalog : ∀ rule ∈ catalog,
    rule.DemandsOf (requiredParams rule.name) (problem? rule.name) := by
  simp only [catalog, List.forall_mem_cons, List.not_mem_nil, false_imp_iff, implies_true, and_true]
  -- One case per shape: how many parameters are prepared, and what may be wrong with the first.
  refine ⟨?accepted, ?after, ?alpha, ?alphaDash, ?alphaNumeric, ?before, ?between, ?contains,
    ?different, ?email, ?equals, ?isIn, ?ip, ?ipv4, ?ipv6, ?isDate, ?isInt, ?isNumeric, ?json,
    ?length, ?lengthBetween, ?lengthMax, ?lengthMin, ?max, ?maxWords, ?min, ?minWords,
    ?notContains, ?notEquals, ?notIn, ?present, ?regex, ?url, ?words⟩
  case accepted | alpha | alphaDash | alphaNumeric | email | ip | ipv4 | ipv6 | isInt | isNumeric |
      json | present | url =>
    exact .configured (.nothing _ _)
  case different | isDate | length | lengthMax | lengthMin | max | min | words | maxWords |
      minWords =>
    exact .configured (.one _ _)
  case between | lengthBetween | after | before => exact .configured (.two _ _)
  case equals | notEquals => exact .configured ((demands_comparison _).andThen _)
  case isIn | notIn => exact .configured ((demands_membership _).andThen _)
  case contains | notContains =>
    exact .configured (.first fun param =>
      (faultIn?_bind_ok _ _).trans (faultIn?_searchPattern _ param))
  case regex =>
    exact .configured (.first fun param =>
      (faultIn?_bind_ok _ _).trans (faultIn?_patternOrSource _ param))

/-- A parameter of which a rule of the catalog cannot make use as its first one: neither a list nor
a text for a membership, one that does not compile for a search, and for a match one that is neither
a pattern nor a text that compiles. -/
def Unfit (name : String) (param : Param) : Prop :=
  if name ∈ ["in", "notin"] then
    (∀ items, param ≠ .list items) ∧ ∀ text, param ≠ .text text
  else if name ∈ ["contains", "notcontains"] then
    (∀ pattern, param ≠ .pattern pattern) ∧
      ∃ refusal, Pattern.compile param.toText = .error refusal
  else if name = "regex" then
    (∀ pattern, param ≠ .pattern pattern) ∧
      ∀ source, param = .text source → ∃ refusal, Pattern.compile source = .error refusal
  else False

theorem sourceProblem?_isSome_iff (source : String) :
    (sourceProblem? source).isSome = true ↔
      ∃ refusal, Pattern.compile source = .error refusal := by
  unfold sourceProblem?
  cases Pattern.compile source <;> simp

theorem membershipProblem?_isSome_iff (param : Param) :
    (membershipProblem? param).isSome = true ↔
      (∀ items, param ≠ .list items) ∧ ∀ text, param ≠ .text text := by
  cases param <;> simp [membershipProblem?]

theorem searchProblem?_isSome_iff (param : Param) :
    (searchProblem? param).isSome = true ↔ (∀ pattern, param ≠ .pattern pattern) ∧
      ∃ refusal, Pattern.compile param.toText = .error refusal := by
  cases param <;> simp [searchProblem?, sourceProblem?_isSome_iff]

theorem patternProblem?_isSome_iff (param : Param) :
    (patternProblem? param).isSome = true ↔ (∀ pattern, param ≠ .pattern pattern) ∧
      ∀ source, param = .text source → ∃ refusal, Pattern.compile source = .error refusal := by
  cases param <;> simp [patternProblem?, sourceProblem?_isSome_iff]

theorem problem?_isSome_iff (name : String) (param : Param) :
    (problem? name param).isSome = true ↔ Unfit name param := by
  unfold problem? Unfit
  split_ifs
  · exact membershipProblem?_isSome_iff param
  · exact searchProblem?_isSome_iff param
  · exact patternProblem?_isSome_iff param
  · simp [noProblem]

variable {rule : Rule}

/-- Rules of the catalog find the same faults in the same parameters, whatever the field. -/
theorem check_eq_error_iff (hrule : rule ∈ catalog) {first second : Context}
    (hparams : first.params = second.params) (fault : Fault) :
    rule.check first = .error fault ↔ rule.check second = .error fault := by
  have hdemands := demandsOf_of_mem_catalog rule hrule
  rw [← faultIn?_eq_some_iff, ← faultIn?_eq_some_iff, hdemands first, hdemands second, hparams]

theorem check_eq_missingArgument_iff (hrule : rule ∈ catalog) (context : Context) :
    rule.check context =
        .error (.missingArgument rule.name (context.params.length + 1)) ↔
      context.params.length < requiredParams rule.name := by
  rw [← faultIn?_eq_some_iff, demandsOf_of_mem_catalog rule hrule context, faultOf?]
  split
  · rename_i hfew
    simp [hfew]
  · rename_i henough
    simp only [henough, iff_false]
    intro hproblem
    obtain ⟨problem, _, hother⟩ := Option.map_eq_some_iff.mp hproblem
    cases hother

theorem check_eq_invalidArgument_iff (hrule : rule ∈ catalog) (context : Context) :
    (∃ problem, rule.check context = .error (.invalidArgument rule.name problem)) ↔
      requiredParams rule.name ≤ context.params.length ∧
        ∃ first, context.params.head? = some first ∧ Unfit rule.name first := by
  simp only [← problem?_isSome_iff, ← faultIn?_eq_some_iff,
    demandsOf_of_mem_catalog rule hrule context, faultOf?]
  split
  · rename_i hfew
    simp [Nat.not_le.mpr hfew]
  · rename_i henough
    rw [iff_true_intro (Nat.le_of_not_lt henough), true_and]
    cases context.params.head? with
    | none => simp
    | some first => simp [Option.isSome_iff_exists]

/-- Rules of the catalog find no other faults than these. -/
theorem fault_of_check (hrule : rule ∈ catalog) {context : Context} {fault : Fault}
    (h : rule.check context = .error fault) :
    fault = .missingArgument rule.name (context.params.length + 1) ∨
      ∃ problem, fault = .invalidArgument rule.name problem := by
  rw [← faultIn?_eq_some_iff, demandsOf_of_mem_catalog rule hrule context, faultOf?] at h
  split at h
  · exact Or.inl (Option.some.inj h).symm
  · obtain ⟨problem, _, rfl⟩ := Option.map_eq_some_iff.mp h
    exact Or.inr ⟨problem, rfl⟩

end Rule

end FormRules
