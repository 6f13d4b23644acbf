/-
The scope of a form only renames its fields.

An engine with a scope asks its source for qualified names.  When these show what the bare names
show to an engine without a scope, passes over registered rules come to the same failures.
-/
import FormRules.Proofs.Pass.Registered
import FormRules.Proofs.Pass.SameForm
import FormRules.Proofs.Rule.Scope
import FormRules.Proofs.Store.Order

namespace FormRules

variable {Host Other : Type}

/-- A source shows under the qualified names of a scope what another one shows under bare names. -/
structure Source.ShowsUnder (first : Source) (scope : String) (second : Source) : Prop where
  value_eq : ∀ field, first.value (qualify (some scope) field) = second.value field
  isChecked_eq : ∀ field, first.isChecked (qualify (some scope) field) = second.isChecked field

/-- The fields with the same values and checked controls under the qualified names of a scope. -/
def Fields.within (fields : Fields) (scope : String) : Fields :=
  ⟨fields.values.map fun entry => (qualify (some scope) entry.1, entry.2),
    fields.checked.map (qualify (some scope))⟩

/-- No two names of one scope are qualified alike. -/
theorem Fields.showsUnder_within (fields : Fields) (scope : String) :
    (fields.within scope).toSource.ShowsUnder scope fields.toSource := by
  have hsame : ∀ a b, qualify (some scope) a = qualify (some scope) b ↔ a = b :=
    fun a b => ⟨qualify_injective, congrArg _⟩
  refine ⟨fun field => ?_, fun field => ?_⟩
  · simp [toSource, value?, within, List.find?_map, Function.comp_def, Bool.beq_eq_decide_eq, hsame]
  · simp [toSource, isChecked, within, hsame]

namespace Engine

/-- The engine with a scope in place of its own. -/
def within (engine : Engine Host) (scope : String) : Engine Host :=
  { engine with settings := { engine.settings with scope := some scope } }

/-- An engine with a scope and an engine without one for the same form of built-in rules, or of
others that do not look at the scope, over hosts that show the same. -/
structure Scoped (scope : String) (first : Engine Host) (second : Engine Other) (host : Host)
    (other : Other) : Prop where
  form : first.SameForm (second.within scope)
  bare : second.settings.scope = none
  rules : ∀ rule ∈ second.registry.rules, rule ∈ Rule.catalog ∨ rule.IgnoresScope
  shows : (first.source host).ShowsUnder scope (second.source other)

namespace Scoped

variable {scope : String} {first : Engine Host} {second : Engine Other} {host : Host}
  {other : Other}

theorem scope_eq (h : Scoped scope first second host other) :
    first.settings.scope = some scope := by
  rw [h.form.settings_eq]
  rfl

/-- A combined field reads each of its sources under the qualified name. -/
theorem view_value_eq (h : Scoped scope first second host other) :
    (first.view host).value = (second.view other).value := by
  have hlookup : (first.view host).lookup = (second.view other).lookup := by
    funext field
    simp only [FieldView.lookup, view, h.scope_eq, h.bare, qualify_none, h.shows.value_eq]
  have hcombined : (first.view host).combined = (second.view other).combined :=
    h.form.combined_eq
  funext field
  simp only [FieldView.value, FieldView.sourceValues, hlookup, hcombined]

theorem contextOf_alike (h : Scoped scope first second host other) (inst : RuleInstance Host)
    (like : RuleInstance Other) (hfield : inst.field = like.field)
    (hmessage : inst.message = like.message) (params : List Param) :
    (first.contextOf host inst params).Alike (second.contextOf other like params) where
  field_eq := hfield
  params_eq := rfl
  message_eq := hmessage
  value_eq := by
    simp only [contextOf, value, h.view_value_eq, hfield]
  others_eq := h.view_value_eq
  isChecked_eq := by
    simp only [contextOf, Context.isChecked, FieldView.toSurroundings, view, h.scope_eq, h.bare,
      qualify_none, h.shows.isChecked_eq, hfield]

theorem ignoresScope (h : Scoped scope first second host other) {name : String} {rule : Rule}
    (hlookup : second.registry.lookup name = .ok rule) : rule.IgnoresScope := by
  rcases h.rules rule (Registry.mem_of_lookup hlookup) with hmem | hignores
  · exact Rule.ignoresScope_of_mem_catalog rule hmem
  · exact hignores

/-- Registered rules decide alike with the scope and without. -/
theorem decideInstance_eq (h : Scoped scope first second host other) (inst : RuleInstance Host)
    (like : RuleInstance Other) (hfield : inst.field = like.field)
    (hmessage : inst.message = like.message) (name : String) (params : List Param) :
    first.decideInstance host inst name params = second.decideInstance other like name params := by
  have hregistry : first.registry = second.registry := h.form.registry_eq
  have hvalue : first.value host inst.field = second.value other like.field := by
    rw [value, value, h.view_value_eq, hfield]
  have hskipped : ∀ value, first.isSkipped like.field value = second.isSkipped like.field value :=
    h.form.isSkipped_eq like.field
  rw [decideInstance, decideInstance, hregistry, hvalue, hfield, hskipped]
  cases hlookup : second.registry.lookup name with
  | error fault => rfl
  | ok rule =>
      have hchecks : rule.check (first.contextOf host inst params) =
          rule.check (second.contextOf other like params) :=
        h.ignoresScope hlookup (h.contextOf_alike inst like hfield hmessage params)
      simp only [bind, Except.bind, hchecks]

theorem size_eq (h : Scoped scope first second host other) :
    first.rules.size = second.rules.size :=
  h.form.size_eq

/-- The instances at an index run the same registered rule. -/
theorem exists_instance (h : Scoped scope first second host other)
    (honly : first.rules.OnlyRegistered) {index : Nat} (hindex : index < first.rules.size) :
    ∃ field name params message,
      first.rules.instances[index]? = some ⟨field, .registered name params, message⟩ ∧
      second.rules.instances[index]? = some ⟨field, .registered name params, message⟩ :=
  h.form.exists_instance honly hindex

theorem onlyRegistered (h : Scoped scope first second host other)
    (honly : first.rules.OnlyRegistered) : second.rules.OnlyRegistered :=
  h.form.onlyRegistered honly

variable {start : Host} {start' : Other}

/-- The instances at an index decide alike at their turns. -/
theorem decideInstance_atTurn_eq
    (h : Scoped scope first second (first.begin start).host (second.begin start').host)
    (honly : first.rules.OnlyRegistered) {index : Nat} (hindex : index < first.rules.size)
    (inst : RuleInstance Host) (like : RuleInstance Other) (hfield : inst.field = like.field)
    (hmessage : inst.message = like.message) (name : String) (params : List Param) :
    first.decideInstance (first.atTurn start index).host inst name params =
      second.decideInstance (second.atTurn start' index).host like name params := by
  rw [first.atTurn_host honly start hindex,
    second.atTurn_host (h.onlyRegistered honly) start' (h.size_eq ▸ hindex)]
  exact h.decideInstance_eq inst like hfield hmessage name params

theorem checkFailures_eq
    (h : Scoped scope first second (first.begin start).host (second.begin start').host)
    (honly : first.rules.OnlyRegistered) {index : Nat} (hindex : index < first.rules.size) :
    first.checkFailures start index = second.checkFailures start' index := by
  obtain ⟨field, name, params, message, hfirst, hsecond⟩ := h.exists_instance honly hindex
  have hdecide := h.decideInstance_atTurn_eq honly hindex ⟨field, .registered name params, message⟩
    ⟨field, .registered name params, message⟩ rfl rfl name params
  have hfailures : ∀ rule, first.ruleFailures ⟨field, .registered name params, message⟩ rule params =
      second.ruleFailures ⟨field, .registered name params, message⟩ rule params :=
    fun rule => h.form.ruleFailures_eq field name params message rule
  simp only [checkFailures, hfirst, hsecond, hdecide, hfailures]

theorem faultsAt_iff
    (h : Scoped scope first second (first.begin start).host (second.begin start').host)
    (honly : first.rules.OnlyRegistered) (index : Nat) (fault : Fault) :
    first.FaultsAt start index fault ↔ second.FaultsAt start' index fault := by
  by_cases hindex : index < first.rules.size
  · obtain ⟨field, name, params, message, hfirst, hsecond⟩ := h.exists_instance honly hindex
    have hdecide := h.decideInstance_atTurn_eq honly hindex
      ⟨field, .registered name params, message⟩ ⟨field, .registered name params, message⟩ rfl rfl
    rw [faultsAt_iff_decideInstance, faultsAt_iff_decideInstance]
    simp [hfirst, hsecond, hdecide]
  · constructor
    · intro hfault
      exact absurd hfault.lt_size hindex
    · intro hfault
      exact absurd (h.size_eq ▸ hfault.lt_size) hindex

/-- The first instances lead to the same failures, under their bare names and under the qualified
ones. -/
theorem errorsBelow_eq
    (h : Scoped scope first second (first.begin start).host (second.begin start').host)
    (honly : first.rules.OnlyRegistered) {count : Nat} (hcount : count ≤ first.rules.size) :
    (first.errorsBelow start count).short = (second.errorsBelow start' count).short ∧
      (first.errorsBelow start count).full =
        (second.errorsBelow start' count).short.qualified (some scope) := by
  have hfailures : (List.range count).flatMap (first.checkFailures start) =
      (List.range count).flatMap (second.checkFailures start') := by
    apply List.flatMap_congr
    intro index hindex
    exact h.checkFailures_eq honly (Nat.lt_of_lt_of_le (List.mem_range.mp hindex) hcount)
  have hshort : (first.errorsBelow start count).short = (second.errorsBelow start' count).short := by
    rw [errorsBelow, errorsBelow, ErrorStore.short_recordAll, ErrorStore.short_recordAll, hfailures]
  refine ⟨hshort, ?_⟩
  rw [← hshort, ← h.scope_eq]
  exact ErrorStore.full_recordAll_eq first.settings.scope _

/-- Both passes end alike, and have decided the same number of instances. -/
theorem ending_eq
    (h : Scoped scope first second (first.begin start).host (second.begin start').host)
    (honly : first.rules.OnlyRegistered) (turns : List (Turn Host)) (others : List (Turn Other)) :
    let left := first.exec turns start
    let right := second.exec others start'
    left.ending ≠ .abandoned ∧ left.ending = right.ending ∧
      ∃ count ≤ first.rules.size, left.engine.errors = first.errorsBelow start count ∧
        right.engine.errors = second.errorsBelow start' count := by
  intro left right
  obtain ⟨count, hcount, hleft, hright, hends⟩ := exec_alike_of_onlyRegistered h.size_eq honly
    (h.onlyRegistered honly) (h.faultsAt_iff honly) turns others
  suffices hending : left.ending ≠ .abandoned ∧ left.ending = right.ending from
    ⟨hending.1, hending.2, count, hcount, hleft, hright⟩
  rcases hends with ⟨fault, hending, hending'⟩ | ⟨hending, hending'⟩
  · exact ⟨by rw [hending]; simp, hending.trans hending'.symm⟩
  · obtain ⟨hshort, _⟩ := h.errorsBelow_eq honly hcount
    have hconclusion : conclusionOf left.engine.errors = conclusionOf right.engine.errors := by
      apply conclusionOf_congr
      rw [hleft, hright, hshort]
    exact ⟨by rw [hending]; simp, by rw [hending, hending', hconclusion]⟩

end Scoped

/-- A scope only renames fields.  Take an engine with a scope and an engine without one for the same
form of built-in rules, whose hosts show the same when the start of a pass has been announced.  Their
passes end alike, with the same result or the same fault, and announce the same events.  The failures
are the same by field name, and by qualified name they are the same with each name qualified. -/
theorem exec_of_scoped {scope : String} {first : Engine Host} {second : Engine Other} {host : Host}
    {other : Other}
    (h : Scoped scope first second (first.begin host).host (second.begin other).host)
    (honly : first.rules.OnlyRegistered) (turns : List (Turn Host)) (others : List (Turn Other)) :
    let left := first.exec turns host
    let right := second.exec others other
    left.ending ≠ .abandoned ∧ left.ending = right.ending ∧
    left.engine.state = right.engine.state ∧ left.journal.events = right.journal.events ∧
    left.engine.errors.short = right.engine.errors.short ∧
    left.engine.errors.full = right.engine.errors.short.qualified (some scope) := by
  intro left right
  obtain ⟨hreturns, hending, count, hcount, hleft, hright⟩ := h.ending_eq honly turns others
  obtain ⟨hshort, hfull⟩ := h.errorsBelow_eq honly hcount
  obtain ⟨hstate, hevents⟩ := first.state_events_exec turns host
  obtain ⟨hstate', hevents'⟩ := second.state_events_exec others other
  refine ⟨hreturns, hending, ?_, ?_, ?_, ?_⟩
  · rw [hstate, hstate']
    exact congrArg Ending.state hending
  · rw [hevents, hevents']
    exact congrArg Ending.events hending
  · rw [hleft, hright, hshort]
  · rw [hleft, hright, hfull]

/-- A form with a code that has to be changed, and the terms to be accepted. -/
def changedCode (scope : Option String) (fields : Fields) : Engine Unit :=
  let both : Combined := ⟨["old", "new"], some "", none, some "both"⟩
  let made : Engine Unit := new (fun _ => fields.toSource) ⟨scope⟩ .builtin
  (((made.edit (.combine both)).edit (.attach ["terms"] "accepted" [])).edit
    (.attach ["new"] "different" [.text "old"])).edit (.attach ["both"] "lengthmin" [.text "3"])

/-- Fields with the same code twice, and with the terms accepted. -/
def sameCode : Fields := ⟨[("old", .text "x"), ("new", .text "x")], ["terms"]⟩

/-- The other field, the control and the sources of the combined field are all found under their
qualified names. -/
theorem exec_of_sameCode :
    let first := changedCode (some "form") (sameCode.within "form")
    let second := changedCode none sameCode
    Scoped "form" first second (first.begin ()).host (second.begin ()).host ∧
    first.rules.OnlyRegistered ∧ (first.exec [] ()).ending = .returned .failed ∧
    (first.exec [] ()).engine.errors.short.names = ["new", "both", "old"] ∧
    (first.exec [] ()).engine.errors.full.names = ["form[new]", "form[both]", "form[old]"] := by
  intro first second
  have hscoped : Scoped "form" first second (first.begin ()).host (second.begin ()).host := by
    refine ⟨⟨rfl, rfl, rfl, rfl, rfl⟩, rfl, ?_, sameCode.showsUnder_within "form"⟩
    intro rule hrule
    exact Or.inl (Registry.mem_of_mem_ofList hrule)
  have honly : first.rules.OnlyRegistered := by decide +kernel
  obtain ⟨_, hending, _, _, hshort, hfull⟩ := exec_of_scoped hscoped honly [] []
  have hfailed : (second.exec [] ()).ending = .returned .failed := by decide +kernel
  have hnames : (second.exec [] ()).engine.errors.short.names = ["new", "both", "old"] := by
    decide +kernel
  refine ⟨hscoped, honly, hending.trans hfailed, ?_, ?_⟩
  · rw [hshort, hnames]
  · rw [hfull, MessageMap.names_qualified, hnames]
    rfl

end Engine

end FormRules
