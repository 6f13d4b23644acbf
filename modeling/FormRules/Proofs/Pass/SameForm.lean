/-
Engines for the same form.

Two engines for the same form agree in everything but their custom rules, their listeners and what
earlier passes have left.  As long as their sources show the same, registered rules decide alike in
both.
-/
import FormRules.Proofs.Pass.Registered

namespace FormRules

variable {Host Other : Type}

/-- All of an instance but its custom rule. -/
def RuleInstance.outline (inst : RuleInstance Host) :
    String × Option String × Option (String × List Param) :=
  (inst.field, inst.message, match inst.task with
    | .registered name params => some (name, params)
    | .custom _ => none)

namespace Engine

/-- Engines with the same settings and combined fields show the same where their sources do. -/
theorem view_congr {first : Engine Host} {second : Engine Other}
    (hsettings : first.settings = second.settings)
    (hcombined : first.rules.combined = second.rules.combined) {host : Host} {other : Other}
    (hsource : first.source host = second.source other) : first.view host = second.view other := by
  rw [view, view, hsource, hcombined, hsettings]

/-- Custom rules are called with the same input where the sources show the same. -/
theorem customInput_congr {first : Engine Host} {second : Engine Other}
    (hsettings : first.settings = second.settings)
    (hcombined : first.rules.combined = second.rules.combined) {host : Host} {other : Other}
    (hsource : first.source host = second.source other) (field : String) :
    first.customInput host field = second.customInput other field := by
  rw [customInput, customInput, value, value, view_congr hsettings hcombined hsource, hsettings,
    hsource]

theorem isSkipped_congr {first : Engine Host} {second : Engine Other}
    (hoverrides : first.rules.overrides = second.rules.overrides) (field : String)
    (value : Option Value) : first.isSkipped field value = second.isSkipped field value := by
  rw [isSkipped, isSkipped, RuleSet.required?, RuleSet.required?, hoverrides]

/-- Two engines for the same form. -/
structure SameForm (first : Engine Host) (second : Engine Other) : Prop where
  settings_eq : first.settings = second.settings
  registry_eq : first.registry = second.registry
  overrides_eq : first.rules.overrides = second.rules.overrides
  combined_eq : first.rules.combined = second.rules.combined
  outlines_eq : first.rules.instances.map RuleInstance.outline =
    second.rules.instances.map RuleInstance.outline

namespace SameForm

variable {first : Engine Host} {second : Engine Other}

theorem symm (h : first.SameForm second) : second.SameForm first :=
  ⟨h.settings_eq.symm, h.registry_eq.symm, h.overrides_eq.symm, h.combined_eq.symm,
    h.outlines_eq.symm⟩

theorem size_eq (h : first.SameForm second) : first.rules.size = second.rules.size := by
  have hlength := congrArg List.length h.outlines_eq
  rw [List.length_map, List.length_map] at hlength
  exact hlength

/-- The instances at an index are the same registered rule, or two custom rules on one field. -/
theorem instance_cases (h : first.SameForm second) (index : Nat) :
    (first.rules.instances[index]? = none ∧ second.rules.instances[index]? = none) ∨
    (∃ field name params message,
      first.rules.instances[index]? = some ⟨field, .registered name params, message⟩ ∧
      second.rules.instances[index]? = some ⟨field, .registered name params, message⟩) ∨
    ∃ field rule other message,
      first.rules.instances[index]? = some ⟨field, .custom rule, message⟩ ∧
      second.rules.instances[index]? = some ⟨field, .custom other, message⟩ := by
  have houtline : (first.rules.instances[index]?).map RuleInstance.outline =
      (second.rules.instances[index]?).map RuleInstance.outline := by
    rw [← List.getElem?_map, ← List.getElem?_map, h.outlines_eq]
  cases hfirst : first.rules.instances[index]? with
  | none =>
      rw [hfirst] at houtline
      exact Or.inl ⟨rfl, Option.map_eq_none_iff.mp houtline.symm⟩
  | some inst =>
      rw [hfirst] at houtline
      obtain ⟨⟨otherField, otherTask, otherMessage⟩, hsecond, heq⟩ :=
        Option.map_eq_some_iff.mp houtline.symm
      rcases inst with ⟨field, task, message⟩
      simp only [RuleInstance.outline, Prod.mk.injEq] at heq
      obtain ⟨rfl, rfl, htask⟩ := heq
      cases task with
      | registered name params =>
          cases otherTask with
          | registered otherName otherParams =>
              injection htask with htask
              injection htask with hname hparams
              subst hname hparams
              exact Or.inr (Or.inl ⟨_, _, _, _, rfl, hsecond⟩)
          | custom other => cases htask
      | custom rule =>
          cases otherTask with
          | registered otherName otherParams => cases htask
          | custom other => exact Or.inr (Or.inr ⟨_, _, other, _, rfl, hsecond⟩)

/-- Without custom rules the instances at an index run the same registered rule. -/
theorem exists_instance (h : first.SameForm second) (honly : first.rules.OnlyRegistered)
    {index : Nat} (hindex : index < first.rules.size) :
    ∃ field name params message,
      first.rules.instances[index]? = some ⟨field, .registered name params, message⟩ ∧
      second.rules.instances[index]? = some ⟨field, .registered name params, message⟩ := by
  rcases h.instance_cases index with ⟨hnone, _⟩ | hregistered | ⟨_, rule, _, _, hinst, _⟩
  · exact absurd hindex (Nat.not_lt.mpr (List.getElem?_eq_none_iff.mp hnone))
  · exact hregistered
  · obtain ⟨name, params, htask⟩ := honly _ (List.mem_of_getElem? hinst)
    cases htask

theorem onlyRegistered (h : first.SameForm second) (honly : first.rules.OnlyRegistered) :
    second.rules.OnlyRegistered := by
  intro inst hinst
  obtain ⟨index, hindex, rfl⟩ := List.mem_iff_getElem.mp hinst
  have hfirst : index < first.rules.size := by
    rw [h.size_eq]
    exact hindex
  obtain ⟨field, name, params, message, _, hsecond⟩ := h.exists_instance honly hfirst
  rw [List.getElem?_eq_getElem hindex] at hsecond
  exact ⟨name, params, congrArg RuleInstance.task (Option.some.inj hsecond)⟩

theorem isRegistered_eq (h : first.SameForm second) (index : Nat) :
    first.rules.isRegistered index = second.rules.isRegistered index := by
  rcases h.instance_cases index with
    ⟨hfirst, hsecond⟩ | ⟨_, _, _, _, hfirst, hsecond⟩ | ⟨_, _, _, _, hfirst, hsecond⟩ <;>
    simp [RuleSet.isRegistered, hfirst, hsecond]

theorem isCustom_eq (h : first.SameForm second) (index : Nat) :
    first.rules.isCustom index = second.rules.isCustom index := by
  rcases h.instance_cases index with
    ⟨hfirst, hsecond⟩ | ⟨_, _, _, _, hfirst, hsecond⟩ | ⟨_, _, _, _, hfirst, hsecond⟩ <;>
    simp [RuleSet.isCustom, hfirst, hsecond]

theorem markedFields_eq (h : first.SameForm second) (field : String) :
    first.markedFields field = second.markedFields field := by
  rw [markedFields, markedFields, h.combined_eq]

theorem ruleFailures_eq (h : first.SameForm second) (field name : String) (params : List Param)
    (message : Option String) (rule : Rule) :
    first.ruleFailures ⟨field, .registered name params, message⟩ rule params =
      second.ruleFailures ⟨field, .registered name params, message⟩ rule params := by
  simp only [ruleFailures, h.markedFields_eq, failureMessage]

theorem writes_eq (h : first.SameForm second) (index : Nat) :
    first.writes index = second.writes index := by
  rcases h.instance_cases index with
    ⟨hfirst, hsecond⟩ | ⟨_, _, _, _, hfirst, hsecond⟩ | ⟨_, _, _, _, hfirst, hsecond⟩ <;>
    simp [writes, hfirst, hsecond, h.markedFields_eq]

theorem verdictFailures_eq (h : first.SameForm second) (index : Nat) (reply : Reply) :
    first.verdictFailures index reply = second.verdictFailures index reply := by
  rcases h.instance_cases index with
    ⟨hfirst, hsecond⟩ | ⟨_, _, _, _, hfirst, hsecond⟩ | ⟨_, _, _, _, hfirst, hsecond⟩ <;>
    rcases reply with ⟨_ | _⟩ | _ <;>
    simp [verdictFailures, hfirst, hsecond]

theorem view_eq (h : first.SameForm second) {host : Host} {other : Other}
    (hsource : first.source host = second.source other) :
    first.view host = second.view other :=
  view_congr h.settings_eq h.combined_eq hsource

theorem value_eq (h : first.SameForm second) {host : Host} {other : Other}
    (hsource : first.source host = second.source other) (field : String) :
    first.value host field = second.value other field := by
  rw [value, value, h.view_eq hsource]

theorem customInput_eq (h : first.SameForm second) {host : Host} {other : Other}
    (hsource : first.source host = second.source other) (field : String) :
    first.customInput host field = second.customInput other field :=
  customInput_congr h.settings_eq h.combined_eq hsource field

theorem isSkipped_eq (h : first.SameForm second) (field : String) (value : Option Value) :
    first.isSkipped field value = second.isSkipped field value :=
  isSkipped_congr h.overrides_eq field value

/-- Registered rules decide alike where the sources show the same. -/
theorem decideInstance_eq (h : first.SameForm second) {host : Host} {other : Other}
    (hsource : first.source host = second.source other) (field name : String)
    (params : List Param) (message : Option String) :
    first.decideInstance host ⟨field, .registered name params, message⟩ name params =
      second.decideInstance other ⟨field, .registered name params, message⟩ name params := by
  have hview := h.view_eq hsource
  have hvalue := h.value_eq hsource field
  have hcontext : first.contextOf host ⟨field, .registered name params, message⟩ params =
      second.contextOf other ⟨field, .registered name params, message⟩ params := by
    simp only [contextOf, h.settings_eq, hvalue, hview]
  rw [decideInstance, decideInstance, h.registry_eq]
  simp only [hvalue, h.isSkipped_eq, hcontext]

variable {host : Host} {other : Other} {index : Nat}

theorem faultsAt_iff (h : first.SameForm second)
    (hsource : first.source (first.atTurn host index).host =
      second.source (second.atTurn other index).host) (fault : Fault) :
    first.FaultsAt host index fault ↔ second.FaultsAt other index fault := by
  rw [faultsAt_iff_decideInstance, faultsAt_iff_decideInstance]
  rcases h.instance_cases index with
    ⟨hfirst, hsecond⟩ | ⟨_, _, _, _, hfirst, hsecond⟩ | ⟨_, _, _, _, hfirst, hsecond⟩
  · simp [hfirst, hsecond]
  · simp [hfirst, hsecond, h.decideInstance_eq hsource]
  · simp [hfirst, hsecond]

theorem checkFailures_eq (h : first.SameForm second)
    (hsource : first.source (first.atTurn host index).host =
      second.source (second.atTurn other index).host) :
    first.checkFailures host index = second.checkFailures other index := by
  rcases h.instance_cases index with
    ⟨hfirst, hsecond⟩ | ⟨field, name, params, message, hfirst, hsecond⟩ |
      ⟨_, _, _, _, hfirst, hsecond⟩
  · simp [checkFailures, hfirst, hsecond]
  · simp only [checkFailures, hfirst, hsecond, h.decideInstance_eq hsource, h.ruleFailures_eq]
  · simp [checkFailures, hfirst, hsecond]

theorem rejectsAt_iff (h : first.SameForm second)
    (hsource : first.source (first.atTurn host index).host =
      second.source (second.atTurn other index).host) :
    first.RejectsAt host index ↔ second.RejectsAt other index := by
  rw [← checkFailures_ne_nil_iff, ← checkFailures_ne_nil_iff, h.checkFailures_eq hsource]

theorem failuresAt_eq (h : first.SameForm second)
    (hsource : first.source (first.atTurn host index).host =
      second.source (second.atTurn other index).host) :
    first.failuresAt host index = second.failuresAt other index := by
  rw [failuresAt, failuresAt, h.isRegistered_eq, h.checkFailures_eq hsource, h.verdictFailures_eq]

end SameForm

end Engine

end FormRules
