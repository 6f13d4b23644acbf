/-
Faults come from the configuration.

Whether a rule of the catalog finds a fault, and which, is told by its parameters.  So forms with
the same built-in rules end with the same fault or with none, whatever their sources show.
-/
import FormRules.Proofs.Pass.SameForm
import FormRules.Proofs.Rule.Faults

namespace FormRules

variable {Host Other : Type}

namespace Engine

/-- No field is optional. -/
def Requiring (engine : Engine Host) : Prop :=
  ∀ field, engine.rules.required? field ≠ some false

/-- Where no field is optional no instance is left out. -/
theorem Requiring.isSkipped_eq {engine : Engine Host} (h : engine.Requiring) (field : String)
    (value : Option Value) : engine.isSkipped field value = false := by
  simp [isSkipped, h field]

namespace SameForm

variable {first : Engine Host} {second : Engine Other}

/-- A fault in the parameters of a built-in rule shows wherever the rule is decided. -/
theorem faultsAt_of_faultsAt (h : first.SameForm second) (hbuiltin : second.registry = .builtin)
    (hrequiring : second.Requiring) {host : Host} {other : Other} {index : Nat} {fault : Fault}
    (hfault : first.FaultsAt host index fault) : second.FaultsAt other index fault := by
  obtain ⟨inst, name, params, hinst, htask, hfound⟩ := hfault
  rcases h.instance_cases index with
    ⟨hfirst, _⟩ | ⟨field, name', params', message, hfirst, hsecond⟩ | ⟨_, _, _, _, hfirst, _⟩
  · cases hinst.symm.trans hfirst
  · obtain rfl := Option.some.inj (hinst.symm.trans hfirst)
    cases htask
    refine ⟨_, name, params, hsecond, rfl, ?_⟩
    rw [h.registry_eq] at hfound
    rcases hfound with hunknown | ⟨rule, hlookup, _, hcheck⟩
    · exact Or.inl hunknown
    · have hmem := Registry.mem_of_mem_ofList (hbuiltin ▸ Registry.mem_of_lookup hlookup)
      refine Or.inr ⟨rule, hlookup, hrequiring.isSkipped_eq _ _, ?_⟩
      refine (Rule.check_eq_error_iff hmem ?_ fault).mp hcheck
      rfl
  · obtain rfl := Option.some.inj (hinst.symm.trans hfirst)
    cases htask

end SameForm

/-- Forms with the same built-in rules and without optional fields end with the same fault, or both
return. -/
theorem SameForm.same_fault {first : Engine Host} {second : Engine Other}
    (h : first.SameForm second) (hbuiltin : first.registry = .builtin)
    (honly : first.rules.OnlyRegistered) (hrequiring : first.Requiring)
    (turns : List (Turn Host)) (host : Host) (turns' : List (Turn Other)) (other : Other) :
    (∃ fault, (first.exec turns host).ending = .faulted fault ∧
      (second.exec turns' other).ending = .faulted fault) ∨
    ∃ state state', (first.exec turns host).ending = .returned state ∧
      (second.exec turns' other).ending = .returned state' := by
  have honly' : second.rules.OnlyRegistered := h.onlyRegistered honly
  have hrequiring' : second.Requiring := by
    simpa only [Requiring, RuleSet.required?, h.overrides_eq] using hrequiring
  have hsame : ∀ index fault, first.FaultsAt host index fault ↔
      second.FaultsAt other index fault := fun index fault =>
    ⟨h.faultsAt_of_faultsAt (h.registry_eq ▸ hbuiltin) hrequiring',
      h.symm.faultsAt_of_faultsAt hbuiltin hrequiring⟩
  obtain ⟨_, _, _, _, hfaulted | ⟨hending, hending'⟩⟩ :=
    exec_alike_of_onlyRegistered h.size_eq honly honly' hsame turns turns'
  · exact Or.inl hfaulted
  · exact Or.inr ⟨_, _, hending, hending'⟩

/-- Faults come from the configuration.  In two contexts with the same parameters a rule of the
catalog finds the same fault or none.  It finds the one after the parameters given to be missing
exactly if it requires more than are given, the parameters to be invalid exactly if enough are
given and the first is unfit, and nothing else.  So passes over the same built-in rules, none of
them on an optional field, end with the same fault or both return, whatever the sources of values
show. -/
theorem fault_of_params :
    (∀ rule ∈ Rule.catalog, ∀ first second : Context, first.params = second.params →
      ∀ fault, rule.check first = .error fault ↔ rule.check second = .error fault) ∧
    (∀ rule ∈ Rule.catalog, ∀ context : Context,
      let given := context.params.length
      let required := Rule.requiredParams rule.name
      (rule.check context = .error (.missingArgument rule.name (given + 1)) ↔
        given < required) ∧
      ((∃ problem, rule.check context = .error (.invalidArgument rule.name problem)) ↔
        required ≤ given ∧
          ∃ param, context.params.head? = some param ∧ Rule.Unfit rule.name param) ∧
      ∀ fault, rule.check context = .error fault →
        fault = .missingArgument rule.name (given + 1) ∨
          ∃ problem, fault = .invalidArgument rule.name problem) ∧
    ∀ (Host Other : Type) (first : Engine Host) (second : Engine Other), first.SameForm second →
      first.registry = .builtin → first.rules.OnlyRegistered → first.Requiring →
      ∀ turns host turns' other,
        (∃ fault, (first.exec turns host).ending = .faulted fault ∧
          (second.exec turns' other).ending = .faulted fault) ∨
        ∃ state state', (first.exec turns host).ending = .returned state ∧
          (second.exec turns' other).ending = .returned state' := by
  refine ⟨?_, ?_, ?_⟩
  · intro rule hrule first second hparams fault
    exact Rule.check_eq_error_iff hrule hparams fault
  · intro rule hrule context
    exact ⟨Rule.check_eq_missingArgument_iff hrule context,
      Rule.check_eq_invalidArgument_iff hrule context, fun _ => Rule.fault_of_check hrule⟩
  · intro Host Other first second h hbuiltin honly hrequiring turns host turns' other
    exact h.same_fault hbuiltin honly hrequiring turns host turns' other

/-- A form that asks for an age between one number and a second one that is missing. -/
def oneBound (fields : Fields) : Engine Unit :=
  (new (fun _ => fields.toSource) {} .builtin).edit (.attach ["age"] "between" [.text "18"])

/-- The missing bound is a fault with an age as without one. -/
theorem fault_of_oneBound :
    let aged : Fields := ⟨[("age", .text "21")], []⟩
    let context : Context := ⟨"age", none, [.text "18"], none, some (.text "21"), .none⟩
    Rule.between.check context = .error (.missingArgument "between" 2) ∧
    (oneBound .empty).SameForm (oneBound aged) ∧ (oneBound .empty).rules.OnlyRegistered ∧
    (oneBound .empty).Requiring ∧
    ((oneBound .empty).exec [] ()).ending = .faulted (.missingArgument "between" 2) ∧
    ((oneBound aged).exec [] ()).ending = .faulted (.missingArgument "between" 2) := by
  intro aged context
  obtain ⟨_, hcheck, hexec⟩ := fault_of_params
  have hmissing : Rule.between.check context = .error (.missingArgument "between" 2) :=
    (hcheck _ (by simp [Rule.catalog]) context).1.mpr (by decide)
  have hform : (oneBound .empty).SameForm (oneBound aged) := ⟨rfl, rfl, rfl, rfl, rfl⟩
  have honly : (oneBound .empty).rules.OnlyRegistered := by
    intro inst hinst
    obtain rfl := List.mem_singleton.mp hinst
    exact ⟨_, _, rfl⟩
  have hrequiring : (oneBound .empty).Requiring := by
    intro field
    simp [oneBound, new, edit, RuleSet.apply, RuleSet.empty, RuleSet.required?]
  have hempty : ((oneBound .empty).exec [] ()).ending =
      .faulted (.missingArgument "between" 2) := by decide +kernel
  refine ⟨hmissing, hform, honly, hrequiring, hempty, ?_⟩
  rcases hexec _ _ _ _ hform rfl honly hrequiring [] () [] () with
    ⟨fault, hfault, hfault'⟩ | ⟨state, _, hstate, _⟩
  · rw [hfault', ← hfault, hempty]
  · cases hempty.symm.trans hstate

end Engine

end FormRules
