/-
An instance at its turn.

The turn of an instance comes after those of all instances before it.  Whether a registered rule
faults or rejects its field depends on what the source of values shows at that moment.
-/
import FormRules.Engine.Pass

namespace FormRules

variable {Host : Type}

namespace RuleSet

/-- Whether the instance at an index runs a registered rule. -/
def isRegistered (rules : RuleSet Host) (index : Nat) : Bool :=
  match rules.instances[index]? with
  | some ⟨_, .registered _ _, _⟩ => true
  | _ => false

/-- Whether the instance at an index runs a custom rule. -/
def isCustom (rules : RuleSet Host) (index : Nat) : Bool :=
  match rules.instances[index]? with
  | some ⟨_, .custom _, _⟩ => true
  | _ => false

theorem isRegistered_iff (rules : RuleSet Host) (index : Nat) :
    rules.isRegistered index = true ↔
      ∃ inst name params, rules.instances[index]? = some inst ∧
        inst.task = .registered name params := by
  unfold isRegistered
  split
  · rename_i field name params message heq
    simp [heq]
  · rename_i hnone
    simp only [Bool.false_eq_true, false_iff, not_exists, not_and]
    rintro ⟨field, task, message⟩ name params hinst rfl
    exact hnone field name params message hinst

theorem isCustom_iff (rules : RuleSet Host) (index : Nat) :
    rules.isCustom index = true ↔
      ∃ inst rule, rules.instances[index]? = some inst ∧ inst.task = .custom rule := by
  unfold isCustom
  split
  · rename_i field rule message heq
    simp [heq]
  · rename_i hnone
    simp only [Bool.false_eq_true, false_iff, not_exists, not_and]
    rintro ⟨field, task, message⟩ rule hinst rfl
    exact hnone field rule message hinst

theorem lt_size_of_isRegistered (rules : RuleSet Host) {index : Nat}
    (h : rules.isRegistered index = true) : index < rules.size := by
  obtain ⟨inst, _, _, hinst, _⟩ := (rules.isRegistered_iff index).mp h
  exact (List.getElem?_eq_some_iff.mp hinst).1

theorem lt_size_of_isCustom (rules : RuleSet Host) {index : Nat}
    (h : rules.isCustom index = true) : index < rules.size := by
  obtain ⟨inst, _, hinst, _⟩ := (rules.isCustom_iff index).mp h
  exact (List.getElem?_eq_some_iff.mp hinst).1

/-- Every instance runs either a registered rule or a custom one. -/
theorem isCustom_eq_not_isRegistered (rules : RuleSet Host) {index : Nat}
    (hindex : index < rules.size) : rules.isCustom index = !rules.isRegistered index := by
  have hinst : rules.instances[index]? = some rules.instances[index] :=
    List.getElem?_eq_getElem hindex
  unfold isCustom isRegistered
  rw [hinst]
  rcases rules.instances[index] with ⟨field, task, message⟩
  cases task <;> rfl

end RuleSet

namespace Engine

theorem walk_append (engine : Engine Host) (index : Nat) (first rest : List (RuleInstance Host))
    (pass : Pass Host) :
    engine.walk index (first ++ rest) pass =
      match engine.walk index first pass with
      | (next, none) => engine.walk (index + first.length) rest next
      | (stopped, some fault) => (stopped, some fault) := by
  induction first generalizing index pass with
  | nil => simp [walk]
  | cons inst first ih =>
      simp only [List.cons_append, walk]
      cases engine.run index inst pass with
      | ok next =>
          simp only [ih, List.length_cons]
          rw [Nat.add_right_comm, Nat.add_assoc]
      | error fault => rfl

/-- The pass when the turn of the instance at an index comes. -/
def atTurn (engine : Engine Host) (host : Host) (index : Nat) : Pass Host :=
  (engine.walk 0 (engine.rules.instances.take index) (engine.begin host)).1

/-- After the last instance nothing changes any more. -/
theorem atTurn_of_size_le (engine : Engine Host) (host : Host) {index : Nat}
    (hindex : engine.rules.size ≤ index) :
    engine.atTurn host index = engine.atTurn host engine.rules.size := by
  have htake : engine.rules.instances.take index =
      engine.rules.instances.take engine.rules.size :=
    (List.take_of_length_le hindex).trans (List.take_of_length_le (Nat.le_refl _)).symm
  rw [atTurn, atTurn, htake]

/-- A walk that has come to an instance goes on with that instance. -/
theorem walk_take_succ (engine : Engine Host) (host : Host) {index : Nat}
    {inst : RuleInstance Host} (hinst : engine.rules.instances[index]? = some inst)
    (hwalk : engine.walk 0 (engine.rules.instances.take index) (engine.begin host) =
      (engine.atTurn host index, none)) :
    engine.walk 0 (engine.rules.instances.take (index + 1)) (engine.begin host) =
      match engine.run index inst (engine.atTurn host index) with
      | .ok next => (next, none)
      | .error fault => ({ engine.atTurn host index with state := .idle }, some fault) := by
  have hindex : index < engine.rules.instances.length :=
    (List.getElem?_eq_some_iff.mp hinst).1
  rw [List.take_add_one, hinst, walk_append, hwalk]
  have hlength : (engine.rules.instances.take index).length = index :=
    List.length_take_of_le (Nat.le_of_lt hindex)
  cases hrun : engine.run index inst (engine.atTurn host index) <;>
    simp [walk, hlength, hrun]

theorem decideInstance_eq_error_iff (engine : Engine Host) (host : Host)
    (inst : RuleInstance Host) (name : String) (params : List Param) (fault : Fault) :
    engine.decideInstance host inst name params = .error fault ↔
      engine.registry.lookup name = .error fault ∨
      ∃ rule, engine.registry.lookup name = .ok rule ∧
        engine.isSkipped inst.field (engine.value host inst.field) = false ∧
        rule.check (engine.contextOf host inst params) = .error fault := by
  unfold decideInstance
  cases engine.registry.lookup name with
  | error other => simp [bind, Except.bind]
  | ok rule =>
      cases engine.isSkipped inst.field (engine.value host inst.field) with
      | true => simp [bind, Except.bind, pure, Except.pure]
      | false =>
          cases hcheck : rule.check (engine.contextOf host inst params) <;>
            simp [bind, Except.bind, pure, Except.pure, hcheck]

theorem decideInstance_eq_rejected_iff (engine : Engine Host) (host : Host)
    (inst : RuleInstance Host) (name : String) (params : List Param) (rule : Rule) :
    engine.decideInstance host inst name params = .ok (false, rule) ↔
      engine.registry.lookup name = .ok rule ∧
        engine.isSkipped inst.field (engine.value host inst.field) = false ∧
        rule.check (engine.contextOf host inst params) = .ok false := by
  unfold decideInstance
  cases engine.registry.lookup name with
  | error other => simp [bind, Except.bind]
  | ok found =>
      cases engine.isSkipped inst.field (engine.value host inst.field) with
      | true => simp [bind, Except.bind, pure, Except.pure]
      | false =>
          cases hcheck : found.check (engine.contextOf host inst params) with
          | error other =>
              simp only [bind, Except.bind, pure, Except.pure, hcheck]
              grind
          | ok passed =>
              simp only [bind, Except.bind, pure, Except.pure, hcheck]
              grind

/-- The instance at an index runs a registered rule that faults at its turn: its name is unknown,
or its check finds a fault. -/
def FaultsAt (engine : Engine Host) (host : Host) (index : Nat) (fault : Fault) : Prop :=
  ∃ inst name params, engine.rules.instances[index]? = some inst ∧
    inst.task = .registered name params ∧
    let shown := (engine.atTurn host index).host
    engine.registry.lookup name = .error fault ∨
      ∃ rule, engine.registry.lookup name = .ok rule ∧
        engine.isSkipped inst.field (engine.value shown inst.field) = false ∧
        rule.check (engine.contextOf shown inst params) = .error fault

theorem faultsAt_iff_decideInstance (engine : Engine Host) (host : Host) (index : Nat)
    (fault : Fault) :
    engine.FaultsAt host index fault ↔
      ∃ inst name params, engine.rules.instances[index]? = some inst ∧
        inst.task = .registered name params ∧
        engine.decideInstance (engine.atTurn host index).host inst name params =
          .error fault := by
  simp only [decideInstance_eq_error_iff]
  rfl

/-- The instance at an index runs a registered rule that rejects its field at its turn.  An
optional field left empty is not rejected. -/
def RejectsAt (engine : Engine Host) (host : Host) (index : Nat) : Prop :=
  ∃ inst name params, engine.rules.instances[index]? = some inst ∧
    inst.task = .registered name params ∧
    let shown := (engine.atTurn host index).host
    ∃ rule, engine.registry.lookup name = .ok rule ∧
      engine.isSkipped inst.field (engine.value shown inst.field) = false ∧
      rule.check (engine.contextOf shown inst params) = .ok false

/-- The failures that the instance at an index leads to when its registered rule decides it. -/
def checkFailures (engine : Engine Host) (host : Host) (index : Nat) : List (String × String) :=
  match engine.rules.instances[index]? with
  | some inst =>
      match inst.task with
      | .registered name params =>
          match engine.decideInstance (engine.atTurn host index).host inst name params with
          | .ok (false, rule) => engine.ruleFailures inst rule params
          | _ => []
      | .custom _ => []
  | none => []

theorem ruleFailures_ne_nil (engine : Engine Host) (inst : RuleInstance Host) (rule : Rule)
    (params : List Param) : engine.ruleFailures inst rule params ≠ [] := by
  simp [ruleFailures, markedFields]

/-- A registered rule leads to failures exactly if it rejects its field. -/
theorem checkFailures_ne_nil_iff (engine : Engine Host) (host : Host) (index : Nat) :
    engine.checkFailures host index ≠ [] ↔ engine.RejectsAt host index := by
  constructor
  · intro hne
    unfold checkFailures at hne
    split at hne
    · rename_i inst hinst
      split at hne
      · rename_i name params htask
        split at hne
        · rename_i rule hdecide
          exact ⟨inst, name, params, hinst, htask, rule,
            (engine.decideInstance_eq_rejected_iff _ _ _ _ _).mp hdecide⟩
        · exact absurd rfl hne
      · exact absurd rfl hne
    · exact absurd rfl hne
  · rintro ⟨inst, name, params, hinst, htask, rule, hrejects⟩
    have hdecide := (engine.decideInstance_eq_rejected_iff _ inst name params rule).mpr hrejects
    simp only [checkFailures, hinst, htask, hdecide]
    exact engine.ruleFailures_ne_nil inst rule params

theorem run_of_faultsAt (engine : Engine Host) (host : Host) {index : Nat}
    {inst : RuleInstance Host} {fault : Fault}
    (hinst : engine.rules.instances[index]? = some inst) (h : engine.FaultsAt host index fault) :
    engine.run index inst (engine.atTurn host index) = .error fault := by
  obtain ⟨other, name, params, hother, htask, hfaults⟩ := h
  obtain rfl : inst = other := Option.some.inj (hinst.symm.trans hother)
  have hdecide := (engine.decideInstance_eq_error_iff _ inst name params fault).mpr hfaults
  simp [run, htask, runRegistered, hdecide, bind, Except.bind]

theorem run_of_registered (engine : Engine Host) (host : Host) {index : Nat}
    {inst : RuleInstance Host} {name : String} {params : List Param}
    (hinst : engine.rules.instances[index]? = some inst)
    (htask : inst.task = .registered name params)
    (hsound : ∀ fault, ¬ engine.FaultsAt host index fault) :
    engine.run index inst (engine.atTurn host index) =
      .ok (engine.report (engine.recordAll (engine.checkFailures host index)
        ((engine.atTurn host index).note (.checked index)))) := by
  simp only [run, htask, runRegistered, checkFailures, hinst]
  cases hdecide : engine.decideInstance (engine.atTurn host index).host inst name params with
  | error fault =>
      exact absurd ⟨inst, name, params, hinst, htask,
        (engine.decideInstance_eq_error_iff _ _ _ _ _).mp hdecide⟩ (hsound fault)
  | ok decision =>
      obtain ⟨passed, rule⟩ := decision
      cases passed <;> rfl

theorem run_of_custom (engine : Engine Host) (index : Nat) {inst : RuleInstance Host}
    {rule : CustomRule Host} (htask : inst.task = .custom rule) (pass : Pass Host) :
    engine.run index inst pass = .ok (engine.runCustom index inst rule pass) := by
  simp [run, htask]

end Engine

end FormRules
