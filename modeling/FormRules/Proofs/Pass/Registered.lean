/-
Passes over registered rules only.

Without custom rules nothing is awaited, and the host has no turn between the announcement of the
start and the last report.  So every instance is decided on what the source of values shows when the
start has been announced.
-/
import FormRules.Proofs.Pass.Result

namespace FormRules

variable {Host : Type}

/-- Every instance runs a registered rule. -/
def RuleSet.OnlyRegistered (rules : RuleSet Host) : Prop :=
  ∀ inst ∈ rules.instances, ∃ name params, inst.task = .registered name params

theorem RuleSet.onlyRegistered_iff (rules : RuleSet Host) :
    rules.OnlyRegistered ↔ ∀ inst ∈ rules.instances, inst.ruleName?.isSome = true := by
  have hone : ∀ inst : RuleInstance Host,
      (∃ name params, inst.task = .registered name params) ↔ inst.ruleName?.isSome = true := by
    rintro ⟨field, task, message⟩
    cases task <;> simp [RuleInstance.ruleName?]
  simp only [OnlyRegistered, hone]

instance (rules : RuleSet Host) : Decidable rules.OnlyRegistered :=
  decidable_of_iff' _ rules.onlyRegistered_iff

theorem RuleSet.OnlyRegistered.isRegistered {rules : RuleSet Host} (h : rules.OnlyRegistered)
    {index : Nat} (hindex : index < rules.size) : rules.isRegistered index = true := by
  have hinst : rules.instances[index]? = some rules.instances[index] :=
    List.getElem?_eq_getElem hindex
  obtain ⟨name, params, htask⟩ := h _ (List.mem_of_getElem? hinst)
  exact (rules.isRegistered_iff index).mpr ⟨_, name, params, hinst, htask⟩

namespace Engine

/-- The store of failures after the first instances have been decided by their registered rules. -/
def errorsBelow (engine : Engine Host) (host : Host) (count : Nat) : ErrorStore :=
  ErrorStore.empty.recordAll engine.settings.scope
    ((List.range count).flatMap (engine.checkFailures host))

/-- Without taken conclusions only checks lead to failures. -/
theorem flatMap_failuresOf_of_takings (engine : Engine Host) (host : Host) {journal : Journal}
    (h : journal.takings = []) :
    journal.flatMap (engine.failuresOf host) =
      journal.checks.flatMap (engine.checkFailures host) := by
  induction journal with
  | nil => rfl
  | cons entry rest ih =>
      cases entry with
      | taken index reply => simp at h
      | checked index => simpa [failuresOf] using ih (by simpa using h)
      | fired | called | heard | recorded => simpa [failuresOf] using ih (by simpa using h)

namespace Ledger

variable {engine : Engine Host} {host : Host} {count : Nat} {pass : Pass Host}

/-- Without custom rules nothing has been called. -/
theorem calls_eq_nil (h : engine.Ledger host count pass) (honly : engine.rules.OnlyRegistered) :
    pass.journal.calls = [] := by
  rw [← List.map_eq_nil_iff (f := Prod.fst), h.calls_eq, List.filter_eq_nil_iff]
  intro index hindex
  have hlt := Nat.lt_of_lt_of_le (List.mem_range.mp hindex) h.count_le
  simp [engine.rules.isCustom_eq_not_isRegistered hlt, honly.isRegistered hlt]

theorem awaited_eq_nil (h : engine.Ledger host count pass) (honly : engine.rules.OnlyRegistered) :
    pass.awaited = [] := by
  apply List.eq_nil_iff_forall_not_mem.mpr
  intro entry hentry
  have hcall := h.awaited_called entry hentry
  rw [h.calls_eq_nil honly] at hcall
  exact List.not_mem_nil hcall

theorem dropped_eq_zero (h : engine.Ledger host count pass)
    (honly : engine.rules.OnlyRegistered) : pass.dropped = 0 := by
  by_contra hne
  obtain ⟨index, ticket, hcall, _⟩ := h.exists_dropped_of_pos (Nat.pos_of_ne_zero hne)
  rw [h.calls_eq_nil honly] at hcall
  exact List.not_mem_nil hcall

/-- What has been recorded is told by the instances that have had their turn. -/
theorem records_eq_flatMap (h : engine.Ledger host count pass)
    (honly : engine.rules.OnlyRegistered) :
    pass.journal.records = (List.range count).flatMap (engine.checkFailures host) := by
  have htakings : pass.journal.takings = [] := by
    have hperm := h.taken_or_awaited
    rw [h.calls_eq_nil honly, List.map_nil, List.perm_nil] at hperm
    exact List.map_eq_nil_iff.mp (List.append_eq_nil_iff.mp hperm).1
  have hall : (List.range count).filter engine.rules.isRegistered = List.range count := by
    apply List.filter_eq_self.mpr
    intro index hindex
    exact honly.isRegistered (Nat.lt_of_lt_of_le (List.mem_range.mp hindex) h.count_le)
  rw [h.records_eq, engine.flatMap_failuresOf_of_takings host htakings, h.checks_eq, hall]

end Ledger

/-- A pass over registered rules completes, or ends with the fault of the first instance that
faults.  It has recorded the failures of the instances before its end. -/
theorem exec_cases_of_onlyRegistered (engine : Engine Host) (honly : engine.rules.OnlyRegistered)
    (turns : List (Turn Host)) (host : Host) :
    let report := engine.exec turns host
    (engine.Sound host ∧
      report.journal.records =
        (List.range engine.rules.size).flatMap (engine.checkFailures host) ∧
      report.ending = .returned (.ofConclusion (conclusionOf report.engine.errors))) ∨
    ∃ first fault, engine.FaultsAt host first fault ∧ engine.SoundBelow host first ∧
      report.journal.records = (List.range first).flatMap (engine.checkFailures host) ∧
      report.ending = .faulted fault := by
  intro report
  obtain ⟨pass, hfate, hjournal, hengine⟩ := engine.exec_fate turns host
  have herrors : report.engine.errors = pass.errors := by simp only [report, hengine]
  have hrecords : report.journal.records = pass.journal.records := by simp only [report, hjournal]
  have hfate : engine.Fate host pass report.ending := hfate
  rw [herrors, hrecords]
  generalize report.ending = ending at hfate
  cases hfate with
  | @faulted first fault faults sound running =>
      exact Or.inr ⟨first, fault, faults, sound, running.ledger.records_eq_flatMap honly, rfl⟩
  | @completed prior after sound running finished =>
      have hprior := running.ledger.records_eq_flatMap honly
      exact Or.inl ⟨sound.sound, by simpa [Pass.ended] using hprior, rfl⟩
  | incomplete sound running unfinished settled =>
      have hpos := running.dropped_pos unfinished settled
      rw [running.ledger.dropped_eq_zero honly] at hpos
      exact absurd hpos (Nat.lt_irrefl 0)
  | abandoned sound running waiting silent =>
      exact absurd (running.ledger.awaited_eq_nil honly) waiting

/-- The store of failures of a pass over registered rules is that of the instances before its
end. -/
theorem exec_of_onlyRegistered (engine : Engine Host) (honly : engine.rules.OnlyRegistered)
    (turns : List (Turn Host)) (host : Host) :
    let report := engine.exec turns host
    (engine.Sound host ∧ report.engine.errors = engine.errorsBelow host engine.rules.size ∧
      report.ending = .returned (.ofConclusion (conclusionOf report.engine.errors))) ∨
    ∃ first fault, engine.FaultsAt host first fault ∧ engine.SoundBelow host first ∧
      report.engine.errors = engine.errorsBelow host first ∧ report.ending = .faulted fault := by
  intro report
  have herrors : report.engine.errors =
      ErrorStore.empty.recordAll engine.settings.scope report.journal.records :=
    (engine.records_exec turns host).2
  rcases engine.exec_cases_of_onlyRegistered honly turns host with
    ⟨hsound, hrecords, hending⟩ | ⟨first, fault, hfault, hsound, hrecords, hending⟩
  · exact Or.inl ⟨hsound, herrors.trans (congrArg _ hrecords), hending⟩
  · exact Or.inr ⟨first, fault, hfault, hsound, herrors.trans (congrArg _ hrecords), hending⟩

/-- Two passes over registered rules whose instances fault alike come equally far: both end with the
same fault, or both complete. -/
theorem exec_alike_of_onlyRegistered {Other : Type} {first : Engine Host} {second : Engine Other}
    {host : Host} {other : Other} (hsize : first.rules.size = second.rules.size)
    (honly : first.rules.OnlyRegistered) (honly' : second.rules.OnlyRegistered)
    (hsame : ∀ index fault, first.FaultsAt host index fault ↔ second.FaultsAt other index fault)
    (turns : List (Turn Host)) (others : List (Turn Other)) :
    let left := first.exec turns host
    let right := second.exec others other
    ∃ count ≤ first.rules.size, left.engine.errors = first.errorsBelow host count ∧
      right.engine.errors = second.errorsBelow other count ∧
      ((∃ fault, left.ending = .faulted fault ∧ right.ending = .faulted fault) ∨
        left.ending = .returned (.ofConclusion (conclusionOf left.engine.errors)) ∧
          right.ending = .returned (.ofConclusion (conclusionOf right.engine.errors))) := by
  intro left right
  rcases first.exec_of_onlyRegistered honly turns host with
    ⟨hsound, hleft, hending⟩ | ⟨index, fault, hfault, hsound, hleft, hending⟩ <;>
  rcases second.exec_of_onlyRegistered honly' others other with
    ⟨hsound', hright, hending'⟩ | ⟨index', fault', hfault', hsound', hright, hending'⟩
  · exact ⟨first.rules.size, Nat.le_refl _, hleft, hsize ▸ hright, Or.inr ⟨hending, hending'⟩⟩
  · exact absurd ((hsame index' fault').mpr hfault') (hsound index' fault')
  · exact absurd ((hsame index fault).mp hfault) (hsound' index fault)
  · obtain ⟨rfl, rfl⟩ := first_fault_unique hsame hfault hsound hfault' hsound'
    exact ⟨index, Nat.le_of_lt hfault.lt_size, hleft, hright, Or.inl ⟨fault, hending, hending'⟩⟩

/-- A report that is not the last one gives the host no turn. -/
theorem report_host (engine : Engine Host) (pass : Pass Host)
    (h : pass.reported + 1 ≠ engine.rules.size) : (engine.report pass).host = pass.host := by
  have hsame : engine.report pass = { pass with reported := pass.reported + 1 } := if_neg h
  rw [hsame]

/-- Until the last instance has been decided the host has no turn but at the start. -/
theorem atTurn_host (engine : Engine Host) (honly : engine.rules.OnlyRegistered) (host : Host)
    {index : Nat} (hindex : index < engine.rules.size) :
    (engine.atTurn host index).host = (engine.begin host).host := by
  induction index with
  | zero => rfl
  | succ index ih =>
      have hlt := Nat.lt_of_succ_lt hindex
      have hinst : engine.rules.instances[index]? = some engine.rules.instances[index] :=
        List.getElem?_eq_getElem hlt
      rw [← ih hlt]
      rcases engine.atTurn_succ_cases host hinst with ⟨hrunning, hrun⟩ | ⟨_, hstopped⟩
      · obtain ⟨name, params, htask⟩ := honly _ (List.mem_of_getElem? hinst)
        have hsound : ∀ fault, ¬ engine.FaultsAt host index fault := by
          intro fault hfault
          rw [engine.run_of_faultsAt host hinst hfault] at hrun
          cases hrun
        -- Only the last report gives the host a turn, and it comes with the last instance.
        have hcounts := hrunning.ledger.counts_eq
        have hunfinished : (engine.atTurn host index).reported + 1 ≠ engine.rules.size := by omega
        rw [engine.run_of_registered host hinst htask hsound] at hrun
        injection hrun with hnext
        rw [← hnext]
        apply engine.report_host
        exact hunfinished
      · rw [hstopped]

end Engine

end FormRules
