/-
Passes that a fault aborts.

A faulting instance ends the pass at its turn.  What is left are the failures of those instances
before it that have reported at their own turns; verdicts that have been left open count for
nothing, even if they have been concluded meanwhile.
-/
import FormRules.Proofs.Pass.Result
import FormRules.Proofs.Pass.Stale

namespace FormRules

variable {Host : Type}

namespace Engine

/-- The reply that the custom rule at an index gives to its own ticket within its call. -/
def replyInCall? (engine : Engine Host) (host : Host) (index : Nat) : Option Reply :=
  match engine.rules.instances[index]? with
  | some ⟨field, .custom rule, message⟩ =>
      let replies := (engine.callOf index ⟨field, .custom rule, message⟩ rule
        (engine.atTurn host index).host).2
      (replies.find? fun entry => entry.1 == engine.ticketOf index).map Prod.snd
  | _ => none

/-- The failures that an instance reports at its own turn: those of a registered rule, or of a
custom rule that rejects within its call. -/
def turnFailures (engine : Engine Host) (host : Host) (index : Nat) : List (String × String) :=
  match engine.replyInCall? host index with
  | some reply => engine.verdictFailures index reply
  | none => engine.checkFailures host index

theorem fire_records (engine : Engine Host) (event : Event) (pass : Pass Host) :
    (engine.fire event pass).journal.records = pass.journal.records := by
  obtain ⟨_, _, hfire, _⟩ := engine.exists_fire event pass
  rw [hfire]
  simp

theorem concludeIfDone_records (engine : Engine Host) (pass : Pass Host) :
    (engine.concludeIfDone pass).journal.records = pass.journal.records := by
  unfold concludeIfDone
  split
  · rw [fire_records, fire_records]
  · rfl

theorem conclude_records (engine : Engine Host) (index : Nat) (reply : Reply)
    (pass : Pass Host) :
    (engine.conclude index reply pass).journal.records =
      pass.journal.records ++ engine.verdictFailures index reply := by
  cases reply with
  | answered outcome =>
      have hreport := engine.concludeIfDone_records
        { engine.recordAll (engine.verdictFailures index (.answered outcome))
            (pass.note (.taken index (.answered outcome))) with
          reported := pass.reported + 1 }
      refine hreport.trans ?_
      simp [recordAll, Pass.note]
  | dropped => simp [conclude, recordAll, Pass.note]

theorem turnFailures_of_registered (engine : Engine Host) (host : Host) {index : Nat}
    {inst : RuleInstance Host} {name : String} {params : List Param}
    (hinst : engine.rules.instances[index]? = some inst)
    (htask : inst.task = .registered name params) :
    engine.turnFailures host index = engine.checkFailures host index := by
  rcases inst with ⟨field, task, message⟩
  obtain rfl : task = .registered name params := htask
  simp [turnFailures, replyInCall?, hinst]

/-- The call of a custom rule records a failure only if it rejects its field in that call. -/
theorem runCustom_records (engine : Engine Host) (host : Host) {index : Nat} {field : String}
    {rule : CustomRule Host} {message : Option String}
    (hinst : engine.rules.instances[index]? = some ⟨field, .custom rule, message⟩)
    (hrunning : engine.Running host index (engine.atTurn host index)) :
    (engine.runCustom index ⟨field, .custom rule, message⟩ rule
        (engine.atTurn host index)).journal.records =
      (engine.atTurn host index).journal.records ++ engine.turnFailures host index := by
  let pass := engine.atTurn host index
  let called := engine.call index field rule pass
  have hreply : called.reply? pass.issued = engine.replyInCall? host index := by
    have hticket : pass.issued = engine.ticketOf index := hrunning.ledger.issued_eq_ticketOf
    rw [hrunning.reply?_call field rule, hticket]
    simp only [replyInCall?, hinst]
    rfl
  have hcalled : called.journal.records = pass.journal.records := by
    obtain ⟨_, hcall, _⟩ := engine.exists_call index field rule pass
    have hcall : called = _ := hcall
    rw [hcall]
    simp [Pass.note]
  have hrun : engine.runCustom index ⟨field, .custom rule, message⟩ rule pass =
      engine.settle index pass.issued called := rfl
  rw [hrun, turnFailures, ← hreply]
  cases hsaid : called.reply? pass.issued with
  | some reply => rw [engine.settle_of_some index hsaid, conclude_records, hcalled]
  | none =>
      rw [engine.settle_of_none index hsaid]
      simp [checkFailures, hinst, hcalled, pass]

/-- At its turn an instance records the failures that it reports then. -/
theorem run_records (engine : Engine Host) (host : Host) {index : Nat} {inst : RuleInstance Host}
    (hinst : engine.rules.instances[index]? = some inst)
    (hrunning : engine.Running host index (engine.atTurn host index)) {next : Pass Host}
    (hrun : engine.run index inst (engine.atTurn host index) = .ok next) :
    next.journal.records =
      (engine.atTurn host index).journal.records ++ engine.turnFailures host index := by
  rcases inst with ⟨field, task, message⟩
  cases task with
  | registered name params =>
      have hsound : ∀ fault, ¬ engine.FaultsAt host index fault := by
        intro fault hfault
        rw [engine.run_of_faultsAt host hinst hfault] at hrun
        cases hrun
      rw [engine.run_of_registered host hinst rfl hsound] at hrun
      injection hrun with hnext
      rw [← hnext, engine.turnFailures_of_registered host hinst rfl, report,
        concludeIfDone_records]
      simp [recordAll, Pass.note]
  | custom rule =>
      rw [engine.run_of_custom index rfl] at hrun
      injection hrun with hnext
      rw [← hnext]
      exact engine.runCustom_records host hinst hrunning

/-- When the turn of an instance comes, what has been recorded is what the instances before it have
reported at their turns, in their order. -/
theorem records_atTurn (engine : Engine Host) (host : Host) {count : Nat}
    (hcount : count ≤ engine.rules.size) (hsound : engine.SoundBelow host count) :
    (engine.atTurn host count).journal.records =
      (List.range count).flatMap (engine.turnFailures host) := by
  induction count with
  | zero =>
      have hbegin : (engine.atTurn host 0).journal.records = [] := by
        refine (engine.fire_records .started _).trans ?_
        rfl
      rw [hbegin]
      rfl
  | succ count ih =>
      have hbelow : engine.SoundBelow host count := fun earlier hearlier =>
        hsound earlier (Nat.lt_succ_of_lt hearlier)
      have hinst : engine.rules.instances[count]? = some engine.rules.instances[count] :=
        List.getElem?_eq_getElem hcount
      rcases engine.atTurn_succ_cases host hinst with
        ⟨hrunning, hrun⟩ | ⟨⟨earlier, hearlier, fault, hfault⟩, _⟩
      · rw [engine.run_records host hinst hrunning hrun, ih (Nat.le_of_lt hcount) hbelow,
          List.range_succ, List.flatMap_append, List.flatMap_singleton]
      · exact absurd hfault (hsound earlier (Nat.lt_succ_of_le hearlier) fault)

/-- A pass over a form in which an instance faults.  It ends with the fault of the first instance
that does.  Before that the custom rules before it have been called, once each and in order, and
nothing after it has run.  The pass has announced its start only, and leaves the engine idle, with
those failures that the instances before it have reported at their turns.  In the further life of
the engine replies to the tickets of this pass change nothing. -/
theorem abort_of_faultsAt (engine : Engine Host) (turns : List (Turn Host)) (host : Host)
    {index : Nat} {fault : Fault} (hfault : engine.FaultsAt host index fault) :
    let report := engine.exec turns host
    (∃ first fault, engine.FaultsAt host first fault ∧ engine.SoundBelow host first ∧
      report.ending = .faulted fault ∧
      report.journal.calls.map Prod.fst = (List.range first).filter engine.rules.isCustom ∧
      report.journal.checks = (List.range first).filter engine.rules.isRegistered ∧
      report.journal.events = [.started] ∧ report.engine.state = .idle ∧
      report.engine.errors = ErrorStore.empty.recordAll engine.settings.scope
        ((List.range first).flatMap (engine.turnFailures host))) ∧
    ∀ later, report.engine.Becomes later → ∀ turns host,
      let lost ticket := (report.journal.calls.map Prod.snd).contains ticket
      let loud := later.exec turns host
      let quiet := (later.mute lost).exec (turns.map (muteTurn lost)) host
      quiet.ending = loud.ending ∧ quiet.journal = loud.journal ∧ quiet.host = loud.host ∧
        quiet.engine.errors = loud.engine.errors ∧ quiet.engine.state = loud.engine.state := by
  intro report
  constructor
  · obtain ⟨pass, hfate, hjournal, hengine⟩ := engine.exec_fate turns host
    obtain ⟨first, found, hfirst, hsound, hrunning, hpass, hending⟩ := hfate.of_faultsAt hfault
    have hrecords := engine.records_atTurn host (Nat.le_of_lt hfirst.lt_size) hsound
    refine ⟨first, found, hfirst, hsound, hending, ?_⟩
    simp only [report, hjournal, hengine, hpass]
    exact ⟨hrunning.ledger.calls_eq, hrunning.ledger.checks_eq, hrunning.events_eq, trivial,
      by rw [hrunning.ledger.errors_eq, hrecords]⟩
  · intro later hlater turns' host'
    apply later.exec_mute
    intro ticket hticket
    have hcalled : ticket ∈ report.journal.calls.map Prod.snd := by
      simpa using hticket
    exact Nat.lt_of_lt_of_le (engine.lt_issued_of_called turns host hcalled) hlater.issued_le

/-- A form with a custom rule on one field, and on another field a rule that is not registered. -/
def unknownAfterName : Engine Unit :=
  ((new (fun _ => Fields.empty.toSource) {} .empty).edit
    (.extend ["name"] (nameRule true) (some "taken"))).edit (.attach ["code"] "nope" [])

/-- The unknown rule aborts the pass, which the custom rule has rejected before. -/
theorem abort_of_unknownAfterName :
    unknownAfterName.FaultsAt () 1 (.unknownRule "nope") ∧
      ∃ first fault, unknownAfterName.FaultsAt () first fault ∧
        (unknownAfterName.exec [] ()).ending = .faulted fault ∧
        (unknownAfterName.exec [] ()).journal.events = [.started] := by
  have hfault : unknownAfterName.FaultsAt () 1 (.unknownRule "nope") :=
    ⟨⟨"code", .registered "nope" [], none⟩, "nope", [], rfl, rfl, Or.inl rfl⟩
  obtain ⟨⟨first, fault, hfirst, _, hending, _, _, hevents, _⟩, _⟩ :=
    abort_of_faultsAt unknownAfterName [] () hfault
  exact ⟨hfault, first, fault, hfirst, hending, hevents⟩

end Engine

end FormRules
