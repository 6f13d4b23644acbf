/-
What a pass returns.

A pass that is not abandoned has one of four results.  Which one it is depends on whether a rule
faults, how many verdicts were given up, and whether an instance fails; the state of the engine and
the store of failures agree with it.
-/
import FormRules.Proofs.Pass.Failing
import Mathlib.Data.Set.Card

namespace FormRules

variable {Host : Type}

namespace Engine

/-- No instance faults. -/
def Sound (engine : Engine Host) (host : Host) : Prop :=
  ∀ index fault, ¬ engine.FaultsAt host index fault

theorem Sound.not_exists {engine : Engine Host} {host : Host} (h : engine.Sound host) :
    ¬ ∃ index fault, engine.FaultsAt host index fault :=
  fun ⟨index, fault, hfault⟩ => h index fault hfault

theorem SoundBelow.sound {engine : Engine Host} {host : Host}
    (h : engine.SoundBelow host engine.rules.size) : engine.Sound host :=
  fun index fault hfault => h index hfault.lt_size fault hfault

/-- When nothing is awaited any more, the count of dropped verdicts is the number of instances
whose verdict was given up. -/
theorem Ledger.ncard_dropped {engine : Engine Host} {host : Host} {count : Nat} {pass : Pass Host}
    (h : engine.Ledger host count pass) (hawaited : pass.awaited = []) :
    {index | pass.journal.Concluded index .dropped}.ncard = pass.dropped := by
  let given := pass.journal.takings.filter fun entry => !entry.2.isAnswered
  have htakings : (pass.journal.takings.map Prod.fst).Nodup := by
    have hnodup := h.taken_or_awaited.nodup_iff.mpr h.calls_fst_nodup
    exact (List.nodup_append.mp hnodup).1
  have hnodup : (given.map Prod.fst).Nodup :=
    htakings.sublist (List.filter_sublist.map Prod.fst)
  have hset : {index | pass.journal.Concluded index .dropped} =
      ((given.map Prod.fst).toFinset : Set Nat) := by
    ext index
    rw [Set.mem_ofPred_eq, ← h.taken_iff_concluded hawaited, Finset.mem_coe, List.mem_toFinset,
      List.mem_map]
    constructor
    · intro hmem
      exact ⟨(index, .dropped), List.mem_filter.mpr ⟨hmem, rfl⟩, rfl⟩
    · rintro ⟨⟨_, reply⟩, hmem, rfl⟩
      obtain ⟨htaken, hdropped⟩ := List.mem_filter.mp hmem
      cases reply with
      | answered outcome => simp [Reply.isAnswered] at hdropped
      | dropped => exact htaken
  rw [hset, Set.ncard_coe_finset, List.toFinset_card_of_nodup hnodup, List.length_map,
    h.dropped_eq, List.countP_eq_length_filter]

/-- What holds of a pass that is not abandoned, by the four ways in which it can end. -/
inductive Settled (engine : Engine Host) (host : Host) (pass : Pass Host) : Ending → Prop
  | faulted {fault : Fault} (faults : ∃ index, engine.FaultsAt host index fault)
      (state : pass.state = .idle) : Settled engine host pass (.faulted fault)
  | passed (sound : engine.Sound host)
      (all : ∀ index < engine.rules.size, pass.journal.Reported index)
      (none : {index | pass.journal.Concluded index .dropped}.ncard = 0)
      (fine : ¬ ∃ index, engine.FailsIn host pass.journal index)
      (state : pass.state = .completed .passed)
      (short : pass.errors.short.entries = []) (full : pass.errors.full.entries = []) :
      Settled engine host pass (.returned .passed)
  | failed (sound : engine.Sound host)
      (all : ∀ index < engine.rules.size, pass.journal.Reported index)
      (none : {index | pass.journal.Concluded index .dropped}.ncard = 0)
      (fails : ∃ index, engine.FailsIn host pass.journal index)
      (state : pass.state = .completed .failed)
      (short : pass.errors.short.entries ≠ []) (full : pass.errors.full.entries ≠ []) :
      Settled engine host pass (.returned .failed)
  | incomplete {pending : Nat} (sound : engine.Sound host)
      (lacks : ¬ ∀ index < engine.rules.size, pass.journal.Reported index)
      (some : 1 ≤ pending)
      (dropped : {index | pass.journal.Concluded index .dropped}.ncard = pending)
      (state : pass.state = .running) :
      Settled engine host pass (.returned (.incomplete pending))

/-- A pass in which every instance has reported passes or fails as its store of failures is empty
or not. -/
theorem settled_of_finished {engine : Engine Host} {host : Host} {prior : Pass Host}
    (after : Host) (hsound : engine.Sound host)
    (hrunning : engine.Running host engine.rules.size prior)
    (hfinished : prior.reported = engine.rules.size) :
    engine.Settled host (prior.ended after)
      (.returned (.ofConclusion (conclusionOf prior.errors))) := by
  obtain ⟨_, hdropped, hawaited⟩ := hrunning.all_reported hfinished
  have hviews : prior.journal.calls = (prior.ended after).journal.calls ∧
      prior.journal.replies = (prior.ended after).journal.replies := by
    simp [Pass.ended]
  have hall : ∀ index < engine.rules.size, (prior.ended after).journal.Reported index := by
    intro index hindex
    have hreported := hrunning.reported_of_finished hfinished hindex
    simpa [Pass.ended, Journal.Reported, Journal.Concluded] using hreported
  have hnone := hrunning.ledger.ncard_dropped hawaited
  obtain ⟨hshort, hfull⟩ := hrunning.ledger.entries_eq_nil_iff hawaited
  simp only [FailsIn, Journal.Concluded, hviews, hdropped] at hnone hshort hfull
  by_cases hempty : prior.errors.short.entries = []
  · have hpassed : conclusionOf prior.errors = .passed := by
      simp [conclusionOf, ErrorStore.isEmpty, MessageMap.isEmpty, hempty]
    have hfine := hshort.mp hempty
    rw [hpassed]
    refine .passed hsound hall hnone hfine ?_ hempty (hfull.mpr hfine)
    rw [← hpassed]
    rfl
  · have hfailed : conclusionOf prior.errors = .failed := by
      simp [conclusionOf, ErrorStore.isEmpty, MessageMap.isEmpty, hempty]
    have hfails := not_imp_not.mpr hshort.mpr hempty
    rw [hfailed]
    refine .failed hsound hall hnone (not_not.mp hfails) ?_ hempty (not_imp_not.mpr hfull.mp hfails)
    rw [← hfailed]
    rfl

theorem Fate.settled {engine : Engine Host} {host : Host} {pass : Pass Host} {ending : Ending}
    (h : engine.Fate host pass ending) (hreturns : ending ≠ .abandoned) :
    engine.Settled host pass ending := by
  cases h with
  | @faulted index _ faults sound running => exact .faulted ⟨index, faults⟩ rfl
  | completed after sound running finished =>
      exact settled_of_finished after sound.sound running finished
  | incomplete sound running unfinished settled =>
      have hpos := running.dropped_pos unfinished settled
      refine .incomplete sound.sound ?_ hpos (running.ledger.ncard_dropped settled) running.state_eq
      intro hall
      obtain ⟨index, hdropped⟩ := running.ledger.exists_dropped_of_pos hpos
      have hindex := (running.ledger.not_registered_of_concluded hdropped).2
      exact running.ledger.not_reported_of_dropped hdropped (hall index hindex)
  | abandoned sound running waiting silent => exact absurd rfl hreturns

/-- What a pass that is not abandoned returns, and what the engine then shows.  The pass is passed
or failed if no rule faults and every instance has reported, as an instance fails or not.  It is
incomplete if no rule faults and verdicts have been given up, and tells their number.  It ends with
a fault if a rule faults. -/
theorem result_of_exec (engine : Engine Host) (turns : List (Turn Host)) (host : Host)
    (hreturns : (engine.exec turns host).ending ≠ .abandoned) :
    let report := engine.exec turns host
    let errors := report.engine.errors
    let allReported := ∀ index < engine.rules.size, report.journal.Reported index
    let fails := ∃ index, engine.FailsIn host report.journal index
    let dropped := {index | report.journal.Concluded index .dropped}.ncard
    (report.ending = .returned .passed ↔ engine.Sound host ∧ allReported ∧ ¬ fails) ∧
    (report.ending = .returned .passed → report.engine.state = .completed .passed ∧
      errors.short.entries = [] ∧ errors.full.entries = []) ∧
    (report.ending = .returned .failed ↔ engine.Sound host ∧ allReported ∧ fails) ∧
    (report.ending = .returned .failed → report.engine.state = .completed .failed ∧
      errors.short.entries ≠ [] ∧ errors.full.entries ≠ []) ∧
    (∀ pending, report.ending = .returned (.incomplete pending) ↔
      engine.Sound host ∧ 1 ≤ pending ∧ dropped = pending) ∧
    (∀ pending, report.ending = .returned (.incomplete pending) →
      report.engine.state = .running) ∧
    ((∃ fault, report.ending = .faulted fault) ↔ ∃ index fault, engine.FaultsAt host index fault) ∧
    ((∃ fault, report.ending = .faulted fault) → report.engine.state = .idle) := by
  intro report errors allReported fails dropped
  obtain ⟨pass, hfate, hjournal, hengine⟩ := engine.exec_fate turns host
  have hsettled : engine.Settled host pass report.ending := hfate.settled hreturns
  have herrors : errors = pass.errors := by simp only [errors, report, hengine]
  have hstate : report.engine.state = pass.state := by simp only [report, hengine]
  simp only [allReported, fails, dropped, herrors, hstate, report, hjournal]
  have hzero : ∀ pending, ¬ (1 ≤ pending ∧ 0 = pending) := by omega
  simp only [report] at hsettled
  generalize (engine.exec turns host).ending = ending at hsettled
  cases hsettled with
  | faulted faults state =>
      obtain ⟨index, faults⟩ := faults
      have hunsound : ¬ engine.Sound host := fun hsound => hsound index _ faults
      have hexists : ∃ index fault, engine.FaultsAt host index fault := ⟨index, _, faults⟩
      simp [hunsound, hexists, state]
  | passed sound all none fine state short full =>
      simp [sound, iff_true_intro all, none, fine, state, short, full, sound.not_exists, hzero]
  | failed sound all none fails state short full =>
      simp [sound, iff_true_intro all, none, fails, state, short, full, sound.not_exists, hzero]
  | @incomplete pending sound lacks some dropped state =>
      have hsame : ∀ other, 1 ≤ other ∧ pending = other ↔ pending = other := by omega
      simp [sound, lacks, dropped, state, sound.not_exists, hsame]

/-- A custom rule that rejects one field and gives its verdict on any other up: within its call if
it is prompt, else it says nothing. -/
def nameRule (prompt : Bool) : CustomRule Unit := fun input ticket _ =>
  let reply : Reply := if input.field = "name" then .answered .fail else .dropped
  ((), if prompt then [(ticket, reply)] else [])

/-- A custom rule that leaves its verdict open, in a host that keeps the tickets to be answered. -/
def keepTicket : CustomRule (List Ticket) := fun _ ticket kept => (kept ++ [ticket], [])

/-- A form with two fields and a custom rule on both. -/
def twoVerdicts (prompt : Bool) : Engine Unit :=
  (new (fun _ => Fields.empty.toSource) {} .empty).edit
    (.extend ["name", "code"] (nameRule prompt) (some "taken"))

/-- When one verdict is given up the pass is incomplete, and tells that one verdict is missing. -/
theorem result_of_twoVerdicts :
    let report := (twoVerdicts true).exec [] ()
    report.ending ≠ .abandoned ∧ report.ending = .returned (.incomplete 1) ∧
      report.engine.state = .running ∧
      {index | report.journal.Concluded index .dropped}.ncard = 1 := by
  have hending : ((twoVerdicts true).exec [] ()).ending = .returned (.incomplete 1) := by rfl
  have hreturns : ((twoVerdicts true).exec [] ()).ending ≠ .abandoned := by
    rw [hending]
    simp
  obtain ⟨_, _, _, _, hincomplete, hrunning, _⟩ := result_of_exec (twoVerdicts true) [] () hreturns
  exact ⟨hreturns, hending, hrunning 1 hending, ((hincomplete 1).mp hending).2.2⟩

end Engine

end FormRules
