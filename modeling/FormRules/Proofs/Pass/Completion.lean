/-
When a pass announces its end.

The end comes once every instance has reported, and the conclusion comes right after it.  As long as
a verdict is outstanding nothing but the start has been announced.
-/
import FormRules.Proofs.Pass.Fate

namespace FormRules

variable {Host : Type}

namespace Journal

/-- The instance at an index has reported: a registered rule has decided it, or its verdict has been
answered. -/
def Reported (journal : Journal) (index : Nat) : Prop :=
  index ∈ journal.checks ∨ ∃ outcome, journal.Concluded index (.answered outcome)

/-- A verdict has been handed out that the host has not concluded. -/
def Outstanding (journal : Journal) : Prop :=
  ∃ call ∈ journal.calls, ∀ reply, (call.2, reply) ∉ journal.replies

end Journal

namespace Engine

namespace Ledger

variable {engine : Engine Host} {host : Host} {count : Nat} {pass : Pass Host}

theorem not_checked_of_called (h : engine.Ledger host count pass) {index : Nat} {ticket : Ticket}
    (hcall : (index, ticket) ∈ pass.journal.calls) : index ∉ pass.journal.checks := by
  intro hcheck
  obtain ⟨hlt, hcustom⟩ := (h.mem_calls_fst_iff index).mp (List.mem_map_of_mem hcall)
  obtain ⟨_, hregistered⟩ := (h.mem_checks_iff index).mp hcheck
  have hkind := engine.rules.isCustom_eq_not_isRegistered (Nat.lt_of_lt_of_le hlt h.count_le)
  simp [hcustom, hregistered] at hkind

/-- An instance whose verdict was given up or is still open does not report. -/
theorem not_reported_of_called (h : engine.Ledger host count pass) {index : Nat} {ticket : Ticket}
    (hcall : (index, ticket) ∈ pass.journal.calls)
    (hsilent : ∀ outcome, (ticket, .answered outcome) ∉ pass.journal.replies) :
    ¬ pass.journal.Reported index := by
  rintro (hcheck | ⟨outcome, other, hother, hreply⟩)
  · exact h.not_checked_of_called hcall hcheck
  · obtain rfl := h.ticket_unique hcall hother
    exact hsilent outcome hreply

theorem not_reported_of_dropped (h : engine.Ledger host count pass) {index : Nat}
    (hdropped : pass.journal.Concluded index .dropped) : ¬ pass.journal.Reported index := by
  obtain ⟨ticket, hcall, hreply⟩ := hdropped
  apply h.not_reported_of_called hcall
  intro outcome hanswer
  cases h.reply_unique hreply hanswer

/-- An instance that has not had its turn has not reported. -/
theorem lt_of_reported (h : engine.Ledger host count pass) {index : Nat}
    (hreported : pass.journal.Reported index) : index < count := by
  rcases hreported with hcheck | ⟨outcome, ticket, hcall, _⟩
  · exact ((h.mem_checks_iff index).mp hcheck).1
  · exact ((h.mem_calls_fst_iff index).mp (List.mem_map_of_mem hcall)).1

/-- When nothing is awaited any more a conclusion has been taken over. -/
theorem taken_iff_concluded (h : engine.Ledger host count pass) (hawaited : pass.awaited = [])
    (index : Nat) (reply : Reply) :
    (index, reply) ∈ pass.journal.takings ↔ pass.journal.Concluded index reply := by
  constructor
  · exact h.taken_concluded _
  · rintro ⟨ticket, hcall, hreply⟩
    obtain ⟨taken, htaken, hheard⟩ := h.taken_of_not_awaited hcall (by simp [hawaited])
    obtain rfl := h.reply_unique hreply hheard
    exact htaken

/-- Nothing is outstanding in a pass that awaits nothing. -/
theorem not_outstanding (h : engine.Ledger host count pass) (hawaited : pass.awaited = []) :
    ¬ pass.journal.Outstanding := by
  rintro ⟨⟨index, ticket⟩, hcall, hsilent⟩
  obtain ⟨reply, _, hreply⟩ := h.taken_of_not_awaited hcall (by simp [hawaited])
  exact hsilent reply hreply

theorem exists_dropped_of_pos (h : engine.Ledger host count pass) (hpos : 0 < pass.dropped) :
    ∃ index, pass.journal.Concluded index .dropped := by
  rw [h.dropped_eq, List.countP_pos_iff] at hpos
  obtain ⟨⟨index, reply⟩, hmem, hdropped⟩ := hpos
  cases reply with
  | answered outcome => simp [Reply.isAnswered] at hdropped
  | dropped => exact ⟨index, h.taken_concluded _ hmem⟩

theorem not_dropped_of_zero (h : engine.Ledger host count pass) (hawaited : pass.awaited = [])
    (hzero : pass.dropped = 0) (index : Nat) : ¬ pass.journal.Concluded index .dropped := by
  intro hdropped
  have htaken := (h.taken_iff_concluded hawaited index .dropped).mpr hdropped
  have hpos : 0 < pass.dropped := by
    rw [h.dropped_eq, List.countP_pos_iff]
    exact ⟨_, htaken, rfl⟩
  omega

end Ledger

namespace Running

variable {engine : Engine Host} {host : Host} {count : Nat} {pass : Pass Host}

/-- When the last report has come every instance has reported. -/
theorem reported_of_finished (h : engine.Running host count pass)
    (hfinished : pass.reported = engine.rules.size) {index : Nat}
    (hindex : index < engine.rules.size) : pass.journal.Reported index := by
  obtain ⟨hcount, hdropped, hawaited⟩ := h.all_reported hfinished
  by_cases hregistered : engine.rules.isRegistered index = true
  · exact Or.inl ((h.ledger.mem_checks_iff index).mpr ⟨hcount ▸ hindex, hregistered⟩)
  · have hcustom : engine.rules.isCustom index = true := by
      rw [engine.rules.isCustom_eq_not_isRegistered hindex]
      simpa using hregistered
    obtain ⟨⟨_, ticket⟩, hcall, rfl⟩ :=
      List.mem_map.mp ((h.ledger.mem_calls_fst_iff index).mpr ⟨hcount ▸ hindex, hcustom⟩)
    obtain ⟨reply, _, hreply⟩ := h.ledger.taken_of_not_awaited hcall (by simp [hawaited])
    cases reply with
    | answered outcome => exact Or.inr ⟨outcome, ticket, hcall, hreply⟩
    | dropped =>
        exact absurd ⟨ticket, hcall, hreply⟩
          (h.ledger.not_dropped_of_zero hawaited hdropped _)

/-- A pass that awaits nothing and has not seen all reports has seen a verdict given up. -/
theorem dropped_pos (h : engine.Running host engine.rules.size pass)
    (hunfinished : pass.reported ≠ engine.rules.size) (hawaited : pass.awaited = []) :
    0 < pass.dropped := by
  have hcounts := h.ledger.counts_eq
  rw [hawaited, List.length_nil] at hcounts
  omega

theorem outstanding_of_waiting (h : engine.Running host count pass) (hwaiting : pass.awaited ≠ [])
    (hsilent : Silent pass) : ∃ index ticket, (index, ticket) ∈ pass.journal.calls ∧
      ∀ reply, (ticket, reply) ∉ pass.journal.replies := by
  obtain ⟨⟨index, ticket⟩, hmem⟩ := List.exists_mem_of_ne_nil _ hwaiting
  refine ⟨index, ticket, h.ledger.awaited_called _ hmem, ?_⟩
  intro reply hreply
  have hnone := (Pass.reply?_eq_none_iff _ _).mp (hsilent _ hmem)
  exact hnone (List.mem_map_of_mem hreply)

end Running

/-- A pass that is not complete has announced its start only, and lacks a report. -/
theorem Fate.quiet_or_completed {engine : Engine Host} {host : Host} {pass : Pass Host}
    {ending : Ending} (h : engine.Fate host pass ending) :
    (pass.journal.head? = some (.fired .started) ∧ pass.journal.events = [.started] ∧
      ∃ index < engine.rules.size, ¬ pass.journal.Reported index) ∨
    ∃ prior after, pass = Pass.ended prior after ∧
      engine.Running host engine.rules.size prior ∧ prior.reported = engine.rules.size ∧
      ending = .returned (.ofConclusion (conclusionOf prior.errors)) := by
  cases h with
  | @faulted index fault faults sound running =>
      refine Or.inl ⟨running.head_eq, running.events_eq, index, faults.lt_size, ?_⟩
      intro hreported
      exact Nat.lt_irrefl _ (running.ledger.lt_of_reported hreported)
  | completed after sound running finished =>
      exact Or.inr ⟨_, after, rfl, running, finished, rfl⟩
  | incomplete sound running unfinished settled =>
      obtain ⟨index, hdropped⟩ := running.ledger.exists_dropped_of_pos
        (running.dropped_pos unfinished settled)
      have hindex : index < engine.rules.size := by
        obtain ⟨ticket, hcall, _⟩ := hdropped
        exact ((running.ledger.mem_calls_fst_iff index).mp (List.mem_map_of_mem hcall)).1
      exact Or.inl ⟨running.head_eq, running.events_eq, index, hindex,
        running.ledger.not_reported_of_dropped hdropped⟩
  | abandoned sound running waiting silent =>
      obtain ⟨index, ticket, hcall, hnone⟩ := running.outstanding_of_waiting waiting silent
      have hindex := ((running.ledger.mem_calls_fst_iff index).mp (List.mem_map_of_mem hcall)).1
      exact Or.inl ⟨running.head_eq, running.events_eq, index, hindex,
        running.ledger.not_reported_of_called hcall fun outcome => hnone _⟩

end Engine

namespace Journal

/-- Where a completed pass announces its end. -/
theorem split_at_end {body before after : Journal} {conclusion : Event}
    (h : body ++ [.fired .ended, .fired conclusion] = before ++ .fired .ended :: after)
    (hbody : .ended ∉ body.events) (hconclusion : conclusion ≠ .ended) :
    before = body ∧ after = [.fired conclusion] := by
  have hlast : Entry.fired .ended ∉ [Entry.fired conclusion] := by
    simpa using hconclusion.symm
  have hmark : Entry.fired .ended ∉ body := fun hmem => hbody ((mem_events_iff _ _).mpr hmem)
  obtain ⟨hbefore, _, hafter⟩ := (List.append_cons_inj_of_notMem hmark hlast).mp h
  exact ⟨hbefore.symm, hafter.symm⟩

/-- As long as a verdict is outstanding in the course of a completed pass, the end has not been
announced. -/
theorem events_of_outstanding {body before after : Journal} {conclusion : Event}
    (h : body ++ [.fired .ended, .fired conclusion] = before ++ after)
    (hbody : ¬ body.Outstanding) (hbefore : before.Outstanding) :
    ∀ event ∈ before.events, event ∈ body.events := by
  rcases List.append_eq_append_iff.mp h with ⟨middle, rfl, htail⟩ | ⟨middle, rfl, _⟩
  · -- What follows the body announces events only, so a verdict is outstanding in the body already.
    have hviews : calls middle = [] ∧ replies middle = [] := by
      have hcalls := congrArg calls htail
      have hreplies := congrArg replies htail
      simp only [calls_cons, calls_nil, calls_append, replies_cons, replies_nil, replies_append,
        List.append_nil] at hcalls hreplies
      exact ⟨(List.append_eq_nil_iff.mp hcalls.symm).1,
        (List.append_eq_nil_iff.mp hreplies.symm).1⟩
    obtain ⟨call, hcall, hnone⟩ := hbefore
    apply absurd _ hbody
    refine ⟨call, by simpa [hviews.1] using hcall, fun reply hreply => hnone reply ?_⟩
    simp [hreply]
  · intro event hevent
    simp [hevent]

end Journal

namespace Engine

theorem outstanding_ended_iff (prior : Pass Host) (after : Host) :
    (prior.ended after).journal.Outstanding ↔ prior.journal.Outstanding := by
  simp [Pass.ended, Journal.Outstanding]

/-- A pass returns only when nothing is outstanding any more. -/
theorem Fate.abandoned_of_outstanding {engine : Engine Host} {host : Host} {pass : Pass Host}
    {ending : Ending} (h : engine.Fate host pass ending)
    (hfine : ∀ fault, ending ≠ .faulted fault) (houtstanding : pass.journal.Outstanding) :
    ending = .abandoned := by
  cases h with
  | faulted faults sound running => exact absurd rfl (hfine _)
  | completed after sound running finished =>
      rw [outstanding_ended_iff] at houtstanding
      exact absurd houtstanding
        (running.ledger.not_outstanding (running.all_reported finished).2.2)
  | incomplete sound running unfinished settled =>
      exact absurd houtstanding (running.ledger.not_outstanding settled)
  | abandoned sound running waiting silent => rfl

theorem event_conclusionOf (errors : ErrorStore) :
    (conclusionOf errors).event = if errors.isEmpty then .passes else .fails := by
  unfold conclusionOf
  split <;> rfl

theorem event_conclusionOf_ne (errors : ErrorStore) :
    (conclusionOf errors).event ≠ .started ∧ (conclusionOf errors).event ≠ .ended := by
  cases conclusionOf errors <;> simp [Conclusion.event]

theorem Running.events_ended {engine : Engine Host} {host : Host} {count : Nat}
    {pass : Pass Host} (h : engine.Running host count pass) (after : Host) :
    (pass.ended after).journal.events =
      [.started, .ended, (conclusionOf pass.errors).event] := by
  simp [Pass.ended, h.events_eq]

namespace Fate

variable {engine : Engine Host} {host : Host} {pass : Pass Host} {ending : Ending}

/-- The start comes first and once. -/
theorem starts (h : engine.Fate host pass ending) :
    pass.journal.head? = some (.fired .started) ∧ pass.journal.events.count .started = 1 := by
  rcases h.quiet_or_completed with ⟨hhead, hevents, _⟩ | ⟨prior, after, rfl, hrunning, _⟩
  · exact ⟨hhead, by simp [hevents]⟩
  · constructor
    · simp [Pass.ended, List.head?_append, hrunning.head_eq]
    · rw [hrunning.events_ended]
      simp [(event_conclusionOf_ne prior.errors).1]

/-- The end is announced once if every instance has reported. -/
theorem ends_of_reported (h : engine.Fate host pass ending)
    (hall : ∀ index < engine.rules.size, pass.journal.Reported index) :
    pass.journal.events.count .ended = 1 := by
  rcases h.quiet_or_completed with
    ⟨_, _, index, hindex, hlacks⟩ | ⟨prior, after, rfl, hrunning, _⟩
  · exact absurd (hall index hindex) hlacks
  · rw [hrunning.events_ended]
    simp [(event_conclusionOf_ne prior.errors).2]

/-- Any event but the start means that the pass has been completed. -/
theorem completed_of_event (h : engine.Fate host pass ending) {event : Event}
    (hevent : event ∈ pass.journal.events) (hother : event ≠ .started) :
    ∃ prior after, pass = Pass.ended prior after ∧
      engine.Running host engine.rules.size prior ∧ prior.reported = engine.rules.size ∧
      ending = .returned (.ofConclusion (conclusionOf prior.errors)) := by
  refine h.quiet_or_completed.resolve_left ?_
  rintro ⟨_, hevents, _⟩
  rw [hevents] at hevent
  exact hother (List.mem_singleton.mp hevent)

/-- The end is not announced if a verdict has been given up, nor after a fault. -/
theorem not_ended (h : engine.Fate host pass ending)
    (hlacks : (∃ index, pass.journal.Concluded index .dropped) ∨
      ∃ fault, ending = .faulted fault) : .ended ∉ pass.journal.events := by
  intro hended
  obtain ⟨prior, after, rfl, hrunning, hfinished, hending⟩ := h.completed_of_event hended (by simp)
  obtain ⟨_, hzero, hawaited⟩ := hrunning.all_reported hfinished
  rcases hlacks with ⟨index, hdropped⟩ | ⟨fault, hfault⟩
  · have hprior : prior.journal.Concluded index .dropped := by
      simpa [Pass.ended, Journal.Concluded] using hdropped
    exact hrunning.ledger.not_dropped_of_zero hawaited hzero index hprior
  · cases hending.symm.trans hfault

/-- When the end is announced every instance has reported and every conclusion has been taken over,
and only the announcement of the conclusion follows. -/
theorem at_end (h : engine.Fate host pass ending) {before after : Journal}
    (hjournal : pass.journal = before ++ .fired .ended :: after) :
    (∀ index < engine.rules.size, before.Reported index) ∧
      (∀ index reply, pass.journal.Concluded index reply → (index, reply) ∈ before.takings) ∧
      after = [.fired (conclusionOf pass.errors).event] := by
  have hended : .ended ∈ pass.journal.events := by
    rw [Journal.mem_events_iff, hjournal]
    simp
  obtain ⟨prior, last, rfl, hrunning, hfinished, _⟩ := h.completed_of_event hended (by simp)
  have hbody : .ended ∉ prior.journal.events := by
    rw [hrunning.events_eq]
    simp
  obtain ⟨rfl, rfl⟩ :=
    Journal.split_at_end hjournal hbody (event_conclusionOf_ne prior.errors).2
  refine ⟨fun index hindex => hrunning.reported_of_finished hfinished hindex, ?_, rfl⟩
  intro index reply hconcluded
  rw [hrunning.ledger.taken_iff_concluded (hrunning.all_reported hfinished).2.2]
  simpa [Pass.ended, Journal.Concluded] using hconcluded

/-- A conclusion is announced as there are failures or not, as the last thing and right after the
end. -/
theorem at_conclusion (h : engine.Fate host pass ending) {event : Event}
    (hkind : event = .passes ∨ event = .fails) (hevent : event ∈ pass.journal.events) :
    event = (conclusionOf pass.errors).event ∧
      ∃ before, pass.journal = before ++ [.fired .ended, .fired event] := by
  have hother : event ≠ .started ∧ event ≠ .ended := by
    rcases hkind with rfl | rfl <;> simp
  obtain ⟨prior, last, rfl, hrunning, _⟩ := h.completed_of_event hevent hother.1
  have hsame : event = (conclusionOf prior.errors).event := by
    rw [hrunning.events_ended] at hevent
    simpa [hother] using hevent
  exact ⟨hsame, prior.journal, hsame ▸ rfl⟩

/-- As long as a verdict is outstanding nothing but the start has been announced. -/
theorem only_started (h : engine.Fate host pass ending) {before after : Journal}
    (hjournal : pass.journal = before ++ after) (houtstanding : before.Outstanding) {event : Event}
    (hevent : event ∈ before.events) : event = .started := by
  by_contra hother
  have hlater : event ∈ pass.journal.events := by
    rw [hjournal, Journal.events_append]
    exact List.mem_append_left _ hevent
  obtain ⟨prior, last, rfl, hrunning, hfinished, _⟩ := h.completed_of_event hlater hother
  have hsettled := hrunning.ledger.not_outstanding (hrunning.all_reported hfinished).2.2
  have hearly := Journal.events_of_outstanding hjournal hsettled houtstanding event hevent
  rw [hrunning.events_eq] at hearly
  exact hother (List.mem_singleton.mp hearly)

end Fate

/-- What a pass announces.  The start comes first and once.  The end comes once if every instance
has reported, and never if a verdict has been given up or a rule faults.  When it comes every
instance has reported and every conclusion has been taken over, and after it nothing happens but
that one of the conclusions follows at once, as there are failures or not; otherwise neither
conclusion comes.  As long as a verdict is outstanding in a pass that does not fault, nothing but
the start has been announced, and the pass does not return. -/
theorem announcements_of_exec (engine : Engine Host) (turns : List (Turn Host)) (host : Host) :
    let report := engine.exec turns host
    let journal := report.journal
    let conclusion : Event := if report.engine.errors.isEmpty then .passes else .fails
    (journal.head? = some (.fired .started) ∧ journal.events.count .started = 1) ∧
    ((∀ index < engine.rules.size, journal.Reported index) → journal.events.count .ended = 1) ∧
    ((∃ index, journal.Concluded index .dropped) ∨ (∃ fault, report.ending = .faulted fault) →
      .ended ∉ journal.events) ∧
    (∀ before after : Journal, journal = before ++ .fired .ended :: after →
      (∀ index < engine.rules.size, before.Reported index) ∧
      (∀ index reply, journal.Concluded index reply → (index, reply) ∈ before.takings) ∧
      after = [.fired conclusion]) ∧
    (∀ event, event = .passes ∨ event = .fails → event ∈ journal.events →
      event = conclusion ∧ ∃ before, journal = before ++ [.fired .ended, .fired event]) ∧
    ((∀ fault, report.ending ≠ .faulted fault) →
      (∀ before after : Journal, journal = before ++ after → before.Outstanding →
        ∀ event ∈ before.events, event = .started) ∧
      (journal.Outstanding → report.ending = .abandoned)) := by
  intro report journal conclusion
  obtain ⟨pass, hfate, hjournal, hengine⟩ := engine.exec_fate turns host
  have hjournal : journal = pass.journal := hjournal
  have hconclusion : conclusion = (conclusionOf pass.errors).event := by
    rw [event_conclusionOf]
    simp only [conclusion, report, hengine]
  rw [hjournal, hconclusion]
  refine ⟨hfate.starts, hfate.ends_of_reported, hfate.not_ended, ?_, ?_, ?_⟩
  · intro before after hsplit
    exact hfate.at_end hsplit
  · intro event hkind hevent
    exact hfate.at_conclusion hkind hevent
  · intro hfine
    refine ⟨?_, hfate.abandoned_of_outstanding hfine⟩
    intro before after hsplit houtstanding event hevent
    exact hfate.only_started hsplit houtstanding hevent

end Engine

end FormRules
