/-
The course of a pass.

A pass is under way until every instance has reported.  The report that completes it announces the
end and the conclusion, and nothing happens after that.
-/
import FormRules.Proofs.Pass.Ledger

namespace FormRules

variable {Host : Type}

/-- The pass that announces its end and its conclusion, after which the host is in some state. -/
def Pass.ended (pass : Pass Host) (host : Host) : Pass Host :=
  { pass with
    host := host
    state := .completed (Engine.conclusionOf pass.errors)
    journal := pass.journal ++
      [.fired .ended, .fired (Engine.conclusionOf pass.errors).event] }

namespace Engine

/-- A pass that has announced nothing but its start. -/
structure Running (engine : Engine Host) (host : Host) (count : Nat) (pass : Pass Host) : Prop where
  ledger : engine.Ledger host count pass
  state_eq : pass.state = .running
  events_eq : pass.journal.events = [.started]
  head_eq : pass.journal.head? = some (.fired .started)

/-- A pass is under way or over.  Only a form without instances may have seen all reports and still
be under way. -/
inductive Phase (engine : Engine Host) (host : Host) (count : Nat) : Pass Host → Prop
  | underway {pass : Pass Host} (running : engine.Running host count pass)
      (unfinished : engine.rules.size ≠ 0 → pass.reported ≠ engine.rules.size) :
      Phase engine host count pass
  | ended {prior : Pass Host} (after : Host) (running : engine.Running host engine.rules.size prior)
      (finished : prior.reported = engine.rules.size) (all : count = engine.rules.size) :
      Phase engine host count (prior.ended after)

theorem running_begin (engine : Engine Host) (host : Host) :
    engine.Running host 0 (engine.begin host) := by
  let blank : Pass Host :=
    ⟨host, .empty, .running, engine.issued, engine.issued, 0, 0, [], []⟩
  have hclosed : ∀ ticket, blank.isOpen ticket = false := by
    intro ticket
    rw [← Bool.not_eq_true, Pass.isOpen_iff]
    rintro ⟨⟨hle, hlt⟩, _⟩
    exact absurd hlt (Nat.not_lt.mpr hle)
  obtain ⟨after, heq⟩ := engine.exists_fire_of_closed .started blank hclosed
  have hbegin : engine.begin host =
      { blank with host := after, journal := [.fired .started] } := heq
  rw [hbegin]
  refine ⟨?_, rfl, rfl, rfl⟩
  constructor <;> simp [blank, failuresOf, ErrorStore.recordAll]

namespace Running

variable {engine : Engine Host} {host : Host} {count : Nat} {pass : Pass Host}

/-- A pass runs on when its accounts grow without an event. -/
theorem extend {next : Nat} {later : Pass Host} (h : engine.Running host count pass)
    (more : Journal) (hledger : engine.Ledger host next later)
    (hstate : later.state = pass.state) (hjournal : later.journal = pass.journal ++ more)
    (hsilent : more.events = []) : engine.Running host next later where
  ledger := hledger
  state_eq := hstate.trans h.state_eq
  events_eq := by rw [hjournal, Journal.events_append, hsilent, List.append_nil, h.events_eq]
  head_eq := by
    rw [hjournal, List.head?_append, h.head_eq]
    rfl

theorem hear (h : engine.Running host count pass) {news : Replies} (hnews : pass.Fresh news)
    (turned : Host) :
    engine.Running host count
      { pass with host := turned, journal := pass.journal ++ Journal.ofReplies news } :=
  h.extend (Journal.ofReplies news) (h.ledger.hear hnews turned) rfl rfl (by simp)

theorem takeTurn (h : engine.Running host count pass) (turn : Turn Host) :
    engine.Running host count (pass.takeTurn turn) := by
  obtain ⟨_, htaken, hfresh, _⟩ := pass.exists_takeTurn turn
  rw [htaken]
  exact h.hear hfresh _

/-- When the last report has come nothing is missing any more. -/
theorem all_reported (h : engine.Running host count pass)
    (hreported : pass.reported = engine.rules.size) :
    count = engine.rules.size ∧ pass.dropped = 0 ∧ pass.awaited = [] := by
  have hcounts := h.ledger.counts_eq
  have hle := h.ledger.count_le
  refine ⟨by omega, by omega, ?_⟩
  apply List.eq_nil_of_length_eq_zero
  omega

/-- The completion check ends the pass exactly if every instance has reported. -/
theorem concludeIfDone_cases (h : engine.Running host count pass) :
    (pass.reported ≠ engine.rules.size ∧ engine.concludeIfDone pass = pass) ∨
      (pass.reported = engine.rules.size ∧ count = engine.rules.size ∧
        ∃ after, engine.concludeIfDone pass = pass.ended after) := by
  by_cases hdone : pass.reported = engine.rules.size
  · obtain ⟨hcount, _, hawaited⟩ := h.all_reported hdone
    have hclosed := h.ledger.closed hawaited
    obtain ⟨middle, hended⟩ := engine.exists_fire_of_closed .ended
      { pass with state := .completed (conclusionOf pass.errors) } hclosed
    have hstill : ∀ ticket, Pass.isOpen
        { pass with
          host := middle
          state := .completed (conclusionOf pass.errors)
          journal := pass.journal ++ [.fired .ended] } ticket = false := by
      intro ticket
      have hticket := hclosed ticket
      rw [← Bool.not_eq_true, Pass.isOpen_iff] at hticket ⊢
      simpa using hticket
    obtain ⟨after, hconcluded⟩ := engine.exists_fire_of_closed
      (conclusionOf pass.errors).event _ hstill
    have hfires : engine.concludeIfDone pass =
        engine.fire (conclusionOf pass.errors).event (engine.fire .ended
          { pass with state := .completed (conclusionOf pass.errors) }) := if_pos hdone
    refine Or.inr ⟨hdone, hcount, after, ?_⟩
    rw [hfires, hended, hconcluded]
    simp [Pass.ended]
  · exact Or.inl ⟨hdone, by simp [concludeIfDone, hdone]⟩

theorem concludeIfDone_phase (h : engine.Running host count pass) :
    engine.Phase host count (engine.concludeIfDone pass) := by
  rcases h.concludeIfDone_cases with ⟨hopen, heq⟩ | ⟨hdone, hcount, after, heq⟩
  · rw [heq]
    exact .underway h fun _ => hopen
  · rw [heq]
    subst hcount
    exact .ended after h hdone rfl

/-- A check of the next instance, before it is seen whether the pass is done. -/
theorem check (h : engine.Running host count pass) (hcount : count < engine.rules.size)
    (hregistered : engine.rules.isRegistered count = true) :
    engine.Running host (count + 1)
      { engine.recordAll (engine.checkFailures host count) (pass.note (.checked count)) with
        reported := pass.reported + 1 } :=
  h.extend (.checked count :: Journal.ofRecords (engine.checkFailures host count))
    (h.ledger.check hcount hregistered) rfl (by simp [recordAll, Pass.note]) (by simp)

/-- The turn of an instance of a registered rule that does not fault. -/
theorem check_phase (h : engine.Running host count pass) (hcount : count < engine.rules.size)
    (hregistered : engine.rules.isRegistered count = true) :
    engine.Phase host (count + 1) (engine.report
      (engine.recordAll (engine.checkFailures host count) (pass.note (.checked count)))) :=
  (h.check hcount hregistered).concludeIfDone_phase

/-- The completion check hears nothing and awaits nothing new. -/
theorem concludeIfDone_frame (h : engine.Running host count pass) :
    (engine.concludeIfDone pass).awaited = pass.awaited ∧
      (engine.concludeIfDone pass).journal.replies = pass.journal.replies := by
  rcases h.concludeIfDone_cases with ⟨_, heq⟩ | ⟨_, _, after, heq⟩
  · rw [heq]
    exact ⟨rfl, rfl⟩
  · rw [heq]
    exact ⟨rfl, by simp [Pass.ended]⟩

/-- Taking over the conclusion of an awaited verdict, before it is seen whether the pass is done. -/
theorem take (h : engine.Running host count pass) {index : Nat} {ticket : Ticket} {reply : Reply}
    (hmem : (index, ticket) ∈ pass.awaited) (hreply : (ticket, reply) ∈ pass.journal.replies) :
    engine.Running host count
      { engine.recordAll (engine.verdictFailures index reply) (pass.note (.taken index reply)) with
        awaited := pass.awaited.filter fun entry => entry.2 != ticket
        reported := pass.reported + if reply.isAnswered then 1 else 0
        dropped := pass.dropped + if reply.isAnswered then 0 else 1 } :=
  h.extend (.taken index reply :: Journal.ofRecords (engine.verdictFailures index reply))
    (h.ledger.take hmem hreply) rfl (by simp [recordAll, Pass.note]) (by simp)

/-- Taking over the conclusion of an awaited verdict ends the wait for it and hears nothing. -/
theorem conclude_spec (h : engine.Running host count pass)
    (hopen : engine.rules.size ≠ 0 → pass.reported ≠ engine.rules.size) {index : Nat}
    {ticket : Ticket} {reply : Reply} (hmem : (index, ticket) ∈ pass.awaited)
    (hreply : (ticket, reply) ∈ pass.journal.replies) :
    let others := pass.awaited.filter fun entry => entry.2 != ticket
    let concluded := engine.conclude index reply { pass with awaited := others }
    engine.Phase host count concluded ∧ concluded.awaited = others ∧
      concluded.journal.replies = pass.journal.replies := by
  have hrunning := h.take hmem hreply
  cases reply with
  | answered outcome =>
      have hframe := hrunning.concludeIfDone_frame
      refine ⟨hrunning.concludeIfDone_phase, hframe.1, hframe.2.trans ?_⟩
      simp [recordAll, Pass.note]
  | dropped =>
      refine ⟨.underway hrunning hopen, rfl, ?_⟩
      simp [conclude, recordAll, Pass.note]

/-- During the call of a custom rule its ticket is open, so that the first reply to it counts. -/
theorem reply?_call (h : engine.Running host count pass) (field : String)
    (rule : CustomRule Host) :
    (engine.call count field rule pass).reply? pass.issued =
      ((rule (engine.customInput pass.host field) pass.issued pass.host).2.find? fun entry =>
        entry.1 == pass.issued).map Prod.snd := by
  have hnew : pass.issued ∉ pass.journal.replies.map Prod.fst := by
    intro hold
    obtain ⟨entry, hentry, hticket⟩ := List.mem_map.mp hold
    have hrange := (h.ledger.mem_tickets_iff _).mp (h.ledger.heard_called entry hentry)
    exact absurd hticket (Nat.ne_of_lt hrange.2)
  have hold : (pass.journal.replies.find? fun entry => entry.1 == pass.issued) = none := by
    rw [List.find?_eq_none]
    intro entry hentry hticket
    exact hnew (List.mem_map.mpr ⟨entry, hentry, by simpa using hticket⟩)
  obtain ⟨news, hcalled, _, hfind⟩ := engine.exists_call count field rule pass
  have hcounts := hfind pass.issued (by
    rw [Pass.isOpen_iff]
    refine ⟨⟨?_, Nat.lt_succ_self _⟩, by simpa [Pass.note] using hnew⟩
    simp only [Pass.note]
    rw [h.ledger.issued_eq]
    exact Nat.le_add_right _ _)
  rw [hcalled]
  simp only [Pass.reply?, Pass.heard, Pass.note, Journal.replies_append, Journal.replies_cons,
    Journal.replies_nil, Journal.views_ofReplies, List.append_nil, List.find?_append, hold,
    Option.none_or] at hcounts ⊢
  rw [hcounts]

/-- The verdict that is handed out with a call counts as awaited during it, also if the call
concludes it. -/
theorem call_running (h : engine.Running host count pass) (hcount : count < engine.rules.size)
    (hcustom : engine.rules.isCustom count = true) (field : String) (rule : CustomRule Host) :
    engine.Running host (count + 1)
      { engine.call count field rule pass with
        awaited := pass.awaited ++ [(count, pass.issued)] } := by
  let input := engine.customInput pass.host field
  obtain ⟨news, hcalled, hnews, _⟩ := engine.exists_call count field rule pass
  have hfresh : Pass.Fresh
      { pass.note (.called count input pass.issued) with
        issued := pass.issued + 1
        awaited := pass.awaited ++ [(count, pass.issued)] } news := ⟨hnews.isOpen, hnews.nodup⟩
  have hledger := (h.ledger.call hcount hcustom input).hear hfresh
    (rule input pass.issued pass.host).1
  rw [hcalled]
  exact h.extend (.called count input pass.issued :: Journal.ofReplies news) hledger rfl
    (by simp [input, Pass.note]) (by simp)

/-- The verdict of a call is still to be reported. -/
theorem call_unfinished (h : engine.Running host count pass) (hcount : count < engine.rules.size)
    (hcustom : engine.rules.isCustom count = true) (field : String) (rule : CustomRule Host) :
    (engine.call count field rule pass).reported ≠ engine.rules.size := by
  intro hall
  have hcounts := (h.call_running hcount hcustom field rule).ledger.counts_eq
  simp only [List.length_append, List.length_singleton] at hcounts
  omega

/-- The ticket of the next call is that of no verdict awaited before. -/
theorem filter_awaited (h : engine.Running host count pass) :
    (pass.awaited ++ [(count, pass.issued)]).filter (fun entry => entry.2 != pass.issued) =
      pass.awaited := by
  have hold : ∀ entry ∈ pass.awaited, (entry.2 != pass.issued) = true := by
    intro entry hentry
    have hticket := (h.ledger.mem_tickets_iff entry.2).mp
      (List.mem_map_of_mem (h.ledger.awaited_called entry hentry))
    simpa using Nat.ne_of_lt hticket.2
  simp [List.filter_append, List.filter_eq_self.mpr hold]

/-- The turn of an instance of a custom rule. -/
theorem call_phase (h : engine.Running host count pass) (hcount : count < engine.rules.size)
    {inst : RuleInstance Host} {rule : CustomRule Host}
    (hinst : engine.rules.instances[count]? = some inst) (htask : inst.task = .custom rule) :
    engine.Phase host (count + 1) (engine.runCustom count inst rule pass) := by
  have hcustom : engine.rules.isCustom count = true :=
    (engine.rules.isCustom_iff count).mpr ⟨inst, rule, hinst, htask⟩
  have hrunning := h.call_running hcount hcustom inst.field rule
  have hopen := h.call_unfinished hcount hcustom inst.field rule
  let called := engine.call count inst.field rule pass
  have hawaited : called.awaited = pass.awaited := engine.call_awaited _ _ _ _
  unfold runCustom
  cases hreply : called.reply? pass.issued with
  | none =>
      rw [engine.settle_of_none count hreply, hawaited]
      exact .underway hrunning fun _ => hopen
  | some reply =>
      have hlast : (count, pass.issued) ∈ pass.awaited ++ [(count, pass.issued)] := by simp
      have hphase := (hrunning.conclude_spec (fun _ => hopen) hlast
        (Pass.mem_replies_of_reply? hreply)).1
      have hothers := h.filter_awaited.trans hawaited.symm
      rw [engine.settle_of_some count hreply]
      simpa only [hothers] using hphase

end Running

/-- As long as an instance has not had its turn the pass is under way. -/
theorem Phase.running {engine : Engine Host} {host : Host} {count : Nat} {pass : Pass Host}
    (h : engine.Phase host count pass) (hcount : count < engine.rules.size) :
    engine.Running host count pass := by
  cases h with
  | underway running unfinished => exact running
  | ended after running finished all => exact absurd all (Nat.ne_of_lt hcount)

/-- A pass that is over awaits no verdict. -/
theorem Phase.awaited_eq_nil_or_running {engine : Engine Host} {host : Host} {count : Nat}
    {pass : Pass Host} (h : engine.Phase host count pass) :
    pass.awaited = [] ∨ engine.Running host count pass ∧
      (engine.rules.size ≠ 0 → pass.reported ≠ engine.rules.size) := by
  cases h with
  | underway running unfinished => exact Or.inr ⟨running, unfinished⟩
  | ended after running finished all => exact Or.inl (running.all_reported finished).2.2

end Engine

end FormRules
