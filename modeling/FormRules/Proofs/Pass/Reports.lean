/-
The order in which a pass takes reports.

A registered rule reports when it decides, and a custom rule that answers within its own call
reports then.  All other answers are taken after the walk: those that have come in meanwhile first,
and then those of each turn of the host in the order in which they are given.
-/
import FormRules.Proofs.Pass.Completion

namespace FormRules

variable {Host : Type}

/-- The tickets that have been answered, in the order of the answers. -/
def Replies.answers (given : Replies) : List Ticket :=
  (given.filter fun entry => entry.2.isAnswered).map Prod.fst

theorem Replies.answers_append (first second : Replies) :
    Replies.answers (first ++ second) = first.answers ++ second.answers := by
  simp [Replies.answers]

/-- The instance whose report an entry takes. -/
@[simp] def Entry.report? : Entry → Option Nat
  | .checked index => some index
  | .taken index (.answered _) => some index
  | _ => none

namespace Journal

/-- The instances whose reports the pass has taken, in that order. -/
def reports (journal : Journal) : List Nat := journal.filterMap Entry.report?

@[simp] theorem reports_nil : reports [] = [] := rfl

@[simp] theorem reports_cons (entry : Entry) (rest : Journal) :
    reports (entry :: rest) = entry.report?.toList ++ reports rest := by
  simp only [reports, List.filterMap_cons]
  cases entry.report? <;> rfl

@[simp] theorem reports_append (first second : Journal) :
    reports (first ++ second) = reports first ++ reports second :=
  List.filterMap_append

@[simp] theorem reports_ofReplies (given : Replies) : reports (ofReplies given) = [] := by
  simp [reports, ofReplies, List.filterMap_map]

@[simp] theorem reports_ofRecords (failures : List (String × String)) :
    reports (ofRecords failures) = [] := by
  simp [reports, ofRecords, List.filterMap_map]

theorem mem_reports_iff (journal : Journal) (index : Nat) :
    index ∈ journal.reports ↔ ∃ entry ∈ journal, entry.report? = some index :=
  List.mem_filterMap

/-- A report is taken with a check or with an answer. -/
theorem reports_perm (journal : Journal) :
    journal.reports.Perm (journal.checks ++
      (journal.takings.filter fun entry => entry.2.isAnswered).map Prod.fst) := by
  induction journal with
  | nil => exact List.Perm.refl _
  | cons entry rest ih =>
      rcases entry with _ | index | _ | _ | ⟨index, outcome | _⟩ | _
      case taken.answered =>
        simpa [Reply.isAnswered] using (ih.cons index).trans List.perm_middle.symm
      all_goals simpa [Reply.isAnswered] using ih

theorem Reported.mono {journal : Journal} {index : Nat} (h : journal.Reported index)
    (more : Journal) : Reported (journal ++ more) index := by
  rcases h with hcheck | ⟨outcome, hconcluded⟩
  · exact Or.inl (by simp [hcheck])
  · exact Or.inr ⟨outcome, hconcluded.mono more⟩

theorem Reported.of_isPrefix {first second : Journal} {index : Nat} (h : first.Reported index)
    (hinitial : first <+: second) : second.Reported index := by
  obtain ⟨more, rfl⟩ := hinitial
  exact h.mono more

/-- A journal goes on, and some reports are taken meanwhile. -/
def Grows (first second : Journal) (taken : List Nat) : Prop :=
  ∃ more : Journal, second = first ++ more ∧ more.reports = taken

namespace Grows

variable {first second third : Journal} {taken others : List Nat}

theorem refl (journal : Journal) : Grows journal journal [] :=
  ⟨[], (List.append_nil journal).symm, rfl⟩

theorem trans (h : Grows first second taken) (hnext : Grows second third others) :
    Grows first third (taken ++ others) := by
  obtain ⟨more, rfl, rfl⟩ := h
  obtain ⟨rest, rfl, rfl⟩ := hnext
  exact ⟨more ++ rest, List.append_assoc _ _ _, reports_append _ _⟩

theorem isPrefix (h : Grows first second taken) : first <+: second := by
  obtain ⟨more, rfl, _⟩ := h
  exact List.prefix_append _ _

theorem reports_eq (h : Grows first second taken) : second.reports = first.reports ++ taken := by
  obtain ⟨more, rfl, rfl⟩ := h
  exact reports_append _ _

end Grows

/-- A journal goes on, and the instance at an index is the only one that may report meanwhile. -/
def MayReport (first second : Journal) (index : Nat) : Prop :=
  first.Grows second [index] ∧ second.Reported index ∨
    first.Grows second [] ∧ ¬ second.Reported index

end Journal

namespace Engine

/-- What each report of a journal is taken for has been answered in the same order. -/
def InOrder (engine : Engine Host) (journal : Journal) : Prop :=
  journal.reports.map engine.ticketOf = journal.replies.answers

theorem InOrder.append {engine : Engine Host} {first second : Journal}
    (hfirst : engine.InOrder first) (hsecond : engine.InOrder second) :
    engine.InOrder (first ++ second) := by
  unfold InOrder at *
  rw [Journal.reports_append, List.map_append, hfirst, hsecond, Journal.replies_append,
    Replies.answers_append]

theorem fire_grows (engine : Engine Host) (event : Event) (pass : Pass Host) :
    pass.journal.Grows (engine.fire event pass).journal [] := by
  obtain ⟨_, news, hfire, _⟩ := engine.exists_fire event pass
  rw [hfire]
  exact ⟨_, rfl, by simp⟩

theorem concludeIfDone_grows (engine : Engine Host) (pass : Pass Host) :
    pass.journal.Grows (engine.concludeIfDone pass).journal [] := by
  unfold concludeIfDone
  split
  · let settled : Pass Host := { pass with state := .completed (conclusionOf pass.errors) }
    have hended : pass.journal.Grows (engine.fire .ended settled).journal [] :=
      engine.fire_grows .ended settled
    exact hended.trans (engine.fire_grows _ _)
  · exact .refl _

/-- A decision of a registered rule is a report. -/
theorem check_grows (engine : Engine Host) (index : Nat) (failures : List (String × String))
    (pass : Pass Host) :
    pass.journal.Grows
      (engine.report (engine.recordAll failures (pass.note (.checked index)))).journal [index] := by
  let checked := engine.recordAll failures (pass.note (.checked index))
  have hchecked : pass.journal.Grows checked.journal [index] :=
    ⟨.checked index :: Journal.ofRecords failures, by simp [checked, recordAll, Pass.note], by simp⟩
  exact hchecked.trans
    (engine.concludeIfDone_grows { checked with reported := checked.reported + 1 })

/-- Taking over the conclusion of a verdict takes a report if it is an answer. -/
theorem conclude_grows (engine : Engine Host) (index : Nat) (reply : Reply) (pass : Pass Host) :
    pass.journal.Grows (engine.conclude index reply pass).journal
      (if reply.isAnswered then [index] else []) := by
  let failures := engine.verdictFailures index reply
  let settled := engine.recordAll failures (pass.note (.taken index reply))
  have hjournal : settled.journal =
      pass.journal ++ .taken index reply :: Journal.ofRecords failures := by
    simp [settled, recordAll, Pass.note]
  cases reply with
  | answered outcome =>
      have hsettled : pass.journal.Grows settled.journal [index] := ⟨_, hjournal, by simp⟩
      exact hsettled.trans
        (engine.concludeIfDone_grows { settled with reported := settled.reported + 1 })
  | dropped => exact ⟨_, hjournal, by simp [Reply.isAnswered]⟩

theorem call_grows (engine : Engine Host) (index : Nat) (field : String) (rule : CustomRule Host)
    (pass : Pass Host) : pass.journal.Grows (engine.call index field rule pass).journal [] := by
  obtain ⟨news, hcall, _⟩ := engine.exists_call index field rule pass
  rw [hcall]
  exact ⟨_, List.append_assoc _ _ _, by simp⟩

theorem collect_grows (engine : Engine Host) (ticket : Ticket) (pass : Pass Host) :
    ∃ taken, pass.journal.Grows (engine.collect ticket pass).journal taken := by
  rcases engine.collect_cases ticket pass with ⟨index, reply, _, _, hcollect⟩ | ⟨_, hcollect⟩
  · rw [hcollect]
    exact ⟨_, engine.conclude_grows index reply _⟩
  · rw [hcollect]
    exact ⟨[], .refl _⟩

theorem collectAll_grows (engine : Engine Host) (tickets : List Ticket) (pass : Pass Host) :
    ∃ taken, pass.journal.Grows (engine.collectAll tickets pass).journal taken := by
  induction tickets generalizing pass with
  | nil => exact ⟨[], .refl _⟩
  | cons ticket tickets ih =>
      obtain ⟨taken, hfirst⟩ := engine.collect_grows ticket pass
      obtain ⟨others, hrest⟩ := ih (engine.collect ticket pass)
      exact ⟨_, hfirst.trans hrest⟩

/-- Besides announcements, the journal of a pass under way or over is that of its accounts. -/
theorem Phase.exists_ledger {engine : Engine Host} {host : Host} {count : Nat} {pass : Pass Host}
    (h : engine.Phase host count pass) :
    ∃ prior, engine.Ledger host count prior ∧ prior.journal <+: pass.journal ∧
      pass.journal.checks = prior.journal.checks ∧ pass.journal.calls = prior.journal.calls ∧
      pass.journal.replies = prior.journal.replies ∧
      pass.journal.takings = prior.journal.takings := by
  cases h with
  | underway running unfinished =>
      exact ⟨pass, running.ledger, List.prefix_refl _, rfl, rfl, rfl, rfl⟩
  | @ended prior after running finished all =>
      subst all
      exact ⟨prior, running.ledger, List.prefix_append _ _, by simp [Pass.ended]⟩

/-- The instance at an index has reported by the end of its own turn: a registered rule has decided
it, or its custom rule has answered within its call. -/
def ReportsAtTurn (engine : Engine Host) (host : Host) (index : Nat) : Prop :=
  (engine.atTurn host (index + 1)).journal.Reported index

/-- At its turn a registered rule reports. -/
theorem run_registered_grows (engine : Engine Host) (host : Host) {index : Nat}
    {inst : RuleInstance Host} (hinst : engine.rules.instances[index]? = some inst)
    {name : String} {params : List Param} (htask : inst.task = .registered name params)
    {next : Pass Host} (hrun : engine.run index inst (engine.atTurn host index) = .ok next)
    (hphase : engine.Phase host (index + 1) next) :
    (engine.atTurn host index).journal.Grows next.journal [index] ∧
      next.journal.Reported index := by
  have hsound : ∀ fault, ¬ engine.FaultsAt host index fault := by
    intro fault hfault
    rw [engine.run_of_faultsAt host hinst hfault] at hrun
    cases hrun
  rw [engine.run_of_registered host hinst htask hsound] at hrun
  injection hrun with hnext
  have hgrows := engine.check_grows index (engine.checkFailures host index)
    (engine.atTurn host index)
  rw [hnext] at hgrows
  have hregistered : engine.rules.isRegistered index = true :=
    (engine.rules.isRegistered_iff index).mpr ⟨inst, name, params, hinst, htask⟩
  obtain ⟨prior, hledger, _, hchecks, _⟩ := hphase.exists_ledger
  refine ⟨hgrows, Or.inl ?_⟩
  rw [hchecks, hledger.mem_checks_iff]
  exact ⟨Nat.lt_succ_self index, hregistered⟩

/-- At its turn a custom rule reports if it answers within its call. -/
theorem run_custom_grows (engine : Engine Host) (host : Host) {index : Nat}
    {inst : RuleInstance Host} {rule : CustomRule Host} (htask : inst.task = .custom rule)
    {next : Pass Host} (hrun : engine.run index inst (engine.atTurn host index) = .ok next)
    (hphase : engine.Phase host (index + 1) next) :
    (engine.atTurn host index).journal.MayReport next.journal index := by
  let pass := engine.atTurn host index
  let called := engine.call index inst.field rule pass
  have hcalled : pass.journal.Grows called.journal [] := engine.call_grows _ _ _ _
  have hcall : (index, pass.issued) ∈ called.journal.calls := by
    obtain ⟨_, hjournal, _⟩ := engine.exists_call index inst.field rule pass
    have hjournal : called = _ := hjournal
    rw [hjournal]
    simp [Pass.note]
  rw [engine.run_of_custom index htask] at hrun
  injection hrun with hnext
  have hsettle : next = engine.settle index pass.issued called := hnext.symm
  -- The accounts are those of the pass before its end, which tell the same of this instance.
  obtain ⟨prior, hledger, _, hchecks, hcalls, hreplies, _⟩ := hphase.exists_ledger
  cases hsaid : called.reply? pass.issued with
  | none =>
      rw [engine.settle_of_none index hsaid] at hsettle
      subst hsettle
      refine Or.inr ⟨hcalled, ?_⟩
      have hsilent : ∀ outcome, (pass.issued, .answered outcome) ∉ called.journal.replies := by
        intro outcome hanswer
        exact (Pass.reply?_eq_none_iff _ _).mp hsaid (List.mem_map_of_mem hanswer)
      have hmade := hcall
      simp only [Journal.Reported, Journal.Concluded, hchecks, hcalls, hreplies]
        at hsilent hmade ⊢
      exact hledger.not_reported_of_called hmade hsilent
  | some reply =>
      rw [engine.settle_of_some index hsaid] at hsettle
      subst hsettle
      have hgrows := hcalled.trans (engine.conclude_grows index reply called)
      obtain ⟨more, hmore, _⟩ := engine.conclude_grows index reply called
      have hconcluded : (engine.conclude index reply called).journal.Concluded index reply := by
        rw [hmore]
        exact Journal.Concluded.mono
          ⟨pass.issued, hcall, Pass.mem_replies_of_reply? hsaid⟩ more
      cases reply with
      | answered outcome => exact Or.inl ⟨hgrows, Or.inr ⟨outcome, hconcluded⟩⟩
      | dropped =>
          refine Or.inr ⟨hgrows, ?_⟩
          simp only [Journal.Reported, Journal.Concluded, hchecks, hcalls, hreplies]
            at hconcluded ⊢
          exact hledger.not_reported_of_dropped hconcluded

/-- From one turn to the next an instance reports at most. -/
theorem atTurn_grows (engine : Engine Host) (host : Host) {index : Nat}
    (hindex : index < engine.rules.size) (hsound : engine.SoundBelow host (index + 1)) :
    (engine.atTurn host index).journal.MayReport (engine.atTurn host (index + 1)).journal
      index := by
  have hinst : engine.rules.instances[index]? = some engine.rules.instances[index] :=
    List.getElem?_eq_getElem hindex
  obtain ⟨hrunning, hrun⟩ := engine.run_atTurn host hinst hsound
  obtain ⟨next, hnext, hphase⟩ := engine.run_phase host hinst hrunning
    (hsound index (Nat.lt_succ_self index))
  rw [hrun] at hnext
  injection hnext with hnext
  subst hnext
  cases htask : engine.rules.instances[index].task with
  | registered name params =>
      exact Or.inl (engine.run_registered_grows host hinst htask hrun hphase)
  | custom rule => exact engine.run_custom_grows host htask hrun hphase

/-- When the turn of an instance comes, the reports taken are those of the instances before it that
have reported by the ends of their own turns. -/
theorem mem_reports_atTurn_iff (engine : Engine Host) (host : Host) {count : Nat}
    (hcount : count ≤ engine.rules.size) (hsound : engine.SoundBelow host count) (index : Nat) :
    index ∈ (engine.atTurn host count).journal.reports ↔
      index < count ∧ engine.ReportsAtTurn host index := by
  induction count with
  | zero =>
      have hbegin := (engine.fire_grows .started
        ⟨host, .empty, .running, engine.issued, engine.issued, 0, 0, [], []⟩).reports_eq
      have hnone : (engine.atTurn host 0).journal.reports = [] := hbegin
      simp [hnone]
  | succ count ih =>
      have hfirst := ih (Nat.le_of_lt hcount) (hsound.mono (Nat.le_succ count))
      rcases engine.atTurn_grows host hcount hsound with ⟨hgrows, hreports⟩ | ⟨hgrows, hreports⟩
      · rw [hgrows.reports_eq, List.mem_append, hfirst, List.mem_singleton]
        grind [ReportsAtTurn]
      · rw [hgrows.reports_eq, List.append_nil, hfirst]
        grind [ReportsAtTurn]

theorem atTurn_isPrefix (engine : Engine Host) (host : Host) {first second : Nat}
    (hle : first ≤ second) (hsecond : second ≤ engine.rules.size)
    (hsound : engine.SoundBelow host second) :
    (engine.atTurn host first).journal <+: (engine.atTurn host second).journal := by
  induction hle with
  | refl => exact List.prefix_refl _
  | @step second _ ih =>
      have hfirst := ih (Nat.le_of_lt hsecond) (hsound.mono (Nat.le_succ second))
      rcases engine.atTurn_grows host hsecond hsound with ⟨hgrows, _⟩ | ⟨hgrows, _⟩
      · exact hfirst.trans hgrows.isPrefix
      · exact hfirst.trans hgrows.isPrefix

/-- Replies that are collected for awaited verdicts are taken in the order in which they came. -/
theorem collectAll_news (engine : Engine Host) {host : Host} {pass : Pass Host}
    (h : engine.Phase host engine.rules.size pass) {news : Replies}
    (hnodup : (news.map Prod.fst).Nodup)
    (hnews : ∀ entry ∈ news, entry.1 ∈ pass.awaited.map Prod.snd ∧
      pass.reply? entry.1 = some entry.2) :
    ∃ taken, pass.journal.Grows (engine.collectAll (news.map Prod.fst) pass).journal taken ∧
      taken.map engine.ticketOf = news.answers := by
  induction news generalizing pass with
  | nil => exact ⟨[], .refl _, rfl⟩
  | cons entry rest ih =>
      obtain ⟨ticket, reply⟩ := entry
      obtain ⟨hwaits, hreply⟩ := hnews (ticket, reply) List.mem_cons_self
      obtain ⟨hfresh, hrest⟩ := List.nodup_cons.mp hnodup
      obtain ⟨hphase, hreplies, hawaited⟩ := engine.collect_spec h ticket
      obtain ⟨index, said, hmem, hsaid, hcollect⟩ :=
        (engine.collect_cases ticket pass).resolve_right (by
          rintro ⟨habsent | hsilent, _⟩
          · exact habsent hwaits
          · simp [hsilent] at hreply)
      obtain rfl : said = reply := Option.some.inj (hsaid.symm.trans hreply)
      have hticket : engine.ticketOf index = ticket := by
        obtain ⟨hrunning, _⟩ := h.awaited_eq_nil_or_running.resolve_left (List.ne_nil_of_mem hmem)
        exact (hrunning.ledger.ticket_eq _ (hrunning.ledger.awaited_called _ hmem)).symm
      have hcollected : pass.journal.Grows (engine.collect ticket pass).journal
          (if said.isAnswered then [index] else []) := by
        rw [hcollect]
        exact engine.conclude_grows index said _
      obtain ⟨others, hgrows, hothers⟩ := ih hphase hrest (by
        intro other hother
        obtain ⟨hstays, hsaid⟩ := hnews other (List.mem_cons_of_mem _ hother)
        refine ⟨?_, (reply?_congr hreplies other.1).trans hsaid⟩
        obtain ⟨waiting, hwaiting, hsame⟩ := List.mem_map.mp hstays
        have hne : waiting.2 ≠ ticket := by
          intro hticket
          exact hfresh (List.mem_map.mpr ⟨other, hother, hsame.symm.trans hticket⟩)
        rw [hawaited]
        exact List.mem_map.mpr ⟨waiting, List.mem_filter.mpr ⟨hwaiting, by simp [hne]⟩, hsame⟩)
      refine ⟨_, hcollected.trans hgrows, ?_⟩
      rw [List.map_append, hothers]
      cases hanswered : said.isAnswered <;> simp [Replies.answers, hanswered, hticket]

/-- What is collected at the end of the walk has been heard in the walk. -/
theorem collected_grows (engine : Engine Host) {host : Host} {walked : Pass Host}
    (h : engine.Phase host engine.rules.size walked)
    (hempty : engine.rules.size = 0 → engine.Running host 0 walked) :
    walked.journal <+: (engine.collected walked).journal ∧
      (engine.collected walked).journal.replies = walked.journal.replies := by
  by_cases hsize : engine.rules.size = 0
  · obtain ⟨after, hfinish, hdone⟩ := engine.finish_of_empty hsize (hempty hsize) []
    have hended : engine.collected walked = walked.ended after := congrArg Prod.fst hfinish
    rw [hended]
    exact ⟨List.prefix_append _ _, by simp [Pass.ended]⟩
  · have hcollected : engine.collected walked =
        engine.collectAll (walked.awaited.map Prod.snd) walked := by
      simp [collected, hsize]
    obtain ⟨_, hgrows⟩ := engine.collectAll_grows (walked.awaited.map Prod.snd) walked
    rw [hcollected]
    exact ⟨hgrows.isPrefix, (engine.collectAll_spec h (walked.awaited.map Prod.snd)).2.1⟩

/-- What a turn of the host answers while the pass sleeps is taken in the order of the answers. -/
theorem wake_inOrder (engine : Engine Host) {host : Host} {pass : Pass Host}
    (h : engine.Phase host engine.rules.size pass) (hwaiting : pass.awaited ≠ [])
    (turn : Turn Host) :
    ∃ more, (engine.wake turn pass).journal = pass.journal ++ more ∧ engine.InOrder more := by
  obtain ⟨hrunning, hopen⟩ := h.awaited_eq_nil_or_running.resolve_left hwaiting
  obtain ⟨news, htaken, hfresh, _⟩ := pass.exists_takeTurn turn
  let woken := pass.takeTurn turn
  have hjournal : woken.journal = pass.journal ++ Journal.ofReplies news := by
    simp only [woken, htaken]
  have hreplies : woken.journal.replies = pass.journal.replies ++ news := by
    simp [hjournal]
  have hawaited : woken.awaited = pass.awaited := by
    simp only [woken, htaken]
  have hphase : engine.Phase host engine.rules.size woken := by
    simp only [woken, htaken]
    exact .underway (hrunning.hear hfresh _) hopen
  have hwake : engine.wake turn pass = engine.collectAll (news.map Prod.fst) woken := by
    simp only [wake, Pass.heard]
    rw [hreplies, List.drop_left]
  have hnews : ∀ entry ∈ news, entry.1 ∈ woken.awaited.map Prod.snd ∧
      woken.reply? entry.1 = some entry.2 := by
    intro entry hentry
    have hopen := hfresh.isOpen entry hentry
    constructor
    · rw [hawaited]
      exact hrunning.ledger.awaited_of_isOpen hopen
    · have hold := (Replies.find?_eq_none_iff _ _).mpr ((Pass.isOpen_iff _ _).mp hopen).2
      have hnew := Replies.find?_eq_some_of_mem hfresh.nodup hentry
      simp [Pass.reply?, Pass.heard, hreplies, List.find?_append, hold, hnew]
  obtain ⟨taken, ⟨more, hmore, hreports⟩, hanswers⟩ :=
    engine.collectAll_news hphase hfresh.nodup hnews
  have hquiet : more.replies = [] := by
    have hsame := (engine.collectAll_spec hphase (news.map Prod.fst)).2.1
    rw [hmore, Journal.replies_append] at hsame
    simpa using hsame
  refine ⟨Journal.ofReplies news ++ more, ?_, ?_⟩
  · rw [hwake, hmore, hjournal, List.append_assoc]
  · simp [InOrder, hreports, hanswers, hquiet]

/-- What is answered while the pass sleeps is taken in the order of the answers. -/
theorem sleep_inOrder (engine : Engine Host) {host : Host} {pass : Pass Host}
    (h : engine.Phase host engine.rules.size pass) (hsilent : Silent pass)
    (turns : List (Turn Host)) :
    ∃ more, (engine.sleep turns pass).1.journal = pass.journal ++ more ∧ engine.InOrder more := by
  have hnothing : engine.InOrder [] := rfl
  induction turns generalizing pass with
  | nil => exact ⟨[], by simp [sleep], hnothing⟩
  | cons turn turns ih =>
      by_cases hempty : pass.awaited = []
      · rw [engine.sleep_of_settled hempty]
        exact ⟨[], by simp, hnothing⟩
      · rw [engine.sleep_of_waiting hempty]
        obtain ⟨hwoken, hstill, _⟩ := engine.wake_spec h hsilent hempty turn
        obtain ⟨more, hmore, hinOrder⟩ := engine.wake_inOrder h hempty turn
        obtain ⟨rest, hrest, hlater⟩ := ih hwoken hstill
        exact ⟨more ++ rest, by rw [hrest, hmore, List.append_assoc], hinOrder.append hlater⟩

end Engine

end FormRules
