/-
Whose message a field keeps.

Of the failures of a field the last one taken is kept.  Reports are taken as they come, but for an
answer that comes during the walk after the call of its rule is over: such an answer is kept back
until the walk is over.
-/
import FormRules.Proofs.Pass.Failing
import FormRules.Proofs.Pass.Reports
import FormRules.Proofs.Store.Order

namespace FormRules

variable {Host : Type}

/-- In a list without duplicates what stands before an item of the first part is in that part. -/
theorem mem_of_nodup_append {α : Type} {first second front back : List α} {item other : α}
    (hsplit : first ++ second = front ++ item :: back) (hnodup : (first ++ second).Nodup)
    (hitem : item ∈ first) (hother : other ∈ front) : other ∈ first := by
  rcases List.append_eq_append_iff.mp hsplit with ⟨middle, rfl, hsecond⟩ | ⟨middle, rfl, _⟩
  · have hagain : item ∈ second := by simp [hsecond]
    exact absurd rfl ((List.nodup_append.mp hnodup).2.2 item hitem item hagain)
  · exact List.mem_append_left _ hother

/-- Of the items of a list that have a property there is a last one. -/
theorem exists_last_of_mem {α : Type} (p : α → Bool) {items : List α}
    (h : ∃ item ∈ items, p item = true) :
    ∃ front item back, items = front ++ item :: back ∧ p item = true ∧
      ∀ other ∈ back, p other = false := by
  obtain ⟨item, hitem, hp⟩ := h
  cases hfind : items.reverse.find? p with
  | none => exact absurd hp (List.find?_eq_none.mp hfind item (List.mem_reverse.mpr hitem))
  | some last =>
      obtain ⟨hlast, back, front, hsplit, hback⟩ := List.find?_eq_some_iff_append.mp hfind
      refine ⟨front.reverse, last, back.reverse, ?_, hlast, ?_⟩
      · rw [← List.reverse_reverse items, hsplit]
        simp
      · intro other hother
        simpa using hback other (List.mem_reverse.mp hother)

theorem Replies.mem_answers_iff (given : Replies) (ticket : Ticket) :
    ticket ∈ given.answers ↔ ∃ outcome, (ticket, .answered outcome) ∈ given := by
  simp only [answers, List.mem_map, List.mem_filter]
  constructor
  · rintro ⟨⟨ticket, outcome | _⟩, ⟨hmem, hanswered⟩, rfl⟩
    · exact ⟨outcome, hmem⟩
    · exact absurd hanswered Bool.false_ne_true
  · rintro ⟨outcome, hmem⟩
    exact ⟨_, ⟨hmem, rfl⟩, rfl⟩

/-- The report of one instance comes before that of another. -/
def Journal.ReportsBefore (journal : Journal) (first second : Nat) : Prop :=
  ∃ before : Journal, before <+: journal ∧ before.Reported first ∧ ¬ before.Reported second

namespace Engine

/-- The instance at an index is one of a field and fails. -/
def FailsOn (engine : Engine Host) (host : Host) (journal : Journal) (field : String)
    (index : Nat) : Prop :=
  engine.FailsIn host journal index ∧
    ∃ inst, engine.rules.instances[index]? = some inst ∧ inst.field = field

/-- No instance is one of a combined field. -/
def Plain (engine : Engine Host) : Prop :=
  ∀ inst ∈ engine.rules.instances, Combined.find? engine.rules.combined inst.field = none

/-- An instance of a field that is not combined writes that field only. -/
theorem Plain.writes_eq {engine : Engine Host} (h : engine.Plain) {index : Nat}
    {inst : RuleInstance Host} (hinst : engine.rules.instances[index]? = some inst) :
    engine.writes index = [inst.field] := by
  have hplain := h inst (List.mem_of_getElem? hinst)
  cases htask : inst.task <;> simp [writes, hinst, htask, markedFields, hplain]

namespace Ledger

variable {engine : Engine Host} {host : Host} {count : Nat} {pass : Pass Host}

/-- Every report is taken once. -/
theorem reports_nodup (h : engine.Ledger host count pass) : pass.journal.reports.Nodup := by
  rw [(Journal.reports_perm pass.journal).nodup_iff, List.nodup_append]
  have htaken : (pass.journal.takings.map Prod.fst).Nodup :=
    (List.nodup_append.mp (h.taken_or_awaited.nodup_iff.mpr h.calls_fst_nodup)).1
  refine ⟨?_, htaken.sublist (List.filter_sublist.map _), ?_⟩
  · rw [h.checks_eq]
    exact List.nodup_range.filter _
  · rintro index hcheck _ hanswer rfl
    obtain ⟨entry, hentry, rfl⟩ := List.mem_map.mp hanswer
    obtain ⟨ticket, hcall, _⟩ := h.taken_concluded entry (List.mem_of_mem_filter hentry)
    exact h.not_checked_of_called hcall hcheck

/-- Nothing is taken that has not been reported. -/
theorem reported_of_mem_reports (h : engine.Ledger host count pass) {index : Nat}
    (hmem : index ∈ pass.journal.reports) : pass.journal.Reported index := by
  obtain ⟨entry, hentry, hreport⟩ := (Journal.mem_reports_iff _ _).mp hmem
  rcases entry with _ | _ | _ | _ | ⟨_, outcome | _⟩ | _ <;> cases hreport
  · exact Or.inl ((Journal.mem_checks_iff _ _).mpr hentry)
  · exact Or.inr ⟨outcome, h.taken_concluded _ ((Journal.mem_takings_iff _ _ _).mpr hentry)⟩

/-- When nothing is awaited any more every failing instance has led to its failures at its
report. -/
theorem exists_report (h : engine.Ledger host engine.rules.size pass)
    (hawaited : pass.awaited = []) {index : Nat}
    (hfails : engine.FailsIn host pass.journal index) :
    ∃ entry ∈ pass.journal, entry.report? = some index ∧
      engine.failuresOf host entry = engine.failuresAt host index := by
  have hfailed := (h.hasFailed_iff hawaited index).mpr hfails
  obtain ⟨entry, hentry, rfl | rfl, hsame⟩ := h.exists_entry_of_hasFailed hfailed
  · exact ⟨_, hentry, rfl, hsame⟩
  · exact ⟨_, hentry, rfl, hsame⟩

/-- What leads to a failure is the report of a failing instance. -/
theorem report_of_failure (h : engine.Ledger host count pass) {entry : Entry}
    (hentry : entry ∈ pass.journal) {failure : String × String}
    (hfailure : failure ∈ engine.failuresOf host entry) :
    ∃ index, entry.report? = some index ∧ engine.FailsIn host pass.journal index ∧
      engine.failuresOf host entry = engine.failuresAt host index := by
  obtain ⟨index, rfl | rfl, hfailed, hsame⟩ := h.hasFailed_of_mem hentry hfailure
  · exact ⟨index, rfl, h.failsIn_of_hasFailed hfailed, hsame⟩
  · exact ⟨index, rfl, h.failsIn_of_hasFailed hfailed, hsame⟩

/-- The short form keeps the message of the last entry that leads to a failure of the field. -/
theorem short_get?_of_last (h : engine.Ledger host count pass) {front back : Journal}
    {entry : Entry} (hsplit : pass.journal = front ++ entry :: back) {field message : String}
    (hentry : engine.failuresOf host entry = [(field, message)])
    (hback : ∀ later ∈ back, field ∉ (engine.failuresOf host later).map Prod.fst) :
    pass.errors.short.get? field = some message := by
  rw [h.errors_eq, ErrorStore.short_recordAll, h.records_eq, hsplit, List.flatMap_append,
    List.flatMap_cons, hentry]
  apply MessageMap.get?_insertAll_of_last
  · exact List.mem_singleton_self _
  · intro other hother
    exact congrArg Prod.snd (List.mem_singleton.mp hother)
  · intro hlater
    obtain ⟨failure, hfailure, hname⟩ := List.mem_map.mp hlater
    obtain ⟨later, hmem, hfailure⟩ := List.mem_flatMap.mp hfailure
    exact hback later hmem (List.mem_map.mpr ⟨failure, hfailure, hname⟩)

/-- A field keeps the message of the failing instance whose report was the last to be taken. -/
theorem exists_last_report (h : engine.Ledger host engine.rules.size pass)
    (hawaited : pass.awaited = []) (hplain : engine.Plain) {field : String}
    (hfails : ∃ index, engine.FailsOn host pass.journal field index) :
    ∃ index message earlier later, engine.FailsOn host pass.journal field index ∧
      engine.messageAt? index = some message ∧
      pass.journal.reports = earlier ++ index :: later ∧
      (∀ other, engine.FailsOn host pass.journal field other → other = index ∨ other ∈ earlier) ∧
      pass.errors.short.get? field = some message := by
  let marks : Entry → Bool := fun entry =>
    ((engine.failuresOf host entry).map Prod.fst).contains field
  have hmarks : ∀ other, engine.FailsOn host pass.journal field other →
      ∃ entry ∈ pass.journal, entry.report? = some other ∧ marks entry = true := by
    rintro other ⟨hother, inst, hinst, rfl⟩
    obtain ⟨entry, hentry, hreport, hsame⟩ := h.exists_report hawaited hother
    obtain ⟨message, _, hfailures⟩ := h.exists_failuresAt_eq hother
    exact ⟨entry, hentry, hreport, by simp [marks, hsame, hfailures, hplain.writes_eq hinst]⟩
  obtain ⟨first, hfirst⟩ := hfails
  obtain ⟨front, entry, back, hsplit, hentry, hback⟩ := exists_last_of_mem marks (by
    obtain ⟨entry, hentry, _, hmark⟩ := hmarks first hfirst
    exact ⟨entry, hentry, hmark⟩)
  obtain ⟨failure, hfailure, hname⟩ := List.mem_map.mp (List.contains_iff_mem.mp hentry)
  obtain ⟨index, hreport, hindex, hsame⟩ := h.report_of_failure (by simp [hsplit]) hfailure
  obtain ⟨message, hmessage, hfailures⟩ := h.exists_failuresAt_eq hindex
  obtain ⟨inst, hinst, rfl⟩ : ∃ inst, engine.rules.instances[index]? = some inst ∧
      inst.field = field := by
    cases hinst : engine.rules.instances[index]? with
    | none => simp [hsame, hfailures, writes, hinst] at hfailure
    | some inst =>
        rw [hsame, hfailures, hplain.writes_eq hinst] at hfailure
        exact ⟨inst, rfl, by rw [← hname, List.mem_singleton.mp hfailure]⟩
  rw [hplain.writes_eq hinst, ← hsame] at hfailures
  have hreports : pass.journal.reports =
      Journal.reports front ++ index :: Journal.reports back := by
    rw [hsplit, Journal.reports_append, Journal.reports_cons, hreport]
    rfl
  refine ⟨index, message, _, _, ⟨hindex, inst, hinst, rfl⟩, hmessage, hreports, ?_, ?_⟩
  · intro other hother
    obtain ⟨entry', hentry', hreport', hmark⟩ := hmarks other hother
    rw [hsplit, List.mem_append, List.mem_cons] at hentry'
    rcases hentry' with hfront | rfl | hlater
    · exact Or.inr ((Journal.mem_reports_iff _ _).mpr ⟨entry', hfront, hreport'⟩)
    · exact Or.inl (Option.some.inj (hreport'.symm.trans hreport))
    · exact absurd hmark (by simp [hback entry' hlater])
  · apply h.short_get?_of_last hsplit hfailures
    intro later hlater
    simpa [marks] using hback later hlater

end Ledger

/-- The accounts of a pass under way or over tell what its journal tells. -/
theorem Phase.reports_nodup {engine : Engine Host} {host : Host} {count : Nat} {pass : Pass Host}
    (h : engine.Phase host count pass) : pass.journal.reports.Nodup := by
  obtain ⟨prior, hledger, _, hchecks, _, _, htakings⟩ := h.exists_ledger
  rw [(Journal.reports_perm pass.journal).nodup_iff, hchecks, htakings,
    ← (Journal.reports_perm prior.journal).nodup_iff]
  exact hledger.reports_nodup

/-- An instance that has not had its turn has not reported. -/
theorem Phase.lt_of_reported {engine : Engine Host} {host : Host} {count : Nat} {pass : Pass Host}
    (h : engine.Phase host count pass) {index : Nat} (hreported : pass.journal.Reported index) :
    index < count := by
  obtain ⟨prior, hledger, _, hchecks, hcalls, hreplies, _⟩ := h.exists_ledger
  apply hledger.lt_of_reported
  simpa only [Journal.Reported, Journal.Concluded, hchecks, hcalls, hreplies] using hreported

theorem Phase.reported_of_mem_reports {engine : Engine Host} {host : Host} {count : Nat}
    {pass : Pass Host} (h : engine.Phase host count pass) {index : Nat}
    (hmem : index ∈ pass.journal.reports) : pass.journal.Reported index := by
  obtain ⟨prior, hledger, _, hchecks, hcalls, hreplies, htakings⟩ := h.exists_ledger
  have hprior : index ∈ prior.journal.reports := by
    rwa [(Journal.reports_perm prior.journal).mem_iff, ← hchecks, ← htakings,
      ← (Journal.reports_perm pass.journal).mem_iff]
  simpa only [Journal.Reported, Journal.Concluded, hchecks, hcalls, hreplies] using
    hledger.reported_of_mem_reports hprior

/-- A custom rule whose verdict has been answered in the course of a pass has been answered under
its own ticket. -/
theorem Phase.answered_of_reported {engine : Engine Host} {host : Host} {count : Nat}
    {pass : Pass Host} (h : engine.Phase host count pass) {index : Nat}
    (hunchecked : index ∉ pass.journal.checks) {before : Journal}
    (hinitial : before <+: pass.journal) (hreported : before.Reported index) :
    ∃ outcome, (engine.ticketOf index, .answered outcome) ∈ before.replies := by
  obtain ⟨prior, hledger, _, _, hcalls, _⟩ := h.exists_ledger
  obtain ⟨rest, hrest⟩ := hinitial
  rw [← hrest, Journal.calls_append] at hcalls
  rcases hreported with hcheck | ⟨outcome, ticket, hcall, hreply⟩
  · exact absurd (by simp [← hrest, hcheck]) hunchecked
  · have hmem : (index, ticket) ∈ prior.journal.calls := by
      rw [← hcalls]
      exact List.mem_append_left _ hcall
    obtain rfl : ticket = engine.ticketOf index := hledger.ticket_eq _ hmem
    exact ⟨outcome, hreply⟩

/-- The journal of a pass without a fault.  After the walk comes what is collected at its end, for
which nothing is heard, and then what the host answers while the pass sleeps. -/
structure Segments (engine : Engine Host) (host : Host) (journal collected slept : Journal) :
    Prop where
  journal_eq : journal = collected ++ slept
  walk_isPrefix : (engine.atTurn host engine.rules.size).journal <+: collected
  reported : ∀ index ∈ collected.reports, collected.Reported index
  replies_eq : collected.replies = (engine.atTurn host engine.rules.size).journal.replies
  calls_eq : journal.calls = (engine.atTurn host engine.rules.size).journal.calls
  checks_eq : journal.checks = (engine.atTurn host engine.rules.size).journal.checks
  inOrder : engine.InOrder slept

/-- After the walk no rule is checked or called any more. -/
theorem Phase.calls_checks_eq {engine : Engine Host} {host : Host} {first second : Pass Host}
    (hfirst : engine.Phase host engine.rules.size first)
    (hsecond : engine.Phase host engine.rules.size second)
    (hinitial : first.journal <+: second.journal) :
    second.journal.calls = first.journal.calls ∧ second.journal.checks = first.journal.checks := by
  obtain ⟨prior, hledger, _, hchecks, hcalls, _⟩ := hfirst.exists_ledger
  obtain ⟨later, hledger', _, hchecks', hcalls', _⟩ := hsecond.exists_ledger
  constructor
  · have hsame : first.journal.calls.map Prod.fst = second.journal.calls.map Prod.fst := by
      rw [hcalls, hcalls', hledger.calls_eq, hledger'.calls_eq]
    have hlength := congrArg List.length hsame
    rw [List.length_map, List.length_map] at hlength
    exact ((hinitial.filterMap _).eq_of_length hlength).symm
  · rw [hchecks, hchecks', hledger.checks_eq, hledger'.checks_eq]

theorem exists_segments (engine : Engine Host) (turns : List (Turn Host)) (host : Host)
    (hfine : ∀ fault, (engine.exec turns host).ending ≠ .faulted fault) :
    ∃ collected slept,
      engine.Segments host (engine.exec turns host).journal collected slept ∧
      engine.SoundBelow host engine.rules.size ∧
      engine.Phase host engine.rules.size (engine.passWith turns host).1 := by
  rcases engine.passWith_cases turns host with
    ⟨hpass, hsound, hphase⟩ | ⟨_, fault, _, _, _, hpass⟩
  · have hempty := engine.running_of_empty host
    obtain ⟨hcollected, hsilent, _⟩ := engine.collected_spec hphase hempty
    obtain ⟨hinitial, hreplies⟩ := engine.collected_grows hphase hempty
    obtain ⟨slept, hslept, hinOrder⟩ := engine.sleep_inOrder hcollected hsilent turns
    have hjournal : (engine.exec turns host).journal =
        (engine.collected (engine.atTurn host engine.rules.size)).journal ++ slept := by
      rw [← hslept]
      exact congrArg (fun result => result.1.journal) hpass
    have hfinal : engine.Phase host engine.rules.size (engine.passWith turns host).1 := by
      rw [hpass]
      exact (engine.sleep_spec hcollected hsilent turns).1
    obtain ⟨hcalls, hchecks⟩ := hphase.calls_checks_eq hfinal
      (hinitial.trans ⟨slept, hjournal.symm⟩)
    exact ⟨_, slept, ⟨hjournal, hinitial, fun _ => hcollected.reported_of_mem_reports, hreplies,
      hcalls, hchecks, hinOrder⟩, hsound, hfinal⟩
  · exact absurd (congrArg Prod.snd hpass) (hfine fault)

/-- The report of an instance counts when a journal has come so far.  An answer that comes during
the walk, but after the call of its rule is over, counts when the walk is over. -/
def Counts (engine : Engine Host) (host : Host) (before : Journal) (index : Nat) : Prop :=
  before.Reported index ∧ (engine.ReportsAtTurn host index ∨
    (engine.atTurn host engine.rules.size).journal <+: before)

theorem atTurn_phase (engine : Engine Host) {host : Host} {index : Nat}
    (hindex : index ≤ engine.rules.size) (hsound : engine.SoundBelow host index) :
    engine.Phase host index (engine.atTurn host index) := by
  rcases engine.walk_cases host index hindex with
    ⟨_, _, hphase⟩ | ⟨earlier, hearlier, fault, hfault, _⟩
  · exact hphase
  · exact absurd hfault (hsound earlier hearlier fault)

/-- What is taken before the report that an instance makes at its turn has been reported when that
turn comes, at an earlier turn. -/
theorem reported_of_atTurn (engine : Engine Host) {host : Host} {index other : Nat}
    (hindex : index < engine.rules.size) (hsound : engine.SoundBelow host (index + 1))
    (hturn : engine.ReportsAtTurn host index) {journal : Journal}
    (hinitial : (engine.atTurn host (index + 1)).journal <+: journal)
    (hnodup : journal.reports.Nodup) {earlier later : List Nat}
    (hsplit : journal.reports = earlier ++ index :: later) (hother : other ∈ earlier) :
    (engine.atTurn host index).journal.Reported other ∧ engine.ReportsAtTurn host other := by
  have hbelow := hsound.mono (Nat.le_succ index)
  obtain ⟨hgrows, _⟩ :=
    (engine.atTurn_grows host hindex hsound).resolve_right fun h => h.2 hturn
  obtain ⟨rest, rfl⟩ := hinitial
  rw [Journal.reports_append, hgrows.reports_eq, List.append_assoc, List.singleton_append]
    at hsplit hnodup
  obtain ⟨_, htail, hapart⟩ := List.nodup_append.mp hnodup
  have hfront : index ∉ (engine.atTurn host index).journal.reports :=
    fun hmem => hapart _ hmem _ List.mem_cons_self rfl
  have hback : index ∉ Journal.reports rest := (List.nodup_cons.mp htail).1
  obtain ⟨rfl, _⟩ := (List.append_cons_inj_of_notMem hfront hback).mp hsplit
  refine ⟨(engine.atTurn_phase (Nat.le_of_lt hindex) hbelow).reported_of_mem_reports hother, ?_⟩
  exact ((engine.mem_reports_atTurn_iff host (Nat.le_of_lt hindex) hbelow other).mp hother).2

namespace Segments

variable {engine : Engine Host} {host : Host} {pass : Pass Host} {collected slept : Journal}

/-- After the walk no rule is checked or called any more. -/
theorem quiet (h : engine.Segments host pass.journal collected slept) :
    (collected.calls = (engine.atTurn host engine.rules.size).journal.calls ∧
      collected.checks = (engine.atTurn host engine.rules.size).journal.checks) ∧
    slept.calls = [] ∧ slept.checks = [] := by
  obtain ⟨late, hlate⟩ := h.walk_isPrefix
  have hcalls := h.calls_eq
  have hchecks := h.checks_eq
  rw [h.journal_eq, ← hlate, List.append_assoc] at hcalls hchecks
  simp only [Journal.calls_append, Journal.checks_append,
    List.append_right_eq_self, List.append_eq_nil_iff] at hcalls hchecks
  rw [← hlate]
  simp [hcalls, hchecks]

/-- What is collected at the end of the walk has been reported in the walk. -/
theorem reported_collected_iff (h : engine.Segments host pass.journal collected slept)
    (index : Nat) :
    collected.Reported index ↔ (engine.atTurn host engine.rules.size).journal.Reported index := by
  simp only [Journal.Reported, Journal.Concluded, h.quiet.1, h.replies_eq]

/-- A report that is taken during the sleep is an answer that has come during the sleep. -/
theorem answered_of_mem_slept (h : engine.Segments host pass.journal collected slept)
    (hphase : engine.Phase host engine.rules.size pass) {index : Nat}
    (hmem : index ∈ slept.reports) :
    (index, engine.ticketOf index) ∈ pass.journal.calls ∧
      engine.ticketOf index ∈ slept.replies.answers ∧ index ∉ pass.journal.checks := by
  have hanswer : engine.ticketOf index ∈ slept.replies.answers := by
    rw [← h.inOrder]
    exact List.mem_map_of_mem hmem
  obtain ⟨entry, hentry, hreport⟩ := (Journal.mem_reports_iff _ _).mp hmem
  rcases entry with _ | _ | _ | _ | ⟨_, outcome | _⟩ | _ <;> cases hreport
  · have hcheck := (Journal.mem_checks_iff _ _).mpr hentry
    rw [h.quiet.2.2] at hcheck
    exact absurd hcheck List.not_mem_nil
  · obtain ⟨prior, hledger, _, hchecks, hcalls, _, htakings⟩ := hphase.exists_ledger
    have htaken : (index, .answered outcome) ∈ prior.journal.takings := by
      rw [← htakings, h.journal_eq, Journal.takings_append]
      exact List.mem_append_right _ ((Journal.mem_takings_iff _ _ _).mpr hentry)
    obtain ⟨ticket, hcall, _⟩ := hledger.taken_concluded _ htaken
    obtain rfl : ticket = engine.ticketOf index := hledger.ticket_eq _ hcall
    rw [hcalls, hchecks]
    exact ⟨hcall, hanswer, hledger.not_checked_of_called hcall⟩

theorem replies_nodup (h : engine.Segments host pass.journal collected slept)
    (hphase : engine.Phase host engine.rules.size pass) :
    (collected.replies.map Prod.fst ++ slept.replies.map Prod.fst).Nodup := by
  obtain ⟨prior, hledger, _, _, _, hreplies, _⟩ := hphase.exists_ledger
  have hnodup := hledger.heard_nodup
  rwa [← hreplies, h.journal_eq, Journal.replies_append, List.map_append] at hnodup

/-- Of two reports that are taken during the sleep, the first has come if the second has. -/
theorem reported_of_slept (h : engine.Segments host pass.journal collected slept)
    (hphase : engine.Phase host engine.rules.size pass) {index other : Nat}
    {earlier later : List Nat} (hsplit : slept.reports = earlier ++ index :: later)
    (hother : other ∈ earlier) {before : Journal} (hinitial : before <+: pass.journal)
    (hwalk : (engine.atTurn host engine.rules.size).journal <+: before)
    (hreported : before.Reported index) : before.Reported other := by
  have hmem : index ∈ slept.reports := by simp [hsplit]
  have hmem' : other ∈ slept.reports := by simp [hsplit, hother]
  obtain ⟨_, hanswer, hunchecked⟩ := h.answered_of_mem_slept hphase hmem
  obtain ⟨hcall, _, _⟩ := h.answered_of_mem_slept hphase hmem'
  obtain ⟨outcome, hheard⟩ := hphase.answered_of_reported hunchecked hinitial hreported
  have hnodup := h.replies_nodup hphase
  have hlate : (engine.ticketOf index, .answered outcome) ∉ collected.replies := by
    intro hearly
    obtain ⟨again, hmem⟩ := (slept.replies.mem_answers_iff _).mp hanswer
    exact (List.nodup_append.mp hnodup).2.2 _ (List.mem_map_of_mem hearly) _
      (List.mem_map_of_mem hmem) rfl
  rcases List.prefix_or_prefix_of_prefix hinitial ⟨slept, h.journal_eq.symm⟩ with
    ⟨rest, hrest⟩ | ⟨first, rfl⟩
  · exact absurd (by simp [← hrest, hheard]) hlate
  · obtain ⟨second, hsecond⟩ := hinitial
    have hslept : slept = first ++ second := by
      have hboth := hsecond.trans h.journal_eq
      rw [List.append_assoc] at hboth
      exact (List.append_cancel_left hboth).symm
    have hfirst : engine.ticketOf index ∈ (Journal.replies first).answers := by
      rw [Journal.replies_append, List.mem_append] at hheard
      exact (Replies.mem_answers_iff _ _).mpr ⟨outcome, hheard.resolve_left hlate⟩
    have hanswers : (Journal.replies first).answers ++ (Journal.replies second).answers =
        earlier.map engine.ticketOf ++
          engine.ticketOf index :: later.map engine.ticketOf := by
      rw [← Replies.answers_append, ← Journal.replies_append, ← hslept, ← h.inOrder, hsplit,
        List.map_append, List.map_cons]
    have hunique : ((Journal.replies first).answers ++
        (Journal.replies second).answers).Nodup := by
      rw [← Replies.answers_append, ← Journal.replies_append, ← hslept]
      exact (List.nodup_append.mp hnodup).2.1.sublist (List.filter_sublist.map _)
    obtain ⟨found, hfound⟩ := (Replies.mem_answers_iff _ _).mp
      (mem_of_nodup_append hanswers hunique hfirst (List.mem_map_of_mem hother))
    rw [h.calls_eq] at hcall
    obtain ⟨late, hlate⟩ := hwalk
    refine Or.inr ⟨found, engine.ticketOf other, ?_, by simp [hfound]⟩
    rw [← hlate, Journal.calls_append]
    exact List.mem_append_left _ hcall

theorem atTurn_isPrefix (h : engine.Segments host pass.journal collected slept)
    (hsound : engine.SoundBelow host engine.rules.size) {index : Nat}
    (hindex : index ≤ engine.rules.size) :
    (engine.atTurn host index).journal <+: pass.journal :=
  (engine.atTurn_isPrefix host hindex (Nat.le_refl _) hsound).trans
    (h.walk_isPrefix.trans ⟨slept, h.journal_eq.symm⟩)

/-- What is taken before a report counts when that report counts. -/
theorem counts_of_earlier (h : engine.Segments host pass.journal collected slept)
    (hsound : engine.SoundBelow host engine.rules.size)
    (hphase : engine.Phase host engine.rules.size pass) {index other : Nat}
    {earlier later : List Nat} (hsplit : pass.journal.reports = earlier ++ index :: later)
    (hother : other ∈ earlier) (hindex : index < engine.rules.size) {before : Journal}
    (hinitial : before <+: pass.journal) (hcounts : engine.Counts host before index) :
    engine.Counts host before other := by
  obtain ⟨hreported, hturn | hwalk⟩ := hcounts
  · obtain ⟨hearly, hother⟩ := engine.reported_of_atTurn hindex (hsound.mono hindex) hturn
      (h.atTurn_isPrefix hsound hindex) hphase.reports_nodup hsplit hother
    have hwhole := h.atTurn_isPrefix hsound (Nat.le_of_lt hindex)
    have hphase := engine.atTurn_phase (Nat.le_of_lt hindex) (hsound.mono (Nat.le_of_lt hindex))
    rcases List.prefix_or_prefix_of_prefix hinitial hwhole with hshort | hlong
    · -- The journal so far does not go beyond the turn of the instance that has reported.
      exact absurd (hphase.lt_of_reported (hreported.of_isPrefix hshort)) (Nat.lt_irrefl index)
    · exact ⟨hearly.of_isPrefix hlong, Or.inl hother⟩
  · refine ⟨?_, Or.inr hwalk⟩
    by_cases hearly : other ∈ collected.reports
    · exact ((h.reported_collected_iff other).mp (h.reported other hearly)).of_isPrefix hwalk
    · rw [h.journal_eq, Journal.reports_append] at hsplit
      rcases List.append_eq_append_iff.mp hsplit with ⟨middle, rfl, hslept⟩ | ⟨middle, hall, _⟩
      · rcases List.mem_append.mp hother with hold | hother
        · exact absurd hold hearly
        · exact h.reported_of_slept hphase hslept hother hinitial hwalk hreported
      · exact absurd (by simp [hall, hother]) hearly

end Segments

/-- The report of one instance counts before that of another. -/
def CountsBefore (engine : Engine Host) (host : Host) (journal : Journal) (first second : Nat) :
    Prop :=
  ∃ before : Journal, before <+: journal ∧ engine.Counts host before first ∧
    ¬ engine.Counts host before second

/-- A pass that completes has seen every report before it announces its end. -/
theorem Fate.exists_prior {engine : Engine Host} {host : Host} {pass : Pass Host}
    {conclusion : Conclusion}
    (h : engine.Fate host pass (.returned (.ofConclusion conclusion))) :
    ∃ prior after, pass = Pass.ended prior after ∧
      engine.Ledger host engine.rules.size prior ∧ prior.awaited = [] := by
  generalize hending : Ending.returned (.ofConclusion conclusion) = ending at h
  cases h with
  | completed after sound running finished =>
      exact ⟨_, after, rfl, running.ledger, (running.all_reported finished).2.2⟩
  | faulted | incomplete | abandoned => cases conclusion <;> cases hending

/-- Whose message a field keeps when a pass completes.  Where no instance is one of a combined
field, each field on which an instance fails keeps, under both of its names, the message of a
failing instance such that no other instance that fails on the field reports later.  A registered
rule reports when it decides, a custom rule when its verdict is answered, but for an answer that
comes during the walk after the call of its rule is over: such a report counts as coming at the end
of the walk. -/
theorem kept_of_exec (engine : Engine Host) (turns : List (Turn Host)) (host : Host)
    {conclusion : Conclusion}
    (hcompletes : (engine.exec turns host).ending = .returned (.ofConclusion conclusion))
    (hplain : engine.Plain) (field : String) :
    let report := engine.exec turns host
    let errors := report.engine.errors
    (∃ index, engine.FailsOn host report.journal field index) →
      ∃ index message, engine.FailsOn host report.journal field index ∧
        engine.messageAt? index = some message ∧
        (∀ other, engine.FailsOn host report.journal field other →
          ¬ engine.CountsBefore host report.journal index other) ∧
        errors.short.get? field = some message ∧
        errors.full.get? (qualify engine.settings.scope field) = some message := by
  intro report errors hfails
  obtain ⟨collected, slept, hsegments, hsound, hphase⟩ :=
    engine.exists_segments turns host (by simp [hcompletes])
  have hfate := engine.passWith_fate turns host
  have hending : (engine.passWith turns host).2 = .returned (.ofConclusion conclusion) := hcompletes
  rw [hending] at hfate
  obtain ⟨prior, after, hended, hledger, hawaited⟩ := hfate.exists_prior
  have hjournal : report.journal = (prior.ended after).journal := congrArg Pass.journal hended
  have herrors : errors = prior.errors := by
    simp only [errors, report, exec, hended]
    rfl
  have hreports : report.journal.reports = prior.journal.reports := by
    simp [hjournal, Pass.ended]
  have hsame : ∀ index, engine.FailsOn host report.journal field index ↔
      engine.FailsOn host prior.journal field index := by
    simp [FailsOn, FailsIn, Journal.Concluded, hjournal, Pass.ended]
  simp only [hsame] at hfails ⊢
  obtain ⟨index, message, earlier, later, hindex, hmessage, hsplit, hothers, hkept⟩ :=
    hledger.exists_last_report hawaited hplain hfails
  have hfull : prior.errors.full = prior.errors.short.qualified engine.settings.scope := by
    rw [hledger.errors_eq]
    exact ErrorStore.full_recordAll_eq engine.settings.scope _
  rw [herrors, hfull, MessageMap.get?_qualified]
  refine ⟨index, message, hindex, hmessage, ?_, hkept, hkept⟩
  rintro other hother ⟨before, hinitial, hcounts, hlate⟩
  rcases hothers other hother with rfl | hearlier
  · exact hlate hcounts
  · obtain ⟨_, inst, hinst, _⟩ := hindex
    have hlt : index < engine.rules.size := (List.getElem?_eq_some_iff.mp hinst).1
    exact hlate (hsegments.counts_of_earlier hsound hphase (hreports.trans hsplit) hearlier hlt
      hinitial hcounts)

/-- A custom rule that says nothing within its call. -/
def saysNothing : CustomRule Unit := fun _ _ _ => ((), [])

/-- A custom rule that fails the first verdict of an engine, and passes its own. -/
def failsFirst : CustomRule Unit := fun _ ticket _ =>
  ((), [(0, .answered .fail), (ticket, .answered .pass)])

/-- A form in which the verdict of the custom rule on the name is answered with a failure during the
walk, from the call of the rule on the code, before the name is found missing. -/
def lateAnswer : Engine Unit :=
  (((new (fun _ => Fields.empty.toSource) {} (.ofList [Rule.present])).edit
    (.extend ["name"] saysNothing (some "taken"))).edit
    (.extend ["code"] failsFirst none)).edit (.attach ["name"] "present" [])

theorem failsOn_lateAnswer_iff (index : Nat) :
    lateAnswer.FailsOn () (lateAnswer.exec [] ()).journal "name" index ↔
      index = 0 ∨ index = 2 := by
  constructor
  · rintro ⟨_, inst, hinst, hfield⟩
    rcases index with _ | _ | _ | _
    · exact Or.inl rfl
    · cases hinst
      exact absurd hfield (by decide)
    · exact Or.inr rfl
    · cases hinst
  · rintro (rfl | rfl)
    · exact ⟨Or.inr ⟨0, by decide, by decide⟩, _, rfl, rfl⟩
    · exact ⟨Or.inl ⟨_, "present", [], rfl, rfl, Rule.present, rfl, rfl, rfl⟩, _, rfl, rfl⟩

/-- The answer counts after the walk. -/
theorem countsBefore_lateAnswer :
    lateAnswer.CountsBefore () (lateAnswer.exec [] ()).journal 2 0 := by
  refine ⟨(lateAnswer.exec [] ()).journal.take 7, List.take_prefix _ _,
    ⟨Or.inl (by decide), Or.inl (Or.inl (by decide))⟩, ?_⟩
  rintro ⟨_, hturn | hwalk⟩
  · have hchecks : (lateAnswer.atTurn () 1).journal.checks = [] := by decide
    have hreplies : (lateAnswer.atTurn () 1).journal.replies = [] := by decide
    simp [ReportsAtTurn, Journal.Reported, Journal.Concluded, hchecks, hreplies] at hturn
  · have hlength := hwalk.length_le
    revert hlength
    decide

/-- The name keeps the message of the custom rule. -/
theorem kept_of_lateAnswer :
    (lateAnswer.exec [] ()).ending = .returned .failed ∧
      (lateAnswer.exec [] ()).engine.errors.short.get? "name" = some "taken" := by
  have hending : (lateAnswer.exec [] ()).ending = .returned (.ofConclusion .failed) := by decide
  have hplain : lateAnswer.Plain := by
    intro inst _
    rfl
  have hfails := (failsOn_lateAnswer_iff 0).mpr (.inl rfl)
  obtain ⟨index, message, hindex, hmessage, hlast, hkept, _⟩ :=
    kept_of_exec lateAnswer [] () hending hplain "name" ⟨0, hfails⟩
  refine ⟨hending, ?_⟩
  rw [hkept, ← hmessage]
  rcases (failsOn_lateAnswer_iff index).mp hindex with rfl | rfl
  · rfl
  · exact absurd countsBefore_lateAnswer (hlast 0 hfails)

/-- The name does not keep the message of the rule that reports last. -/
theorem overtaken_of_lateAnswer :
    let report := lateAnswer.exec [] ()
    report.ending = .returned .failed ∧ lateAnswer.Plain ∧
    ¬ ∀ field index, lateAnswer.FailsOn () report.journal field index →
      (∀ other, lateAnswer.FailsOn () report.journal field other → other ≠ index →
        report.journal.ReportsBefore other index) →
      report.engine.errors.short.get? field = lateAnswer.messageAt? index := by
  intro report
  refine ⟨by decide, fun _ _ => rfl, fun hlast => ?_⟩
  have hkept := hlast "name" 2 ((failsOn_lateAnswer_iff 2).mpr (.inr rfl)) ?_
  · revert hkept
    decide
  · intro other hother hne
    obtain rfl := ((failsOn_lateAnswer_iff other).mp hother).resolve_right hne
    refine ⟨report.journal.take 5, List.take_prefix _ _,
      Or.inr ⟨.fail, 0, by decide, by decide⟩, ?_⟩
    rintro (hcheck | ⟨_, _, hcall, _⟩)
    · revert hcheck
      decide
    · have hcalls : (Journal.calls (report.journal.take 5)).map Prod.fst = [0, 1] := by decide
      have hindex := List.mem_map_of_mem (f := Prod.fst) hcall
      rw [hcalls] at hindex
      simp at hindex

end Engine

end FormRules
