/-
The ledger of a pass.

At each moment of a pass every instance that has had its turn is accounted for exactly once: it has
been checked, its verdict has been taken over, or its verdict is awaited.  The counts of the pass
and its store of failures are those that the journal tells.
-/
import FormRules.Proofs.Pass.AtTurn
import FormRules.Proofs.Pass.Frame
import Mathlib.Data.List.Nodup
import Mathlib.Data.List.Perm.Basic

namespace FormRules

variable {Host : Type}

/-- Whether a verdict was concluded by an answer. -/
def Reply.isAnswered : Reply → Bool
  | .answered _ => true
  | .dropped => false

namespace Journal

/-- The host has concluded the verdict of the custom instance at an index. -/
def Concluded (journal : Journal) (index : Nat) (reply : Reply) : Prop :=
  ∃ ticket, (index, ticket) ∈ journal.calls ∧ (ticket, reply) ∈ journal.replies

theorem Concluded.mono {journal : Journal} {index : Nat} {reply : Reply}
    (h : journal.Concluded index reply) (more : Journal) :
    Concluded (journal ++ more) index reply := by
  obtain ⟨ticket, hcall, hreply⟩ := h
  exact ⟨ticket, by simp [hcall], by simp [hreply]⟩

end Journal

namespace Engine

/-- The failures that an entry of the journal leads to. -/
def failuresOf (engine : Engine Host) (host : Host) : Entry → List (String × String)
  | .checked index => engine.checkFailures host index
  | .taken index reply => engine.verdictFailures index reply
  | _ => []

theorem flatMap_failuresOf_ofReplies (engine : Engine Host) (host : Host) (given : Replies) :
    (Journal.ofReplies given).flatMap (engine.failuresOf host) = [] := by
  simp [Journal.ofReplies, List.flatMap_map, failuresOf]

theorem flatMap_failuresOf_ofRecords (engine : Engine Host) (host : Host)
    (failures : List (String × String)) :
    (Journal.ofRecords failures).flatMap (engine.failuresOf host) = [] := by
  simp [Journal.ofRecords, List.flatMap_map, failuresOf]

/-- The ticket of the verdict of the custom instance at an index in the next pass. -/
def ticketOf (engine : Engine Host) (index : Nat) : Ticket :=
  engine.issued + ((List.range index).filter engine.rules.isCustom).length

/-- The call of the custom rule of the instance at an index in the next pass. -/
def callOf (engine : Engine Host) (index : Nat) (inst : RuleInstance Host)
    (rule : CustomRule Host) : Turn Host :=
  fun host => rule (engine.customInput host inst.field) (engine.ticketOf index) host

theorem ticketOf_lt (engine : Engine Host) {first second : Nat}
    (hcustom : engine.rules.isCustom first = true) (h : first < second) :
    engine.ticketOf first < engine.ticketOf second := by
  have hsublist : (List.range (first + 1)).Sublist (List.range second) := by
    rw [List.range_sublist]
    exact h
  have hlength := (hsublist.filter engine.rules.isCustom).length_le
  rw [List.range_succ, List.filter_append, List.length_append] at hlength
  simp only [List.filter_cons, hcustom, ↓reduceIte, List.filter_nil, List.length_singleton]
    at hlength
  exact Nat.add_lt_add_left hlength engine.issued

/-- A ticket belongs to one custom instance. -/
theorem ticketOf_injective (engine : Engine Host) {first second : Nat}
    (hfirst : engine.rules.isCustom first = true) (hsecond : engine.rules.isCustom second = true)
    (h : engine.ticketOf first = engine.ticketOf second) : first = second := by
  rcases Nat.lt_trichotomy first second with hlt | heq | hgt
  · exact absurd h (Nat.ne_of_lt (engine.ticketOf_lt hfirst hlt))
  · exact heq
  · exact absurd h.symm (Nat.ne_of_lt (engine.ticketOf_lt hsecond hgt))

/-- The accounts of a pass in which the first `count` instances have had their turn. -/
structure Ledger (engine : Engine Host) (host : Host) (count : Nat) (pass : Pass Host) : Prop where
  count_le : count ≤ engine.rules.size
  checks_eq : pass.journal.checks = (List.range count).filter engine.rules.isRegistered
  calls_eq : pass.journal.calls.map Prod.fst = (List.range count).filter engine.rules.isCustom
  tickets_eq : pass.journal.calls.map Prod.snd =
    List.range' pass.firstTicket pass.journal.calls.length
  ticket_eq : ∀ call ∈ pass.journal.calls, call.2 = engine.ticketOf call.1
  firstTicket_eq : pass.firstTicket = engine.issued
  issued_eq : pass.issued = pass.firstTicket + pass.journal.calls.length
  heard_called : ∀ entry ∈ pass.journal.replies, entry.1 ∈ pass.journal.calls.map Prod.snd
  heard_nodup : (pass.journal.replies.map Prod.fst).Nodup
  awaited_called : ∀ entry ∈ pass.awaited, entry ∈ pass.journal.calls
  taken_concluded : ∀ entry ∈ pass.journal.takings, pass.journal.Concluded entry.1 entry.2
  taken_or_awaited : (pass.journal.takings.map Prod.fst ++ pass.awaited.map Prod.fst).Perm
    (pass.journal.calls.map Prod.fst)
  reported_eq : pass.reported = pass.journal.checks.length +
    pass.journal.takings.countP fun entry => entry.2.isAnswered
  dropped_eq : pass.dropped = pass.journal.takings.countP fun entry => !entry.2.isAnswered
  records_eq : pass.journal.records = pass.journal.flatMap (engine.failuresOf host)
  errors_eq : pass.errors =
    ErrorStore.empty.recordAll engine.settings.scope pass.journal.records

namespace Ledger

variable {engine : Engine Host} {host : Host} {count : Nat} {pass : Pass Host}

theorem calls_fst_nodup (h : engine.Ledger host count pass) :
    (pass.journal.calls.map Prod.fst).Nodup := by
  rw [h.calls_eq]
  exact List.nodup_range.filter _

theorem calls_snd_nodup (h : engine.Ledger host count pass) :
    (pass.journal.calls.map Prod.snd).Nodup := by
  rw [h.tickets_eq]
  exact List.nodup_range'

theorem ticket_unique (h : engine.Ledger host count pass) {index first second : Nat}
    (hfirst : (index, first) ∈ pass.journal.calls)
    (hsecond : (index, second) ∈ pass.journal.calls) : first = second :=
  congrArg Prod.snd (List.inj_on_of_nodup_map h.calls_fst_nodup hfirst hsecond rfl)

theorem reply_unique (h : engine.Ledger host count pass) {ticket : Ticket} {first second : Reply}
    (hfirst : (ticket, first) ∈ pass.journal.replies)
    (hsecond : (ticket, second) ∈ pass.journal.replies) : first = second :=
  congrArg Prod.snd (List.inj_on_of_nodup_map h.heard_nodup hfirst hsecond rfl)

theorem mem_checks_iff (h : engine.Ledger host count pass) (index : Nat) :
    index ∈ pass.journal.checks ↔ index < count ∧ engine.rules.isRegistered index = true := by
  rw [h.checks_eq, List.mem_filter, List.mem_range]

theorem mem_calls_fst_iff (h : engine.Ledger host count pass) (index : Nat) :
    index ∈ pass.journal.calls.map Prod.fst ↔
      index < count ∧ engine.rules.isCustom index = true := by
  rw [h.calls_eq, List.mem_filter, List.mem_range]

/-- The next ticket is the one that the instance whose turn comes gets if it is called. -/
theorem issued_eq_ticketOf (h : engine.Ledger host count pass) :
    pass.issued = engine.ticketOf count := by
  rw [h.issued_eq, h.firstTicket_eq, ticketOf, ← h.calls_eq, List.length_map]

/-- A ticket of this pass was given out with a call. -/
theorem mem_tickets_iff (h : engine.Ledger host count pass) (ticket : Ticket) :
    ticket ∈ pass.journal.calls.map Prod.snd ↔
      pass.firstTicket ≤ ticket ∧ ticket < pass.issued := by
  rw [h.tickets_eq, List.mem_range'_1, h.issued_eq]

/-- The ticket of an awaited verdict is open until it is replied to. -/
theorem isOpen_of_awaited (h : engine.Ledger host count pass) {entry : Nat × Ticket}
    (hentry : entry ∈ pass.awaited) (hsilent : pass.reply? entry.2 = none) :
    pass.isOpen entry.2 = true := by
  rw [Pass.isOpen_iff, ← h.mem_tickets_iff]
  exact ⟨List.mem_map_of_mem (h.awaited_called entry hentry),
    (Pass.reply?_eq_none_iff _ _).mp hsilent⟩

/-- A call whose verdict is not awaited any more has been taken over as it was concluded. -/
theorem taken_of_not_awaited (h : engine.Ledger host count pass) {index : Nat} {ticket : Ticket}
    (hcall : (index, ticket) ∈ pass.journal.calls)
    (hdone : index ∉ pass.awaited.map Prod.fst) :
    ∃ reply, (index, reply) ∈ pass.journal.takings ∧ (ticket, reply) ∈ pass.journal.replies := by
  have hindex : index ∈ pass.journal.takings.map Prod.fst ++ pass.awaited.map Prod.fst :=
    h.taken_or_awaited.mem_iff.mpr (List.mem_map_of_mem hcall)
  rcases List.mem_append.mp hindex with htaken | hawaited
  · obtain ⟨⟨_, reply⟩, hmem, rfl⟩ := List.mem_map.mp htaken
    obtain ⟨other, hother, hreply⟩ := h.taken_concluded _ hmem
    obtain rfl := h.ticket_unique hcall hother
    exact ⟨reply, hmem, hreply⟩
  · exact absurd hawaited hdone

/-- An open ticket has been given out and has no reply, so that its verdict is awaited. -/
theorem awaited_of_isOpen (h : engine.Ledger host count pass) {ticket : Ticket}
    (hopen : pass.isOpen ticket = true) : ticket ∈ pass.awaited.map Prod.snd := by
  rw [Pass.isOpen_iff, ← h.mem_tickets_iff] at hopen
  obtain ⟨hticket, hsilent⟩ := hopen
  obtain ⟨⟨index, ticket⟩, hcall, rfl⟩ := List.mem_map.mp hticket
  by_contra hgone
  have hdone : index ∉ pass.awaited.map Prod.fst := by
    intro hindex
    obtain ⟨⟨_, waiting⟩, hwaits, rfl⟩ := List.mem_map.mp hindex
    obtain rfl := h.ticket_unique hcall (h.awaited_called _ hwaits)
    exact hgone (List.mem_map_of_mem hwaits)
  obtain ⟨reply, _, hreply⟩ := h.taken_of_not_awaited hcall hdone
  exact hsilent (List.mem_map_of_mem hreply)

/-- Every instance that has had its turn is counted once. -/
theorem counts_eq (h : engine.Ledger host count pass) :
    pass.reported + pass.dropped + pass.awaited.length = count := by
  have hkinds : pass.journal.checks.length + pass.journal.calls.length = count := by
    have hcustom : (List.range count).filter engine.rules.isCustom =
        (List.range count).filter fun index => !engine.rules.isRegistered index := by
      apply List.filter_congr
      intro index hindex
      exact engine.rules.isCustom_eq_not_isRegistered
        (Nat.lt_of_lt_of_le (List.mem_range.mp hindex) h.count_le)
    have hlength : pass.journal.calls.length =
        ((List.range count).filter engine.rules.isCustom).length := by
      rw [← h.calls_eq, List.length_map]
    have hsplit := List.length_eq_length_filter_add (l := List.range count)
      engine.rules.isRegistered
    rw [List.length_range] at hsplit
    rw [hlength, hcustom, h.checks_eq]
    exact hsplit.symm
  have hverdicts : pass.journal.takings.length + pass.awaited.length =
      pass.journal.calls.length := by
    have := h.taken_or_awaited.length_eq
    simpa using this
  have hreplies := List.length_eq_countP_add_countP (l := pass.journal.takings)
    fun entry => entry.2.isAnswered
  simp only [Bool.not_eq_true, Bool.decide_eq_false] at hreplies
  rw [h.reported_eq, h.dropped_eq]
  omega

/-- Once every instance has reported no ticket is open any more. -/
theorem closed (h : engine.Ledger host count pass) (hawaited : pass.awaited = [])
    (ticket : Ticket) : pass.isOpen ticket = false := by
  rw [← Bool.not_eq_true]
  intro hopen
  have hmem := h.awaited_of_isOpen hopen
  rw [hawaited] at hmem
  exact List.not_mem_nil hmem

/-- Hearing replies changes no account. -/
theorem hear (h : engine.Ledger host count pass) {news : Replies} (hnews : pass.Fresh news)
    (turned : Host) :
    engine.Ledger host count
      { pass with host := turned, journal := pass.journal ++ Journal.ofReplies news } where
  count_le := h.count_le
  checks_eq := by simpa using h.checks_eq
  calls_eq := by simpa using h.calls_eq
  tickets_eq := by simpa using h.tickets_eq
  ticket_eq := by simpa using h.ticket_eq
  firstTicket_eq := h.firstTicket_eq
  issued_eq := by simpa using h.issued_eq
  heard_called := by
    intro entry hentry
    simp only [Journal.replies_append, Journal.views_ofReplies, List.mem_append] at hentry
    simp only [Journal.calls_append, Journal.views_ofReplies, List.append_nil]
    rcases hentry with hold | hnew
    · exact h.heard_called entry hold
    · exact (h.mem_tickets_iff _).mpr ((Pass.isOpen_iff _ _).mp (hnews.isOpen entry hnew)).1
  heard_nodup := by
    simp only [Journal.replies_append, Journal.views_ofReplies, List.map_append,
      List.nodup_append]
    refine ⟨h.heard_nodup, hnews.nodup, ?_⟩
    rintro ticket hold _ hnew rfl
    obtain ⟨entry, hentry, rfl⟩ := List.mem_map.mp hnew
    exact ((Pass.isOpen_iff _ _).mp (hnews.isOpen entry hentry)).2 hold
  awaited_called := by simpa using h.awaited_called
  taken_concluded := by
    intro entry hentry
    simp only [Journal.takings_append, Journal.views_ofReplies, List.append_nil] at hentry
    exact (h.taken_concluded entry hentry).mono _
  taken_or_awaited := by simpa using h.taken_or_awaited
  reported_eq := by simpa using h.reported_eq
  dropped_eq := by simpa using h.dropped_eq
  records_eq := by
    simpa [engine.flatMap_failuresOf_ofReplies] using h.records_eq
  errors_eq := by simpa using h.errors_eq

/-- A check of the next instance is a report. -/
theorem check (h : engine.Ledger host count pass) (hcount : count < engine.rules.size)
    (hregistered : engine.rules.isRegistered count = true) :
    engine.Ledger host (count + 1)
      { engine.recordAll (engine.checkFailures host count) (pass.note (.checked count)) with
        reported := pass.reported + 1 } where
  count_le := hcount
  checks_eq := by
    simp [recordAll, Pass.note, h.checks_eq, List.range_succ, hregistered]
  calls_eq := by
    have hcustom := engine.rules.isCustom_eq_not_isRegistered hcount
    simp [recordAll, Pass.note, h.calls_eq, List.range_succ, hcustom, hregistered]
  tickets_eq := by simpa [recordAll, Pass.note] using h.tickets_eq
  ticket_eq := by simpa [recordAll, Pass.note] using h.ticket_eq
  firstTicket_eq := h.firstTicket_eq
  issued_eq := by simpa [recordAll, Pass.note] using h.issued_eq
  heard_called := by simpa [recordAll, Pass.note] using h.heard_called
  heard_nodup := by simpa [recordAll, Pass.note] using h.heard_nodup
  awaited_called := by simpa [recordAll, Pass.note] using h.awaited_called
  taken_concluded := by
    intro entry hentry
    simp only [recordAll, Pass.note, List.append_assoc] at hentry ⊢
    exact (h.taken_concluded entry (by simpa using hentry)).mono _
  taken_or_awaited := by simpa [recordAll, Pass.note] using h.taken_or_awaited
  reported_eq := by
    simp only [recordAll, Pass.note, h.reported_eq, Journal.checks_append, Journal.checks_cons,
      Journal.checks_nil, Journal.views_ofRecords, Journal.takings_append, Journal.takings_cons,
      Journal.takings_nil, List.append_nil, List.length_append, List.length_singleton]
    omega
  dropped_eq := by simpa [recordAll, Pass.note] using h.dropped_eq
  records_eq := by
    simp [recordAll, Pass.note, h.records_eq, failuresOf, engine.flatMap_failuresOf_ofRecords]
  errors_eq := by
    simp [recordAll, Pass.note, h.errors_eq, ErrorStore.recordAll, List.foldl_append]

/-- A call of the next instance makes its verdict awaited. -/
theorem call (h : engine.Ledger host count pass) (hcount : count < engine.rules.size)
    (hcustom : engine.rules.isCustom count = true) (input : CustomInput) :
    engine.Ledger host (count + 1)
      { pass.note (.called count input pass.issued) with
        issued := pass.issued + 1
        awaited := pass.awaited ++ [(count, pass.issued)] } where
  count_le := hcount
  checks_eq := by
    have hkind := engine.rules.isCustom_eq_not_isRegistered hcount
    have hregistered : engine.rules.isRegistered count = false := by simpa [hcustom] using hkind
    simp [Pass.note, h.checks_eq, List.range_succ, hregistered]
  calls_eq := by simp [Pass.note, h.calls_eq, List.range_succ, hcustom]
  tickets_eq := by
    simp [Pass.note, h.tickets_eq, h.issued_eq, List.range'_1_concat]
  ticket_eq := by
    intro call hcall
    simp only [Pass.note, Journal.calls_append, Journal.calls_cons, Journal.calls_nil,
      List.append_nil, List.mem_append, List.mem_singleton] at hcall
    rcases hcall with hold | rfl
    · exact h.ticket_eq call hold
    · exact h.issued_eq_ticketOf
  firstTicket_eq := h.firstTicket_eq
  issued_eq := by
    simp only [Pass.note, h.issued_eq, Journal.calls_append, Journal.calls_cons,
      Journal.calls_nil, List.append_nil, List.length_append, List.length_singleton]
    omega
  heard_called := by
    intro entry hentry
    simp only [Pass.note, Journal.replies_append, Journal.replies_cons, Journal.replies_nil,
      List.append_nil] at hentry
    simp only [Pass.note, Journal.calls_append, List.map_append, List.mem_append]
    exact Or.inl (h.heard_called entry hentry)
  heard_nodup := by simpa [Pass.note] using h.heard_nodup
  awaited_called := by
    intro entry hentry
    simp only [Pass.note, Journal.calls_append, Journal.calls_cons, Journal.calls_nil,
      List.append_nil, List.mem_append] at hentry ⊢
    rcases hentry with hold | hnew
    · exact Or.inl (h.awaited_called entry hold)
    · exact Or.inr hnew
  taken_concluded := by
    intro entry hentry
    exact (h.taken_concluded entry (by simpa [Pass.note] using hentry)).mono _
  taken_or_awaited := by
    have := h.taken_or_awaited.append_right [count]
    simpa [Pass.note] using this
  reported_eq := by simpa [Pass.note] using h.reported_eq
  dropped_eq := by simpa [Pass.note] using h.dropped_eq
  records_eq := by simpa [Pass.note, failuresOf] using h.records_eq
  errors_eq := by simpa [Pass.note] using h.errors_eq

/-- Of the awaited verdicts only one bears a ticket. -/
theorem awaited_perm (h : engine.Ledger host count pass) {index : Nat} {ticket : Ticket}
    (hmem : (index, ticket) ∈ pass.awaited) :
    pass.awaited.Perm
      ((index, ticket) :: pass.awaited.filter fun entry => entry.2 != ticket) := by
  have hnodup : pass.awaited.Nodup := by
    have := h.taken_or_awaited.nodup_iff.mpr h.calls_fst_nodup
    exact (List.nodup_append.mp this).2.1.of_map
  have hrest : pass.awaited.erase (index, ticket) =
      pass.awaited.filter fun entry => entry.2 != ticket := by
    rw [hnodup.erase_eq_filter]
    apply List.filter_congr
    intro entry hentry
    have hsame : entry = (index, ticket) ↔ entry.2 = ticket := by
      constructor
      · rintro rfl
        rfl
      · intro hticket
        exact List.inj_on_of_nodup_map h.calls_snd_nodup (h.awaited_called entry hentry)
          (h.awaited_called _ hmem) hticket
    rw [Bool.eq_iff_iff, bne_iff_ne, bne_iff_ne, ne_eq, ne_eq, hsame]
  rw [← hrest]
  exact List.perm_cons_erase hmem

/-- Taking over the conclusion of an awaited verdict counts it. -/
theorem take (h : engine.Ledger host count pass) {index : Nat} {ticket : Ticket} {reply : Reply}
    (hmem : (index, ticket) ∈ pass.awaited) (hreply : (ticket, reply) ∈ pass.journal.replies) :
    engine.Ledger host count
      { engine.recordAll (engine.verdictFailures index reply) (pass.note (.taken index reply)) with
        awaited := pass.awaited.filter fun entry => entry.2 != ticket
        reported := pass.reported + if reply.isAnswered then 1 else 0
        dropped := pass.dropped + if reply.isAnswered then 0 else 1 } where
  count_le := h.count_le
  checks_eq := by simpa [recordAll, Pass.note] using h.checks_eq
  calls_eq := by simpa [recordAll, Pass.note] using h.calls_eq
  tickets_eq := by simpa [recordAll, Pass.note] using h.tickets_eq
  ticket_eq := by simpa [recordAll, Pass.note] using h.ticket_eq
  firstTicket_eq := h.firstTicket_eq
  issued_eq := by simpa [recordAll, Pass.note] using h.issued_eq
  heard_called := by simpa [recordAll, Pass.note] using h.heard_called
  heard_nodup := by simpa [recordAll, Pass.note] using h.heard_nodup
  awaited_called := by
    intro entry hentry
    simpa [recordAll, Pass.note] using
      h.awaited_called entry (List.mem_filter.mp hentry).1
  taken_concluded := by
    intro entry hentry
    simp only [recordAll, Pass.note, List.append_assoc] at hentry ⊢
    simp only [Journal.takings_append, Journal.takings_cons, Journal.takings_nil,
      Journal.views_ofRecords, List.append_nil, List.mem_append, List.mem_singleton] at hentry
    rcases hentry with hold | rfl
    · exact (h.taken_concluded entry hold).mono _
    · exact Journal.Concluded.mono ⟨ticket, h.awaited_called _ hmem, hreply⟩ _
  taken_or_awaited := by
    have hmoved := (List.Perm.map Prod.fst (h.awaited_perm hmem)).append_left
      (pass.journal.takings.map Prod.fst)
    simpa [recordAll, Pass.note] using hmoved.symm.trans h.taken_or_awaited
  reported_eq := by
    simp only [recordAll, Pass.note, h.reported_eq, Journal.checks_append, Journal.checks_cons,
      Journal.checks_nil, Journal.views_ofRecords, Journal.takings_append, Journal.takings_cons,
      Journal.takings_nil, List.append_nil, List.countP_append, List.countP_singleton]
    omega
  dropped_eq := by
    cases hanswered : reply.isAnswered <;>
      simp [recordAll, Pass.note, h.dropped_eq, hanswered, List.countP_append]
  records_eq := by
    simp [recordAll, Pass.note, h.records_eq, failuresOf, engine.flatMap_failuresOf_ofRecords]
  errors_eq := by
    simp [recordAll, Pass.note, h.errors_eq, ErrorStore.recordAll, List.foldl_append]

end Ledger

end Engine

end FormRules
