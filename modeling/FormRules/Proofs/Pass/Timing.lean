/-
Timing does not matter.

What a pass leads to depends on the form, on what the source of values shows, and on what the host
decides in each verdict.  When the host decides, and in which order, makes no difference.
-/
import FormRules.Proofs.Pass.Result
import FormRules.Proofs.Pass.SameForm
import FormRules.Proofs.Pass.Schedule

namespace FormRules

variable {Host Other : Type}

namespace Engine

/-- In a pass without a fault in which the host follows a plan, each custom rule has concluded its
verdict as planned. -/
theorem Follows.exists_settled {engine : Engine Host} {turns : List (Turn Host)} {host : Host}
    {shown : Source} {plan : Nat → Reply} (hplan : engine.Follows turns host shown plan)
    (hsound : engine.Sound host) :
    ∃ prior, engine.Ledger host engine.rules.size prior ∧ prior.awaited = [] ∧
      (engine.exec turns host).engine.errors = prior.errors ∧
      (∀ index reply, (engine.exec turns host).journal.Concluded index reply ↔
        prior.journal.Concluded index reply) ∧
      (∀ index reply, prior.journal.Concluded index reply ↔
        engine.rules.isCustom index = true ∧ reply = plan index) ∧
      (engine.exec turns host).ending =
        .returned (if prior.dropped = 0 then .ofConclusion (conclusionOf prior.errors)
          else .incomplete prior.dropped) := by
  obtain ⟨hreturns, hplanned⟩ := hplan.exec
  have hstate : ∃ state, (engine.exec turns host).ending = .returned state := by
    obtain ⟨_, hfate, _⟩ := engine.exec_fate turns host
    cases hending : (engine.exec turns host).ending with
    | returned state => exact ⟨state, rfl⟩
    | faulted fault =>
        rw [hending] at hfate
        obtain ⟨index, hfault⟩ := hfate.exists_faultsAt
        exact absurd hfault (hsound index fault)
    | abandoned => exact absurd hending hreturns
  obtain ⟨prior, hledger, hawaited, herrors, hsame, hending⟩ :=
    engine.exists_settled_exec turns host hstate
  refine ⟨prior, hledger, hawaited, herrors, hsame, ?_, hending⟩
  intro index reply
  constructor
  · intro hconcluded
    obtain ⟨ticket, hcall, _⟩ := id hconcluded
    have hcustom := (hledger.mem_calls_fst_iff index).mp (List.mem_map_of_mem hcall)
    exact ⟨hcustom.2, hplanned index reply ((hsame index reply).mpr hconcluded)⟩
  · rintro ⟨hcustom, rfl⟩
    obtain ⟨reply, hconcluded⟩ := hledger.exists_concluded hawaited hcustom
    have hreply := hplanned index reply ((hsame index reply).mpr hconcluded)
    exact hreply ▸ hconcluded

variable {first : Engine Host} {second : Engine Other} {turns : List (Turn Host)}
  {others : List (Turn Other)} {host : Host} {other : Other} {shown : Source} {plan : Nat → Reply}

/-- At each turn of an instance the sources of two engines with the same plan show the same. -/
theorem Follows.source_eq_atTurn (hfirst : first.Follows turns host shown plan)
    (hsecond : second.Follows others other shown plan) (index : Nat) :
    first.source (first.atTurn host index).host =
      second.source (second.atTurn other index).host := by
  rw [hfirst.source_atTurn, hsecond.source_atTurn]

/-- If an instance faults both passes end with the fault of the first that does. -/
theorem Follows.ending_eq_of_faultsAt (hform : first.SameForm second)
    (hfirst : first.Follows turns host shown plan)
    (hsecond : second.Follows others other shown plan) {index : Nat} {fault : Fault}
    (hfault : first.FaultsAt host index fault) :
    ∃ found, (first.exec turns host).ending = .faulted found ∧
      (second.exec others other).ending = .faulted found := by
  have hsame := fun index => hform.faultsAt_iff (hfirst.source_eq_atTurn hsecond index)
  obtain ⟨_, hfate, _⟩ := first.exec_fate turns host
  obtain ⟨_, hfate', _⟩ := second.exec_fate others other
  obtain ⟨left, found, hleft, hsound, _, _, hending⟩ := hfate.of_faultsAt hfault
  obtain ⟨right, found', hright, hsound', _, _, hending'⟩ :=
    hfate'.of_faultsAt ((hsame index fault).mp hfault)
  obtain ⟨_, rfl⟩ := first_fault_unique hsame hleft hsound hright hsound'
  exact ⟨found, hending, hending'⟩

/-- Two passes over one form in which all verdicts have been settled and the same instances fail
with the same failures. -/
structure Alike (first : Engine Host) (second : Engine Other) (host : Host) (other : Other)
    (left : Pass Host) (right : Pass Other) : Prop where
  form : first.SameForm second
  left_ledger : first.Ledger host first.rules.size left
  left_awaited : left.awaited = []
  right_ledger : second.Ledger other second.rules.size right
  right_awaited : right.awaited = []
  fails_iff : ∀ index, first.FailsIn host left.journal index ↔
    second.FailsIn other right.journal index
  failures_eq : ∀ index, first.failuresAt host index = second.failuresAt other index

namespace Alike

variable {left : Pass Host} {right : Pass Other}

theorem mem_records_iff (h : Alike first second host other left right)
    (failure : String × String) :
    failure ∈ left.journal.records ↔ failure ∈ right.journal.records := by
  rw [h.left_ledger.mem_records_iff h.left_awaited,
    h.right_ledger.mem_records_iff h.right_awaited]
  simp only [h.fails_iff, h.failures_eq]

theorem conclusion_eq (h : Alike first second host other left right) :
    conclusionOf left.errors = conclusionOf right.errors := by
  apply conclusionOf_congr
  rw [(h.left_ledger.entries_eq_nil_iff h.left_awaited).1,
    (h.right_ledger.entries_eq_nil_iff h.right_awaited).1]
  simp only [h.fails_iff]

/-- Failures are kept under the same names. -/
theorem mem_names_iff (h : Alike first second host other left right) (name : String) :
    (name ∈ left.errors.short.names ↔ name ∈ right.errors.short.names) ∧
      (name ∈ left.errors.full.names ↔ name ∈ right.errors.full.names) := by
  simp only [h.left_ledger.errors_eq, h.right_ledger.errors_eq,
    ErrorStore.mem_names_short_recordAll, ErrorStore.mem_names_full_recordAll, List.mem_map,
    h.mem_records_iff, h.form.settings_eq, true_and]

/-- A field that one failing instance only writes bears the same message in both. -/
theorem exists_message (h : Alike first second host other left right) {index : Nat}
    {field : String} (hfails : first.FailsIn host left.journal index)
    (hwrites : field ∈ first.writes index)
    (honly : ∀ rival, first.FailsIn host left.journal rival → field ∈ first.writes rival →
      rival = index) :
    ∃ message, left.errors.short.get? field = some message ∧
      right.errors.short.get? field = some message ∧
      left.errors.full.get? (qualify first.settings.scope field) = some message ∧
      right.errors.full.get? (qualify first.settings.scope field) = some message := by
  obtain ⟨message, _, heq⟩ := h.left_ledger.exists_failuresAt_eq hfails
  have hmessage : (field, message) ∈ first.failuresAt host index := by
    rw [heq]
    exact List.mem_map.mpr ⟨field, hwrites, rfl⟩
  have honly' : ∀ rival, second.FailsIn other right.journal rival →
      field ∈ second.writes rival → rival = index := by
    simpa only [h.fails_iff, h.form.writes_eq] using honly
  obtain ⟨hshort, hfull⟩ := h.left_ledger.get?_of_only h.left_awaited hfails hmessage honly
  obtain ⟨hshort', hfull'⟩ := h.right_ledger.get?_of_only h.right_awaited
    ((h.fails_iff index).mp hfails) (h.failures_eq index ▸ hmessage) honly'
  rw [← h.form.settings_eq] at hfull'
  exact ⟨message, hshort, hshort', hfull, hfull'⟩

end Alike

/-- Without a fault both passes come to the same result, and record the same failures. -/
theorem Follows.exists_alike (hform : first.SameForm second)
    (hfirst : first.Follows turns host shown plan)
    (hsecond : second.Follows others other shown plan) (hsound : first.Sound host) :
    ∃ left right, Alike first second host other left right ∧
      (first.exec turns host).engine.errors = left.errors ∧
      (second.exec others other).engine.errors = right.errors ∧
      (∀ index, first.FailsIn host (first.exec turns host).journal index ↔
        first.FailsIn host left.journal index) ∧
      ∃ result, (first.exec turns host).ending = .returned result ∧
        (second.exec others other).ending = .returned result := by
  have hsource := hfirst.source_eq_atTurn hsecond
  have hsound' : second.Sound other := fun index fault hfault =>
    hsound index fault ((hform.faultsAt_iff (hsource index) fault).mpr hfault)
  obtain ⟨left, hledger, hawaited, herrors, hsame, hplanned, hending⟩ :=
    hfirst.exists_settled hsound
  obtain ⟨right, hledger', hawaited', herrors', _, hplanned', hending'⟩ :=
    hsecond.exists_settled hsound'
  have hconcluded : ∀ index reply, left.journal.Concluded index reply ↔
      right.journal.Concluded index reply := by
    intro index reply
    rw [hplanned, hplanned', hform.isCustom_eq]
  have halike : Alike first second host other left right := by
    refine ⟨hform, hledger, hawaited, hledger', hawaited', ?_, ?_⟩
    · intro index
      rw [FailsIn, FailsIn, hform.rejectsAt_iff (hsource index), hconcluded]
    · intro index
      exact hform.failuresAt_eq (hsource index)
  have hdropped : left.dropped = right.dropped := by
    rw [← hledger.ncard_dropped hawaited, ← hledger'.ncard_dropped hawaited']
    simp only [hconcluded]
  refine ⟨left, right, halike, herrors, herrors', ?_, _, hending, ?_⟩
  · intro index
    rw [FailsIn, FailsIn, hsame]
  · rw [hending', hdropped, halike.conclusion_eq]

/-- Two passes over one form in which the host follows the same plan, whichever verdicts it
concludes within their own calls and in whichever order it concludes the others.  Both return the
same result, leave the same state, and announce the same events.  Unless a rule faults, failures are
kept under the same names, and a field that one failing instance only writes bears the same message
in both. -/
theorem agree_of_plan (hform : first.SameForm second)
    (hfirst : first.Follows turns host shown plan)
    (hsecond : second.Follows others other shown plan) :
    let left := first.exec turns host
    let right := second.exec others other
    left.ending ≠ .abandoned ∧ left.ending = right.ending ∧
    left.engine.state = right.engine.state ∧ left.journal.events = right.journal.events ∧
    ((∃ state, left.ending = .returned state) →
      (∀ name, name ∈ left.engine.errors.short.names ↔ name ∈ right.engine.errors.short.names) ∧
      (∀ name, name ∈ left.engine.errors.full.names ↔ name ∈ right.engine.errors.full.names) ∧
      ∀ index field, first.FailsIn host left.journal index → field ∈ first.writes index →
        (∀ rival, first.FailsIn host left.journal rival → field ∈ first.writes rival →
          rival = index) →
        ∃ message, left.engine.errors.short.get? field = some message ∧
          right.engine.errors.short.get? field = some message ∧
          left.engine.errors.full.get? (qualify first.settings.scope field) = some message ∧
          right.engine.errors.full.get? (qualify first.settings.scope field) = some message) := by
  intro left right
  have hreturns : left.ending ≠ .abandoned := hfirst.exec.1
  have htell : left.ending = right.ending → left.engine.state = right.engine.state ∧
      left.journal.events = right.journal.events := by
    intro hending
    obtain ⟨hstate, hevents⟩ := first.state_events_exec turns host
    obtain ⟨hstate', hevents'⟩ := second.state_events_exec others other
    simp only [left, right, hstate, hstate', hevents, hevents']
    exact ⟨congrArg Ending.state hending, congrArg Ending.events hending⟩
  by_cases hfault : ∃ index fault, first.FaultsAt host index fault
  · obtain ⟨index, fault, hfault⟩ := hfault
    obtain ⟨found, hleft, hright⟩ := hfirst.ending_eq_of_faultsAt hform hsecond hfault
    have hending : left.ending = right.ending := hleft.trans hright.symm
    refine ⟨hreturns, hending, (htell hending).1, (htell hending).2, ?_⟩
    rintro ⟨state, hstate⟩
    cases hstate.symm.trans hleft
  · have hsound : first.Sound host := fun index fault h => hfault ⟨index, fault, h⟩
    obtain ⟨prior, prior', halike, herrors, herrors', hown, result, hleft, hright⟩ :=
      hfirst.exists_alike hform hsecond hsound
    have hending : left.ending = right.ending := hleft.trans hright.symm
    refine ⟨hreturns, hending, (htell hending).1, (htell hending).2, fun _ => ?_⟩
    simp only [left, right, herrors, herrors', hown]
    have hnames := halike.mem_names_iff
    refine ⟨fun name => (hnames name).1, fun name => (hnames name).2, ?_⟩
    intro index field hfails hwrites honly
    exact halike.exists_message hfails hwrites honly

/-- In a host that listens to no event and whose form stays as it is, only the replies matter. -/
theorem follows_of_replies (hsource : ∀ host, first.source host = shown)
    (hsilent : ∀ event, first.listener event = none)
    (hplanned : ∀ step, ∀ entry ∈ first.repliesAt turns host step, first.Planned plan entry)
    (hconcluded : ∀ index, first.rules.isCustom index = true →
      ∃ step, index ≤ step ∧ first.ticketOf index ∈ (first.repliesAt turns host step).map Prod.fst) :
    first.Follows turns host shown plan := by
  have hlisten : ∀ event host, first.Keeps shown plan (first.listen event) host := by
    intro event host
    rw [listen, hsilent, Keeps]
    exact ⟨hsource _, List.forall_mem_nil _⟩
  exact ⟨hlisten _ _, fun step => ⟨hsource _, hplanned step⟩, fun _ _ => hlisten _ _,
    fun _ _ _ => hlisten _ _, hconcluded⟩

/-- The first verdict is a failure, all others are given up. -/
def rejectFirst (index : Nat) : Reply := if index = 0 then .answered .fail else .dropped

theorem twoVerdicts_follows :
    (twoVerdicts true).Follows [] () Fields.empty.toSource rejectFirst := by
  refine follows_of_replies (fun _ => rfl) (fun _ => rfl) ?_ ?_
  · intro step entry hentry
    match step with
    | 0 =>
        rw [List.mem_singleton.mp hentry]
        exact (twoVerdicts true).planned_ticketOf rejectFirst 0 rfl
    | 1 =>
        rw [List.mem_singleton.mp hentry]
        exact (twoVerdicts true).planned_ticketOf rejectFirst 1 rfl
    | step + 2 => cases hentry
  · intro index hcustom
    have hindex := (twoVerdicts true).rules.lt_size_of_isCustom hcustom
    match index, hindex with
    | 0, _ => exact ⟨0, Nat.le_refl 0, List.mem_singleton.mpr rfl⟩
    | 1, _ => exact ⟨1, Nat.le_refl 1, List.mem_singleton.mpr rfl⟩

/-- The form with the two verdicts in a host that keeps their tickets. -/
def keptVerdicts : Engine (List Ticket) :=
  (new (fun _ => Fields.empty.toSource) {} .empty).edit
    (.extend ["name", "code"] keepTicket (some "taken"))

/-- The host concludes the verdict of the ticket that it has kept last. -/
def concludeLast (reply : Reply) : Turn (List Ticket) := fun kept =>
  (kept.dropLast, kept.getLast?.toList.map fun ticket => (ticket, reply))

theorem keptVerdicts_follows :
    keptVerdicts.Follows [concludeLast .dropped, concludeLast (.answered .fail)] []
      Fields.empty.toSource rejectFirst := by
  refine follows_of_replies (fun _ => rfl) (fun _ => rfl) ?_ ?_
  · intro step entry hentry
    match step with
    | 0 => cases hentry
    | 1 => cases hentry
    | 2 =>
        rw [List.mem_singleton.mp hentry]
        exact keptVerdicts.planned_ticketOf rejectFirst 1 rfl
    | 3 =>
        rw [List.mem_singleton.mp hentry]
        exact keptVerdicts.planned_ticketOf rejectFirst 0 rfl
    | step + 4 => cases hentry
  · intro index hcustom
    have hindex := keptVerdicts.rules.lt_size_of_isCustom hcustom
    match index, hindex with
    | 0, _ => exact ⟨3, Nat.zero_le 3, List.mem_singleton.mpr rfl⟩
    | 1, _ => exact ⟨2, Nat.le_succ 1, List.mem_singleton.mpr rfl⟩

/-- The passes agree, whether the verdicts are concluded at once or later and in another order. -/
theorem agree_of_twoVerdicts :
    let later := [concludeLast .dropped, concludeLast (.answered .fail)]
    (twoVerdicts true).SameForm keptVerdicts ∧
    (twoVerdicts true).Follows [] () Fields.empty.toSource rejectFirst ∧
    keptVerdicts.Follows later [] Fields.empty.toSource rejectFirst ∧
    ((twoVerdicts true).exec [] ()).ending = (keptVerdicts.exec later []).ending := by
  intro later
  have hform : (twoVerdicts true).SameForm keptVerdicts := ⟨rfl, rfl, rfl, rfl, rfl⟩
  have hprompt := twoVerdicts_follows
  have hlater := keptVerdicts_follows
  exact ⟨hform, hprompt, hlater, (agree_of_plan hform hprompt hlater).2.1⟩

end Engine

end FormRules
