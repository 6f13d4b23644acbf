/-
Which instances fail in a pass, and what their failures record.

When nothing is awaited any more, the failures recorded are those of the failing instances, whatever
the order in which their reports have come.
-/
import FormRules.Proofs.Pass.Completion
import FormRules.Proofs.Store.Recording

namespace FormRules

variable {Host : Type}

namespace Engine

/-- The instance at an index fails: its registered rule rejects the field, or the verdict of its
custom rule has been answered with a failure. -/
def FailsIn (engine : Engine Host) (host : Host) (journal : Journal) (index : Nat) : Prop :=
  engine.RejectsAt host index ∨ journal.Concluded index (.answered .fail)

/-- The instance at an index has reported a failure: it has been checked and rejects its field, or
an answer that it fails has been taken over. -/
def HasFailed (engine : Engine Host) (host : Host) (journal : Journal) (index : Nat) : Prop :=
  index ∈ journal.checks ∧ engine.RejectsAt host index ∨
    (index, .answered .fail) ∈ journal.takings

/-- The failures that the instance at an index leads to if it fails. -/
def failuresAt (engine : Engine Host) (host : Host) (index : Nat) : List (String × String) :=
  if engine.rules.isRegistered index then engine.checkFailures host index
  else engine.verdictFailures index (.answered .fail)

/-- The fields under which a failure of the instance at an index is recorded. -/
def writes (engine : Engine Host) (index : Nat) : List String :=
  match engine.rules.instances[index]? with
  | some inst =>
      match inst.task with
      | .registered _ _ => engine.markedFields inst.field
      | .custom _ => [inst.field]
  | none => []

/-- An instance writes its field and, if it runs a registered rule, the sources of the combined
field of that name. -/
theorem mem_writes_iff (engine : Engine Host) {index : Nat} {inst : RuleInstance Host}
    (hinst : engine.rules.instances[index]? = some inst) (field : String) :
    field ∈ engine.writes index ↔ field = inst.field ∨
      (∃ rule params, inst.task = .registered rule params) ∧
        ∃ combined, Combined.find? engine.rules.combined inst.field = some combined ∧
          field ∈ combined.sources := by
  cases htask : inst.task with
  | registered rule params =>
      cases hfind : Combined.find? engine.rules.combined inst.field <;>
        simp [writes, hinst, htask, markedFields, hfind]
  | custom rule => simp [writes, hinst, htask]

theorem RejectsAt.isRegistered {engine : Engine Host} {host : Host} {index : Nat}
    (h : engine.RejectsAt host index) : engine.rules.isRegistered index = true := by
  obtain ⟨inst, name, params, hinst, htask, _⟩ := h
  exact (engine.rules.isRegistered_iff index).mpr ⟨inst, name, params, hinst, htask⟩

/-- The message of a failure of the instance at an index: that of its registered rule with the
parameters filled in, or that of its custom rule as it stands. -/
def messageAt? (engine : Engine Host) (index : Nat) : Option String :=
  match engine.rules.instances[index]? with
  | some inst =>
      match inst.task with
      | .registered name params =>
          (engine.registry.find? name).map fun rule => failureMessage inst rule params
      | .custom _ => some (inst.message.getD "")
  | none => none

/-- The failures of an instance that rejects its field bear its message, and stand under the names
that it writes. -/
theorem checkFailures_of_rejectsAt (engine : Engine Host) {host : Host} {index : Nat}
    (h : engine.RejectsAt host index) :
    ∃ message, engine.messageAt? index = some message ∧
      engine.checkFailures host index =
        (engine.writes index).map fun field => (field, message) := by
  obtain ⟨inst, name, params, hinst, htask, rule, hrejects⟩ := h
  have hdecide := (engine.decideInstance_eq_rejected_iff _ inst name params rule).mpr hrejects
  have hfound := (engine.registry.lookup_eq_ok_iff name rule).mp hrejects.1
  refine ⟨failureMessage inst rule params, ?_, ?_⟩
  · simp [messageAt?, hinst, htask, hfound]
  · simp [checkFailures, writes, hinst, htask, hdecide, ruleFailures]

theorem eq_fail_of_mem_verdictFailures (engine : Engine Host) {index : Nat} {reply : Reply}
    {failure : String × String} (h : failure ∈ engine.verdictFailures index reply) :
    reply = .answered .fail := by
  unfold verdictFailures at h
  split at h
  · rfl
  · exact absurd h List.not_mem_nil

namespace Ledger

variable {engine : Engine Host} {host : Host} {count : Nat} {pass : Pass Host}

theorem not_registered_of_concluded (h : engine.Ledger host count pass) {index : Nat}
    {reply : Reply} (hconcluded : pass.journal.Concluded index reply) :
    engine.rules.isRegistered index = false ∧ index < engine.rules.size := by
  obtain ⟨ticket, hcall, _⟩ := hconcluded
  obtain ⟨hlt, hcustom⟩ := (h.mem_calls_fst_iff index).mp (List.mem_map_of_mem hcall)
  have hindex := Nat.lt_of_lt_of_le hlt h.count_le
  have hkind := engine.rules.isCustom_eq_not_isRegistered hindex
  exact ⟨by simpa [hcustom] using hkind, hindex⟩

/-- What leads to failures in the course of a pass is the report of an instance that fails. -/
theorem hasFailed_of_mem (h : engine.Ledger host count pass) {entry : Entry}
    (hentry : entry ∈ pass.journal) {failure : String × String}
    (hfailure : failure ∈ engine.failuresOf host entry) :
    ∃ index, (entry = .checked index ∨ entry = .taken index (.answered .fail)) ∧
      engine.HasFailed host pass.journal index ∧
      engine.failuresOf host entry = engine.failuresAt host index := by
  cases entry with
  | checked index =>
      have hrejects := (engine.checkFailures_ne_nil_iff host index).mp
        (List.ne_nil_of_mem hfailure)
      refine ⟨index, Or.inl rfl, Or.inl ⟨(Journal.mem_checks_iff _ index).mpr hentry, hrejects⟩, ?_⟩
      rw [failuresAt, if_pos hrejects.isRegistered]
      rfl
  | taken index reply =>
      obtain rfl := engine.eq_fail_of_mem_verdictFailures hfailure
      have htaken := (Journal.mem_takings_iff _ index _).mpr hentry
      refine ⟨index, Or.inr rfl, Or.inr htaken, ?_⟩
      rw [failuresAt, (h.not_registered_of_concluded (h.taken_concluded _ htaken)).1]
      rfl
  | fired | called | heard | recorded => exact absurd hfailure List.not_mem_nil

/-- An instance that has reported a failure has led to its failures. -/
theorem exists_entry_of_hasFailed (h : engine.Ledger host count pass) {index : Nat}
    (hfailed : engine.HasFailed host pass.journal index) :
    ∃ entry ∈ pass.journal, (entry = .checked index ∨ entry = .taken index (.answered .fail)) ∧
      engine.failuresOf host entry = engine.failuresAt host index := by
  rcases hfailed with ⟨hcheck, hrejects⟩ | htaken
  · refine ⟨_, (Journal.mem_checks_iff _ index).mp hcheck, Or.inl rfl, ?_⟩
    rw [failuresAt, if_pos hrejects.isRegistered]
    rfl
  · refine ⟨_, (Journal.mem_takings_iff _ index _).mp htaken, Or.inr rfl, ?_⟩
    rw [failuresAt, (h.not_registered_of_concluded (h.taken_concluded _ htaken)).1]
    rfl

/-- The failures recorded are those of the instances that have reported one. -/
theorem mem_records_iff_hasFailed (h : engine.Ledger host count pass)
    (failure : String × String) :
    failure ∈ pass.journal.records ↔
      ∃ index, engine.HasFailed host pass.journal index ∧
        failure ∈ engine.failuresAt host index := by
  rw [h.records_eq, List.mem_flatMap]
  constructor
  · rintro ⟨entry, hentry, hfailure⟩
    obtain ⟨index, _, hfailed, hsame⟩ := h.hasFailed_of_mem hentry hfailure
    exact ⟨index, hfailed, hsame ▸ hfailure⟩
  · rintro ⟨index, hfailed, hfailure⟩
    obtain ⟨entry, hentry, _, hsame⟩ := h.exists_entry_of_hasFailed hfailed
    exact ⟨entry, hentry, hsame ▸ hfailure⟩

theorem failsIn_of_hasFailed (h : engine.Ledger host count pass) {index : Nat}
    (hfailed : engine.HasFailed host pass.journal index) :
    engine.FailsIn host pass.journal index :=
  hfailed.imp And.right (h.taken_concluded _)

/-- When nothing is awaited any more every failing instance has reported its failure. -/
theorem hasFailed_iff (h : engine.Ledger host engine.rules.size pass)
    (hawaited : pass.awaited = []) (index : Nat) :
    engine.HasFailed host pass.journal index ↔ engine.FailsIn host pass.journal index := by
  refine ⟨h.failsIn_of_hasFailed, ?_⟩
  rintro (hrejects | hconcluded)
  · have hregistered := hrejects.isRegistered
    have hindex := engine.rules.lt_size_of_isRegistered hregistered
    exact Or.inl ⟨(h.mem_checks_iff index).mpr ⟨hindex, hregistered⟩, hrejects⟩
  · exact Or.inr ((h.taken_iff_concluded hawaited index _).mpr hconcluded)

theorem mem_records_iff (h : engine.Ledger host engine.rules.size pass)
    (hawaited : pass.awaited = []) (failure : String × String) :
    failure ∈ pass.journal.records ↔
      ∃ index, engine.FailsIn host pass.journal index ∧
        failure ∈ engine.failuresAt host index := by
  simp only [h.mem_records_iff_hasFailed, h.hasFailed_iff hawaited]

/-- A failing instance leaves a record. -/
theorem failuresAt_ne_nil (h : engine.Ledger host count pass) {index : Nat}
    (hfails : engine.FailsIn host pass.journal index) : engine.failuresAt host index ≠ [] := by
  rcases hfails with hrejects | hconcluded
  · rw [failuresAt, if_pos hrejects.isRegistered]
    exact (engine.checkFailures_ne_nil_iff host index).mpr hrejects
  · obtain ⟨hregistered, hindex⟩ := h.not_registered_of_concluded hconcluded
    have hinst : engine.rules.instances[index]? = some engine.rules.instances[index] :=
      List.getElem?_eq_getElem hindex
    simp [failuresAt, hregistered, verdictFailures, hinst]

/-- The store of failures is empty, in both of its maps, exactly if no instance fails. -/
theorem entries_eq_nil_iff (h : engine.Ledger host engine.rules.size pass)
    (hawaited : pass.awaited = []) :
    (pass.errors.short.entries = [] ↔ ¬ ∃ index, engine.FailsIn host pass.journal index) ∧
      (pass.errors.full.entries = [] ↔
        ¬ ∃ index, engine.FailsIn host pass.journal index) := by
  have hrecords : pass.journal.records = [] ↔
      ¬ ∃ index, engine.FailsIn host pass.journal index := by
    constructor
    · rintro hnil ⟨index, hfails⟩
      obtain ⟨failure, hfailure⟩ := List.exists_mem_of_ne_nil _ (h.failuresAt_ne_nil hfails)
      have hmem := (h.mem_records_iff hawaited failure).mpr ⟨index, hfails, hfailure⟩
      rw [hnil] at hmem
      exact List.not_mem_nil hmem
    · intro hnone
      apply List.eq_nil_iff_forall_not_mem.mpr
      intro failure hmem
      obtain ⟨index, hfails, _⟩ := (h.mem_records_iff hawaited failure).mp hmem
      exact hnone ⟨index, hfails⟩
  have hentries := ErrorStore.entries_recordAll_eq_nil_iff engine.settings.scope
    pass.journal.records
  rw [← h.errors_eq, hrecords] at hentries
  exact hentries

/-- A custom rule has concluded its verdict when nothing is awaited any more. -/
theorem exists_concluded (h : engine.Ledger host engine.rules.size pass)
    (hawaited : pass.awaited = []) {index : Nat} (hcustom : engine.rules.isCustom index = true) :
    ∃ reply, pass.journal.Concluded index reply := by
  have hindex := engine.rules.lt_size_of_isCustom hcustom
  obtain ⟨⟨_, ticket⟩, hcall, rfl⟩ :=
    List.mem_map.mp ((h.mem_calls_fst_iff index).mpr ⟨hindex, hcustom⟩)
  obtain ⟨reply, _, hreply⟩ := h.taken_of_not_awaited hcall (by simp [hawaited])
  exact ⟨reply, ticket, hcall, hreply⟩

/-- A failing instance records its message, under each of the fields that it writes. -/
theorem exists_failuresAt_eq (h : engine.Ledger host count pass) {index : Nat}
    (hfails : engine.FailsIn host pass.journal index) :
    ∃ message, engine.messageAt? index = some message ∧ engine.failuresAt host index =
      (engine.writes index).map fun field => (field, message) := by
  rcases hfails with hrejects | hconcluded
  · obtain ⟨message, hmessage, hfailures⟩ := engine.checkFailures_of_rejectsAt hrejects
    refine ⟨message, hmessage, ?_⟩
    rw [failuresAt, if_pos hrejects.isRegistered, hfailures]
  · obtain ⟨hregistered, hindex⟩ := h.not_registered_of_concluded hconcluded
    have hcustom : engine.rules.isCustom index = true := by
      simp [engine.rules.isCustom_eq_not_isRegistered hindex, hregistered]
    obtain ⟨inst, rule, hinst, htask⟩ := (engine.rules.isCustom_iff index).mp hcustom
    refine ⟨inst.message.getD "", ?_, ?_⟩
    · simp [messageAt?, hinst, htask]
    · simp [failuresAt, hregistered, verdictFailures, writes, hinst, htask]

/-- What is recorded are the messages of the instances that have reported a failure, under the
fields that they write. -/
theorem mem_records_iff_writes (h : engine.Ledger host count pass) (name message : String) :
    (name, message) ∈ pass.journal.records ↔
      ∃ index, engine.HasFailed host pass.journal index ∧ name ∈ engine.writes index ∧
        engine.messageAt? index = some message := by
  rw [h.mem_records_iff_hasFailed]
  apply exists_congr
  intro index
  apply and_congr_right
  intro hfailed
  obtain ⟨written, hmessage, hfailures⟩ := h.exists_failuresAt_eq (h.failsIn_of_hasFailed hfailed)
  simp [hmessage, hfailures]

/-- The failures of an instance are recorded under the fields that it writes. -/
theorem mem_writes_iff_exists (h : engine.Ledger host count pass) {index : Nat}
    (hfails : engine.FailsIn host pass.journal index) (field : String) :
    field ∈ engine.writes index ↔ ∃ message, (field, message) ∈ engine.failuresAt host index := by
  obtain ⟨message, _, heq⟩ := h.exists_failuresAt_eq hfails
  rw [heq]
  simp

/-- A field that one failing instance only writes bears the message of that instance. -/
theorem get?_of_only (h : engine.Ledger host engine.rules.size pass) (hawaited : pass.awaited = [])
    {index : Nat} {field message : String} (hfails : engine.FailsIn host pass.journal index)
    (hmessage : (field, message) ∈ engine.failuresAt host index)
    (honly : ∀ other, engine.FailsIn host pass.journal other → field ∈ engine.writes other →
      other = index) :
    pass.errors.short.get? field = some message ∧
      pass.errors.full.get? (qualify engine.settings.scope field) = some message := by
  have hmem := (h.mem_records_iff hawaited _).mpr ⟨index, hfails, hmessage⟩
  have hall : ∀ other, (field, other) ∈ pass.journal.records → other = message := by
    intro other hother
    obtain ⟨writer, hwriter, hrecord⟩ := (h.mem_records_iff hawaited _).mp hother
    have hwrites := (h.mem_writes_iff_exists hwriter field).mpr ⟨other, hrecord⟩
    obtain rfl := honly writer hwriter hwrites
    obtain ⟨written, _, heq⟩ := h.exists_failuresAt_eq hwriter
    rw [heq] at hrecord hmessage
    obtain ⟨_, _, hpair⟩ := List.mem_map.mp hrecord
    obtain ⟨_, _, hpair'⟩ := List.mem_map.mp hmessage
    rw [Prod.mk.injEq] at hpair hpair'
    rw [← hpair.2, ← hpair'.2]
  rw [h.errors_eq, ErrorStore.short_recordAll, ErrorStore.full_recordAll]
  refine ⟨MessageMap.get?_insertAll_of_forall _ hmem hall, ?_⟩
  apply MessageMap.get?_insertAll_of_forall
  · exact List.mem_map.mpr ⟨_, hmem, rfl⟩
  · intro other hother
    obtain ⟨⟨name, found⟩, hrecord, hpair⟩ := List.mem_map.mp hother
    rw [Prod.mk.injEq] at hpair
    obtain ⟨hname, rfl⟩ := hpair
    obtain rfl := qualify_injective hname
    exact hall found hrecord

/-- A message stands under a name exactly if a failing instance writes it. -/
theorem mem_names_iff (h : engine.Ledger host engine.rules.size pass)
    (hawaited : pass.awaited = []) (name : String) :
    name ∈ pass.errors.short.names ↔
      ∃ index, engine.FailsIn host pass.journal index ∧ name ∈ engine.writes index := by
  rw [h.errors_eq, ErrorStore.mem_names_short_recordAll, List.mem_map]
  constructor
  · rintro ⟨⟨_, message⟩, hrecord, rfl⟩
    obtain ⟨index, hfails, hfailure⟩ := (h.mem_records_iff hawaited _).mp hrecord
    exact ⟨index, hfails, (h.mem_writes_iff_exists hfails _).mpr ⟨message, hfailure⟩⟩
  · rintro ⟨index, hfails, hname⟩
    obtain ⟨message, hfailure⟩ := (h.mem_writes_iff_exists hfails name).mp hname
    exact ⟨_, (h.mem_records_iff hawaited _).mpr ⟨index, hfails, hfailure⟩, rfl⟩

end Ledger

/-- The store leads to one conclusion or the other as it is empty or not. -/
theorem conclusionOf_congr {first second : ErrorStore}
    (h : first.short.entries = [] ↔ second.short.entries = []) :
    conclusionOf first = conclusionOf second := by
  simp only [conclusionOf, ErrorStore.isEmpty, MessageMap.isEmpty, List.isEmpty_iff, h]

/-- A pass that returns without a fault awaits nothing, and its result is told by the count of
dropped verdicts and the store of failures. -/
theorem Fate.exists_settled {engine : Engine Host} {host : Host} {pass : Pass Host}
    {ending : Ending} (h : engine.Fate host pass ending) (hreturns : ending ≠ .abandoned)
    (hfine : ∀ fault, ending ≠ .faulted fault) :
    ∃ prior, engine.Ledger host engine.rules.size prior ∧ prior.awaited = [] ∧
      pass.errors = prior.errors ∧ pass.journal.calls = prior.journal.calls ∧
      pass.journal.replies = prior.journal.replies ∧
      ending = .returned (if prior.dropped = 0 then .ofConclusion (conclusionOf prior.errors)
        else .incomplete prior.dropped) := by
  cases h with
  | faulted faults sound running => exact absurd rfl (hfine _)
  | @completed prior after sound running finished =>
      obtain ⟨_, hdropped, hawaited⟩ := running.all_reported finished
      refine ⟨prior, running.ledger, hawaited, rfl, by simp [Pass.ended], by simp [Pass.ended], ?_⟩
      rw [if_pos hdropped]
  | incomplete sound running unfinished settled =>
      have hpos := running.dropped_pos unfinished settled
      refine ⟨_, running.ledger, settled, rfl, rfl, rfl, ?_⟩
      rw [if_neg (Nat.ne_of_gt hpos)]
  | abandoned sound running waiting silent => exact absurd rfl hreturns

/-- Before a pass that returns has announced its end, nothing is awaited any more, and the failures
and the conclusions are those that the pass shows. -/
theorem exists_settled_exec (engine : Engine Host) (turns : List (Turn Host)) (host : Host)
    (hreturns : ∃ state, (engine.exec turns host).ending = .returned state) :
    ∃ prior, engine.Ledger host engine.rules.size prior ∧ prior.awaited = [] ∧
      (engine.exec turns host).engine.errors = prior.errors ∧
      (∀ index reply, (engine.exec turns host).journal.Concluded index reply ↔
        prior.journal.Concluded index reply) ∧
      (engine.exec turns host).ending =
        .returned (if prior.dropped = 0 then .ofConclusion (conclusionOf prior.errors)
          else .incomplete prior.dropped) := by
  obtain ⟨pass, hfate, hjournal, hengine⟩ := engine.exec_fate turns host
  obtain ⟨state, hstate⟩ := hreturns
  obtain ⟨prior, hledger, hawaited, herrors, hcalls, hreplies, hending⟩ :=
    hfate.exists_settled (by simp [hstate]) (by simp [hstate])
  refine ⟨prior, hledger, hawaited, by rw [hengine, herrors], ?_, hending⟩
  intro index reply
  rw [hjournal, Journal.Concluded, Journal.Concluded, hcalls, hreplies]

/-- What a pass records, however it ends, and what its store of failures keeps of it. -/
theorem records_exec (engine : Engine Host) (turns : List (Turn Host)) (host : Host) :
    let report := engine.exec turns host
    (∀ name message, (name, message) ∈ report.journal.records ↔
      ∃ index, engine.HasFailed host report.journal index ∧ name ∈ engine.writes index ∧
        engine.messageAt? index = some message) ∧
    report.engine.errors =
      ErrorStore.empty.recordAll engine.settings.scope report.journal.records := by
  obtain ⟨pass, hfate, hjournal, hengine⟩ := engine.exec_fate turns host
  obtain ⟨count, prior, hledger, _, _, _, _, herrors, hchecks, htakings, hrecords⟩ :=
    hfate.exists_ledger
  intro report
  have hsame : report.journal.records = prior.journal.records := by
    simp only [report, hjournal, hrecords]
  have hfailed : ∀ index, engine.HasFailed host report.journal index ↔
      engine.HasFailed host prior.journal index := by
    intro index
    simp only [report, HasFailed, hjournal, hchecks, htakings]
  rw [hsame]
  constructor
  · simp only [hfailed]
    exact hledger.mem_records_iff_writes
  · simp only [report, hengine, herrors]
    exact hledger.errors_eq

end Engine

end FormRules
