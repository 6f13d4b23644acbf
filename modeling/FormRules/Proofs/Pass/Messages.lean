/-
Message overrides over histories of edits.

No rule of the catalog looks at the message that replaces its own, and nothing else in a pass does.
So rule sets that differ in messages only lead to the same course, the same end, and failures under
the same names.  What a failing instance records is told by the edits that have come after it.
-/
import FormRules.Proofs.Pass.Content
import FormRules.Proofs.Pass.Lockstep
import FormRules.Proofs.Rule.Edits
import FormRules.Proofs.Rule.Scope

namespace FormRules

variable {Host : Type}

namespace RuleSet

/-- Two rule sets that differ in the messages of their instances only. -/
structure Reworded (first second : RuleSet Host) : Prop where
  overrides_eq : first.overrides = second.overrides
  combined_eq : first.combined = second.combined
  tasks_eq : first.instances.map (fun inst => (inst.field, inst.task)) =
    second.instances.map fun inst => (inst.field, inst.task)

namespace Reworded

variable {first second : RuleSet Host}

theorem refl (rules : RuleSet Host) : rules.Reworded rules := ⟨rfl, rfl, rfl⟩

theorem symm (h : first.Reworded second) : second.Reworded first :=
  ⟨h.overrides_eq.symm, h.combined_eq.symm, h.tasks_eq.symm⟩

theorem trans {third : RuleSet Host} (h : first.Reworded second) (hnext : second.Reworded third) :
    first.Reworded third :=
  ⟨h.overrides_eq.trans hnext.overrides_eq, h.combined_eq.trans hnext.combined_eq,
    h.tasks_eq.trans hnext.tasks_eq⟩

/-- The instances at an index run the same on one field. -/
theorem instance_cases (h : first.Reworded second) (index : Nat) :
    (first.instances[index]? = none ∧ second.instances[index]? = none) ∨
    ∃ field task message other, first.instances[index]? = some ⟨field, task, message⟩ ∧
      second.instances[index]? = some ⟨field, task, other⟩ := by
  have hsame : (first.instances[index]?).map (fun inst => (inst.field, inst.task)) =
      (second.instances[index]?).map fun inst => (inst.field, inst.task) := by
    rw [← List.getElem?_map, ← List.getElem?_map, h.tasks_eq]
  rcases hfirst : first.instances[index]? with _ | ⟨field, task, message⟩
  · rw [hfirst] at hsame
    exact Or.inl ⟨rfl, Option.map_eq_none_iff.mp hsame.symm⟩
  · rw [hfirst] at hsame
    obtain ⟨⟨_, _, other⟩, hsecond, heq⟩ := Option.map_eq_some_iff.mp hsame.symm
    obtain ⟨rfl, rfl⟩ := Prod.mk.inj heq
    exact Or.inr ⟨_, _, message, other, rfl, hsecond⟩

/-- An override changes messages only. -/
theorem apply_override (registry : Registry) (rules : RuleSet Host) {edit : Edit Host}
    (h : edit.isOverride = true) : rules.Reworded (rules.apply registry edit) := by
  have htasks : (rules.apply registry edit).instances.map (fun inst => (inst.field, inst.task)) =
      rules.instances.map fun inst => (inst.field, inst.task) := by
    rw [instances_apply, Edit.made_of_isOverride h, List.append_nil, List.map_map]
    apply List.map_congr_left
    intro inst _
    obtain ⟨hfield, htask⟩ := inst.after_task registry [edit]
    simp [hfield, htask]
  refine ⟨?_, ?_, htasks.symm⟩ <;> cases edit with
  | attach | require | extend | combine => cases h
  | override => simp [overrides_apply, combined_apply, Edit.demands, Edit.combinations]

/-- Other edits keep such rule sets in step. -/
theorem apply_other (h : first.Reworded second) (registry : Registry) {edit : Edit Host}
    (hother : edit.isOverride = false) :
    (first.apply registry edit).Reworded (second.apply registry edit) := by
  obtain ⟨hoverrides, hcombined, htasks⟩ := h
  cases edit with
  | override => cases hother
  | attach | require | extend | combine =>
      refine ⟨?_, ?_, ?_⟩ <;> simp [apply, hoverrides, hcombined, htasks]

/-- Without the overrides of a history a rule set differs in messages only. -/
theorem applyAll (h : first.Reworded second) (registry : Registry) (history : List (Edit Host)) :
    (first.applyAll registry (history.filter fun edit => !edit.isOverride)).Reworded
      (second.applyAll registry history) := by
  induction history generalizing first second with
  | nil => exact h
  | cons edit history ih =>
      cases hedit : edit.isOverride with
      | true =>
          rw [List.filter_cons_of_neg (by simp [hedit])]
          exact ih (h.trans (.apply_override registry second hedit))
      | false =>
          rw [List.filter_cons_of_pos (by simp [hedit])]
          exact ih (h.apply_other registry hedit)

end Reworded

end RuleSet

namespace Engine

/-- Two engines with built-in rules that differ in the messages of their instances only. -/
structure Reworded (first second : Engine Host) : Prop where
  settings_eq : first.settings = second.settings
  registry_eq : first.registry = .builtin
  registry_eq' : second.registry = .builtin
  source_eq : first.source = second.source
  listener_eq : first.listener = second.listener
  issued_eq : first.issued = second.issued
  rules : first.rules.Reworded second.rules

namespace Reworded

variable {first second : Engine Host}

theorem symm (h : first.Reworded second) : second.Reworded first :=
  ⟨h.settings_eq.symm, h.registry_eq', h.registry_eq, h.source_eq.symm, h.listener_eq.symm,
    h.issued_eq.symm, h.rules.symm⟩

/-- Built-in rules decide alike whatever the message. -/
theorem decideInstance_eq (h : first.Reworded second) (shown : Host) {inst like : RuleInstance Host}
    (hfield : like.field = inst.field) (name : String) (params : List Param) :
    first.decideInstance shown inst name params =
      second.decideInstance shown like name params := by
  have hview : first.view shown = second.view shown :=
    view_congr h.settings_eq h.rules.combined_eq (congrFun h.source_eq shown)
  have hvalue : ∀ field, first.value shown field = second.value shown field := by
    intro field
    rw [value, value, hview]
  have hskipped := isSkipped_congr h.rules.overrides_eq
  have hmatches : (first.contextOf shown inst params).Matches
      (second.contextOf shown like params) := by
    refine ⟨rfl, ?_, ?_, ?_⟩ <;>
      simp [contextOf, Context.isChecked, hvalue, hfield, hview, h.settings_eq]
  simp only [decideInstance, h.registry_eq, h.registry_eq', hvalue, hfield, hskipped]
  cases hlookup : Registry.builtin.lookup name with
  | error fault => rfl
  | ok rule =>
      have hmem := Registry.mem_of_mem_ofList (Registry.mem_of_lookup hlookup)
      have hchecks : rule.check (first.contextOf shown inst params) =
          rule.check (second.contextOf shown like params) :=
        Rule.isSteady_of_mem_catalog rule hmem hmatches
      simp only [bind, Except.bind, hchecks]

theorem alongside (h : first.Reworded second) : first.Alongside second where
  settings_eq := h.settings_eq
  source_eq := h.source_eq
  listener_eq := h.listener_eq
  issued_eq := h.issued_eq
  combined_eq := h.rules.combined_eq
  tasks_eq := h.rules.tasks_eq
  faults := by
    intro index inst like name params hinst hlike _ shown fault hfault
    rcases h.rules.instance_cases index with ⟨hnone, _⟩ | ⟨_, _, _, _, hfirst, hsecond⟩
    · cases hinst.symm.trans hnone
    · have hfield : like.field = inst.field := by
        rw [Option.some.inj (hinst.symm.trans hfirst), Option.some.inj (hlike.symm.trans hsecond)]
      rwa [h.decideInstance_eq shown hfield]

theorem writes_eq (h : first.Reworded second) (index : Nat) :
    first.writes index = second.writes index := by
  rcases h.rules.instance_cases index with
    ⟨hfirst, hsecond⟩ | ⟨_, _, _, _, hfirst, hsecond⟩ <;>
    simp [writes, markedFields, hfirst, hsecond, h.rules.combined_eq]

/-- An instance of a built-in rule rejects its field whatever its message. -/
theorem rejectsAt (h : first.Reworded second) {host : Host} {index : Nat}
    (hhost : (first.atTurn host index).host = (second.atTurn host index).host)
    (hrejects : first.RejectsAt host index) : second.RejectsAt host index := by
  obtain ⟨inst, name, params, hinst, htask, rule, hdecides⟩ := hrejects
  obtain ⟨like, hlike, hfield, hsame⟩ := h.alongside.exists_like hinst
  have hdecide := (first.decideInstance_eq_rejected_iff _ inst name params rule).mpr hdecides
  rw [h.decideInstance_eq _ hfield, hhost] at hdecide
  exact ⟨like, name, params, hlike, hsame.trans htask, rule,
    (second.decideInstance_eq_rejected_iff _ like name params rule).mp hdecide⟩

/-- An instance of a built-in rule fails under the same names whatever its message. -/
theorem names_checkFailures (h : first.Reworded second) {host : Host} {index : Nat}
    (hhost : (first.atTurn host index).host = (second.atTurn host index).host) :
    (first.checkFailures host index).map Prod.fst =
      (second.checkFailures host index).map Prod.fst := by
  have hiff : first.RejectsAt host index ↔ second.RejectsAt host index :=
    ⟨h.rejectsAt hhost, h.symm.rejectsAt hhost.symm⟩
  by_cases hrejects : first.RejectsAt host index
  · obtain ⟨message, _, hfailures⟩ := first.checkFailures_of_rejectsAt hrejects
    obtain ⟨message', _, hfailures'⟩ := second.checkFailures_of_rejectsAt (hiff.mp hrejects)
    simp [hfailures, hfailures', h.writes_eq, Function.comp_def]
  · rw [first.checkFailures_of_not_rejectsAt hrejects,
      second.checkFailures_of_not_rejectsAt (hrejects ∘ hiff.mpr)]

theorem names_verdictFailures (h : first.Reworded second) (index : Nat) (reply : Reply) :
    (first.verdictFailures index reply).map Prod.fst =
      (second.verdictFailures index reply).map Prod.fst := by
  rcases h.rules.instance_cases index with
    ⟨hfirst, hsecond⟩ | ⟨_, _, _, _, hfirst, hsecond⟩ <;>
    rcases reply with ⟨_ | _⟩ | _ <;>
    simp [verdictFailures, hfirst, hsecond]

end Reworded

/-- What two passes leave behind that differ in the messages of failures only. -/
structure SameButMessages (left right : Report Host) : Prop where
  ending_eq : left.ending = right.ending
  state_eq : left.engine.state = right.engine.state
  events_eq : left.journal.events = right.journal.events
  calls_eq : left.journal.calls = right.journal.calls
  inputs_eq : left.journal.inputs = right.journal.inputs
  replies_eq : left.journal.replies = right.journal.replies
  short_eq : left.engine.errors.short.names = right.engine.errors.short.names
  full_eq : left.engine.errors.full.names = right.engine.errors.full.names

namespace Reworded

variable {first second : Engine Host}

/-- Passes that take the same course write the same names. -/
theorem names_eq (h : first.Reworded second) (turns : List (Turn Host)) (host : Host)
    (hcourse : Alongside.SameCourse first second host (first.exec turns host)
      (second.exec turns host)) :
    (first.exec turns host).engine.errors.short.names =
        (second.exec turns host).engine.errors.short.names ∧
      (first.exec turns host).engine.errors.full.names =
        (second.exec turns host).engine.errors.full.names := by
  obtain ⟨pass, hfate, hjournal, _⟩ := first.exec_fate turns host
  have hsame : ((first.exec turns host).journal.course.flatMap (first.failuresOf host)).map
        Prod.fst =
      ((first.exec turns host).journal.course.flatMap (second.failuresOf host)).map Prod.fst := by
    rw [List.map_flatMap, List.map_flatMap]
    apply List.flatMap_congr
    intro entry hentry
    cases entry with
    | checked index =>
        have hmem : Entry.checked index ∈ pass.journal :=
          hjournal ▸ List.mem_of_mem_filter hentry
        obtain ⟨hindex, hsound⟩ :=
          hfate.soundBelow_of_checked ((Journal.mem_checks_iff _ index).mpr hmem)
        exact h.names_checkFailures (h.alongside.host_eq hsound hindex)
    | taken index reply => exact h.names_verdictFailures index reply
    | fired | called | heard | recorded => rfl
  rw [hcourse.leftErrors, hcourse.rightErrors, ErrorStore.full_recordAll_eq,
    ErrorStore.full_recordAll_eq, MessageMap.names_qualified, MessageMap.names_qualified,
    ErrorStore.names_short_recordAll, ErrorStore.names_short_recordAll, hsame, h.settings_eq]
  exact ⟨rfl, rfl⟩

/-- Passes that differ in messages only end alike. -/
theorem ending_eq (h : first.Reworded second) (turns : List (Turn Host)) (host : Host) :
    Alongside.SameCourse first second host (first.exec turns host) (second.exec turns host) ∧
      (first.exec turns host).ending = (second.exec turns host).ending := by
  by_cases hfine : ∀ fault, (first.exec turns host).ending ≠ .faulted fault
  · have hends := h.alongside.exec turns host hfine
    obtain ⟨settled, dropped, hending, hending'⟩ := hends.endings
    obtain ⟨hshort, _⟩ := h.names_eq turns host hends.toSameCourse
    refine ⟨hends.toSameCourse, ?_⟩
    rw [hending, hending', endingOf, endingOf, conclusionOf_congr]
    rw [← List.map_eq_nil_iff (f := Prod.fst), ← List.map_eq_nil_iff (f := Prod.fst)]
    exact Eq.congr_left hshort
  · obtain ⟨fault, hfault⟩ := not_forall_not.mp hfine
    obtain ⟨hfault', hcourse⟩ := h.alongside.exec_faulted h.symm.alongside turns host hfault
    exact ⟨hcourse, hfault.trans hfault'.symm⟩

theorem exec (h : first.Reworded second) (turns : List (Turn Host)) (host : Host) :
    SameButMessages (first.exec turns host) (second.exec turns host) := by
  obtain ⟨hcourse, hending⟩ := h.ending_eq turns host
  obtain ⟨hshort, hfull⟩ := h.names_eq turns host hcourse
  obtain ⟨hcalls, hreplies, hinputs⟩ := hcourse.views_eq
  obtain ⟨hstate, hevents⟩ := first.state_events_exec turns host
  obtain ⟨hstate', hevents'⟩ := second.state_events_exec turns host
  refine ⟨hending, ?_, ?_, hcalls, hinputs, hreplies, hshort, hfull⟩
  · rw [hstate, hstate', hending]
  · rw [hevents, hevents', hending]

end Reworded

/-- The messages of failures over any history of edits of a form with the built-in rules.  Every
instance has been made by an attachment.  The message of an instance of a registered rule is that of
the last override after its attachment that names the rule, if this is registered, and the field or
none, and otherwise the rule's own; the parameters are filled in.  The message of an instance of a
custom rule is the last one given to those attached with it, as it stands, or empty.  A pass records
the messages of the instances that fail, and keeps what it has recorded.  Without the overrides of
the history the pass differs in messages only. -/
theorem messages_of_history (base : Engine Host) (hbuiltin : base.registry = .builtin)
    (hempty : base.rules = .empty) (history : List (Edit Host)) (turns : List (Turn Host))
    (host : Host) :
    let engine := history.foldl edit base
    let report := engine.exec turns host
    let madeAt := RuleSet.empty.MadeAt .builtin history
    (∀ index < engine.rules.size, ∃ later field,
      (∃ fields rule params,
        madeAt index (.attach fields rule params) later ⟨field, .registered rule params, none⟩) ∨
      ∃ fields rule message,
        madeAt index (.extend fields rule message) later ⟨field, .custom rule, message⟩) ∧
    (∀ index fields rule params later field,
      madeAt index (.attach fields rule params) later ⟨field, .registered rule params, none⟩ →
      ∀ found, Registry.builtin.lookup rule = .ok found →
        engine.messageAt? index = some (Template.fill
          ((lastMessage? .builtin rule field later).getD found.message)
          (params.map Param.toText))) ∧
    (∀ index fields rule message later field,
      madeAt index (.extend fields rule message) later ⟨field, .custom rule, message⟩ →
        engine.messageAt? index = some (message.getD "")) ∧
    (∀ (rules : RuleSet Host) fields rule (messages : List String),
      messages.foldl (RuleSet.giveMessage rules.size)
          (rules.apply .builtin (.extend fields rule none)) =
        rules.apply .builtin (.extend fields rule messages.getLast?)) ∧
    (∀ name message, (name, message) ∈ report.journal.records ↔
      ∃ index, engine.HasFailed host report.journal index ∧ name ∈ engine.writes index ∧
        engine.messageAt? index = some message) ∧
    report.engine.errors =
      ErrorStore.empty.recordAll engine.settings.scope report.journal.records ∧
    let plain := (history.filter fun edit => !edit.isOverride).foldl edit base
    SameButMessages (plain.exec turns host) report := by
  intro engine report madeAt
  have hengine : engine = { base with rules := RuleSet.empty.applyAll .builtin history } := by
    simp only [engine, foldl_edit, hbuiltin, hempty]
  have hrules : engine.rules = RuleSet.empty.applyAll .builtin history := by rw [hengine]
  have hregistry : engine.registry = .builtin := by rw [hengine, ← hbuiltin]
  refine ⟨?made, ?attached, ?extended, ?given, ?records, ?kept, ?plain⟩
  case made =>
    intro index hindex
    rw [hrules] at hindex
    rcases RuleSet.exists_madeAt .builtin hindex with hold | ⟨edit, later, inst, hmade⟩
    · exact absurd hold (Nat.not_lt_zero index)
    · rcases hmade.cases with ⟨fields, rule, params, field, rfl, rfl⟩ |
        ⟨fields, rule, message, field, rfl, rfl⟩
      · exact ⟨later, field, Or.inl ⟨fields, rule, params, hmade⟩⟩
      · exact ⟨later, field, Or.inr ⟨fields, rule, message, hmade⟩⟩
  case attached =>
    intro index fields rule params later field hmade found hlookup
    have hinst := hmade.getElem?_eq
    have hfound := (Registry.lookup_eq_ok_iff _ rule found).mp hlookup
    rw [← hrules] at hinst
    simp [messageAt?, hinst, RuleInstance.after, hregistry, hfound, failureMessage]
  case extended =>
    intro index fields rule message later field hmade
    have hinst := hmade.getElem?_eq
    rw [← hrules] at hinst
    simp [messageAt?, hinst, RuleInstance.after]
  case given =>
    intro rules fields rule messages
    rw [RuleSet.foldl_giveMessage_extend, Option.or_none]
  case records => exact (engine.records_exec turns host).1
  case kept => exact (engine.records_exec turns host).2
  case plain =>
    have hreworded : ((history.filter fun edit => !edit.isOverride).foldl edit base).Reworded
        engine := by
      rw [hengine, foldl_edit]
      refine ⟨rfl, hbuiltin, hbuiltin, rfl, rfl, rfl, ?_⟩
      simp only [hbuiltin, hempty]
      exact (RuleSet.Reworded.refl _).applyAll .builtin history
    exact hreworded.exec turns host

/-- A custom rule that fails its field within its call. -/
def failsAtOnce : CustomRule Unit := fun _ ticket _ => ((), [(ticket, .answered .fail)])

/-- A form that holds a code. -/
def codeForm : Engine Unit :=
  new (fun _ => Fields.toSource ⟨[("code", .text "1"), ("again", .text "1")], []⟩) {} .builtin

/-- Two fields get a rule, whose message is overridden for one of them and for a rule that does not
exist.  A custom rule follows. -/
def codeEdits : List (Edit Unit) :=
  [.attach ["code", "again"] "equals" [.text "2"], .override ["code"] "equals" "Not %s",
    .override [] "equal" "Wrong", .extend ["name"] failsAtOnce (some "%s is taken")]

/-- The form after these edits. -/
def codedForm : Engine Unit := codeEdits.foldl edit codeForm

/-- The form after these edits but for the overrides. -/
def plainForm : Engine Unit := (codeEdits.filter fun edit => !edit.isOverride).foldl edit codeForm

/-- The override replaces the message of the one field, the other one bears that of the rule, and
the message of the custom rule stays as it is. -/
theorem messages_of_codeEdits :
    codeForm.registry = .builtin ∧ codeForm.rules = .empty ∧
    codedForm.messageAt? 0 = some "Not 2" ∧
    codedForm.messageAt? 1 = some "Must be equal to \"2\"" ∧
    codedForm.messageAt? 2 = some "%s is taken" ∧
    ("code", "Not 2") ∈ (codedForm.exec [] ()).journal.records ∧
    (plainForm.exec [] ()).ending = .returned .failed ∧
    (plainForm.exec [] ()).engine.errors.short.names = ["code", "again", "name"] := by
  obtain ⟨_, hattached, hextended, _, hrecords, _, hplain⟩ :=
    messages_of_history codeForm rfl rfl codeEdits [] ()
  have hlookup : Registry.builtin.lookup "equals" = .ok Rule.equals := by cbv
  have hfirst : codedForm.messageAt? 0 = some "Not 2" :=
    (hattached 0 _ _ _ _ "code" ⟨[], 0, rfl, rfl, rfl⟩ _ hlookup).trans (by decide +kernel)
  have hsecond : codedForm.messageAt? 1 = some "Must be equal to \"2\"" :=
    (hattached 1 _ _ _ _ "again" ⟨[], 1, rfl, rfl, rfl⟩ _ hlookup).trans (by decide +kernel)
  have hthird : codedForm.messageAt? 2 = some "%s is taken" :=
    hextended 2 _ _ _ _ "name" ⟨codeEdits.take 3, 0, rfl, rfl, by decide +kernel⟩
  have hrun : let report := codedForm.exec [] ()
      (0 ∈ report.journal.checks ∧ codedForm.RejectsAt () 0) ∧ "code" ∈ codedForm.writes 0 ∧
        report.ending = .returned .failed ∧
        report.engine.errors.short.names = ["code", "again", "name"] := by decide +kernel
  obtain ⟨hchecked, hwrites, hending, hnames⟩ := hrun
  have hrecorded : ("code", "Not 2") ∈ (codedForm.exec [] ()).journal.records :=
    (hrecords _ _).mpr ⟨0, Or.inl hchecked, hwrites, hfirst⟩
  exact ⟨rfl, rfl, hfirst, hsecond, hthird, hrecorded, hplain.ending_eq.trans hending,
    hplain.short_eq.trans hnames⟩

end Engine

end FormRules
