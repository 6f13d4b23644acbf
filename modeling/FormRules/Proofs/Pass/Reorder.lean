/-
The order of instances on different fields.

A registered rule is decided on what the source of values shows, whatever has been decided before,
and without combined fields its failures stand under its own field.  So only the order of instances
on one field matters: it tells which message the field is left with.
-/
import FormRules.Proofs.Pass.Decisions
import FormRules.Proofs.Rule.Edits
import FormRules.Proofs.Store.Order

namespace FormRules

variable {Host : Type}

/-- The instances on a field, in their order. -/
def RuleInstance.onField (instances : List (RuleInstance Host)) (field : String) :
    List (RuleInstance Host) :=
  instances.filter fun inst => inst.field == field

namespace RuleSet

/-- An edit changes the instances on a field in their places, and makes new ones after them. -/
theorem onField_apply (registry : Registry) (rules : RuleSet Host) (edit : Edit Host)
    (field : String) :
    RuleInstance.onField (rules.apply registry edit).instances field =
      (RuleInstance.onField rules.instances field).map (RuleInstance.after registry [edit]) ++
        RuleInstance.onField edit.made field := by
  have hkept : ((fun inst : RuleInstance Host => inst.field == field) ∘
      RuleInstance.after registry [edit]) = fun inst => inst.field == field := by
    funext inst
    simp [(inst.after_task registry [edit]).1]
  rw [instances_apply, RuleInstance.onField, List.filter_append, List.filter_map, hkept]
  rfl

/-- Two rule sets that differ in the order of instances on different fields only: on each field they
have the same instances in the same order. -/
structure Reordered (first second : RuleSet Host) : Prop where
  onField_eq : ∀ field,
    RuleInstance.onField first.instances field = RuleInstance.onField second.instances field
  overrides_eq : first.overrides = second.overrides
  combined_eq : first.combined = second.combined

namespace Reordered

variable {first second : RuleSet Host}

/-- The instances of one rule set are those of the other in another order. -/
theorem perm (h : first.Reordered second) : first.instances.Perm second.instances := by
  classical
  apply List.perm_iff_count.mpr
  intro inst
  have hcount : ∀ instances : List (RuleInstance Host), instances.count inst =
      (RuleInstance.onField instances inst.field).count inst :=
    fun instances => (List.count_filter (by simp)).symm
  rw [hcount first.instances, h.onField_eq, ← hcount second.instances]

/-- The same edit keeps such rule sets in step. -/
theorem apply (h : first.Reordered second) (registry : Registry) (edit : Edit Host) :
    (first.apply registry edit).Reordered (second.apply registry edit) where
  onField_eq field := by rw [onField_apply, onField_apply, h.onField_eq]
  overrides_eq := by rw [overrides_apply, overrides_apply, h.overrides_eq]
  combined_eq := by rw [combined_apply, combined_apply, h.combined_eq]

theorem applyAll (h : first.Reordered second) (registry : Registry) (history : List (Edit Host)) :
    (first.applyAll registry history).Reordered (second.applyAll registry history) := by
  induction history generalizing first second with
  | nil => exact h
  | cons edit history ih => exact ih (h.apply registry edit)

end Reordered

end RuleSet

/-- Attaches the rules of a chain to some fields, one rule after the other. -/
def Edit.attachChain (fields : List String) (chain : List (String × List Param)) :
    List (Edit Host) :=
  chain.map fun rule => .attach fields rule.1 rule.2

/-- The instance of a rule of a chain on a field. -/
def RuleInstance.link (rule : String × List Param) (field : String) : RuleInstance Host :=
  ⟨field, .registered rule.1 rule.2, none⟩

namespace RuleInstance

theorem onField_append (first second : List (RuleInstance Host)) (field : String) :
    onField (first ++ second) field = onField first field ++ onField second field :=
  List.filter_append first second

/-- On one of different fields each rule has one instance, in the order of the chain, when each rule
is attached to all fields. -/
theorem onField_together {fields : List String} (h : fields.Nodup)
    (chain : List (String × List Param)) (field : String) :
    onField (chain.flatMap fun rule => fields.map (link rule)) field =
      if field ∈ fields then chain.map fun rule => (link rule field : RuleInstance Host)
      else [] := by
  have hrule : ∀ rule : String × List Param,
      (fields.map (link rule)).filter (fun inst : RuleInstance Host => inst.field == field) =
        (fields.filter (· == field)).map (link rule) := fun rule => List.filter_map
  rw [onField, List.filter_flatMap]
  simp only [hrule, List.filter_beq]
  by_cases hmem : field ∈ fields
  · rw [if_pos hmem, List.count_eq_one_of_mem h hmem, List.map_eq_flatMap]
    rfl
  · rw [if_neg hmem, List.count_eq_zero_of_not_mem hmem]
    simp

/-- The same holds when the whole chain is attached to each field. -/
theorem onField_apart {fields : List String} (h : fields.Nodup)
    (chain : List (String × List Param)) (field : String) :
    onField (fields.flatMap fun other => chain.map fun rule => link rule other) field =
      if field ∈ fields then chain.map fun rule => (link rule field : RuleInstance Host)
      else [] := by
  induction fields with
  | nil => rfl
  | cons other rest ih =>
      obtain ⟨hother, hrest⟩ := List.nodup_cons.mp h
      rw [List.flatMap_cons, onField_append, ih hrest]
      by_cases hsame : other = field
      · subst hsame
        rw [if_neg hother, if_pos List.mem_cons_self, List.append_nil]
        apply List.filter_eq_self.mpr
        intro inst hinst
        obtain ⟨rule, _, rfl⟩ := List.mem_map.mp hinst
        exact beq_self_eq_true other
      · have hnone : onField (chain.map fun rule => (link rule other : RuleInstance Host)) field =
            [] := by
          apply List.filter_eq_nil_iff.mpr
          intro inst hinst
          obtain ⟨rule, _, rfl⟩ := List.mem_map.mp hinst
          simpa [link] using hsame
        have hne : ¬ field = other := fun hfield => hsame hfield.symm
        rw [hnone, List.nil_append]
        simp only [List.mem_cons, hne, false_or]

end RuleInstance

/-- The instances that attaching a chain makes. -/
theorem Edit.flatMap_made_attachChain (fields : List String) (chain : List (String × List Param)) :
    (attachChain fields chain : List (Edit Host)).flatMap made =
      chain.flatMap fun rule => fields.map (RuleInstance.link rule) := by
  rw [attachChain, List.flatMap_map]
  rfl

namespace RuleSet

/-- A chain that is attached to different fields at once makes the same instances on each field, in
the same order, as a chain that is attached to one field after the other. -/
theorem reordered_attachChain (registry : Registry) (rules : RuleSet Host) {fields : List String}
    (h : fields.Nodup) (chain : List (String × List Param)) :
    (rules.applyAll registry (Edit.attachChain fields chain)).Reordered
      (rules.applyAll registry (fields.flatMap fun field => Edit.attachChain [field] chain)) := by
  have hattach : ∀ (fields : List String) (edit : Edit Host),
      edit ∈ Edit.attachChain fields chain →
        ∃ fields rule params, edit = .attach fields rule params := by
    intro fields edit hedit
    obtain ⟨rule, _, rfl⟩ := List.mem_map.mp hedit
    exact ⟨fields, rule.1, rule.2, rfl⟩
  have happart : (fields.flatMap fun field => Edit.attachChain [field] chain).flatMap Edit.made =
      fields.flatMap fun field =>
        chain.map fun rule => (RuleInstance.link rule field : RuleInstance Host) := by
    rw [List.flatMap_assoc]
    simp only [Edit.flatMap_made_attachChain, List.map_singleton]
    exact List.flatMap_congr fun field _ => List.map_eq_flatMap.symm
  rw [applyAll_attach registry rules (hattach fields), applyAll_attach registry rules, happart,
    Edit.flatMap_made_attachChain]
  · refine ⟨fun field => ?_, rfl, rfl⟩
    rw [RuleInstance.onField_append, RuleInstance.onField_append,
      RuleInstance.onField_together h, RuleInstance.onField_apart h]
  · intro edit hedit
    obtain ⟨field, _, hedit⟩ := List.mem_flatMap.mp hedit
    exact hattach [field] edit hedit

end RuleSet

namespace Engine

/-- Two engines that differ in the order of instances on different fields only, and in what earlier
passes have left. -/
structure Reordered (first second : Engine Host) : Prop where
  settings_eq : first.settings = second.settings
  registry_eq : first.registry = second.registry
  source_eq : first.source = second.source
  listener_eq : first.listener = second.listener
  rules : first.rules.Reordered second.rules

namespace Reordered

variable {first second : Engine Host}

/-- The order of instances is nothing to a registered rule. -/
theorem decides_eq (h : first.Reordered second) (shown : Host) :
    first.faultOn? shown = second.faultOn? shown ∧
      first.failuresOn shown = second.failuresOn shown := by
  obtain ⟨hsettings, hregistry, hsource, _, ⟨_, hoverrides, hcombined⟩⟩ := h
  rcases first with ⟨settings, registry, source, ⟨instances, overrides, combined⟩, _⟩
  dsimp only at hsettings hregistry hsource hoverrides hcombined
  subst hsettings hregistry hsource hoverrides hcombined
  exact ⟨rfl, rfl⟩

theorem onlyRegistered (h : first.Reordered second) (honly : first.rules.OnlyRegistered) :
    second.rules.OnlyRegistered :=
  fun inst hinst => honly inst (h.rules.perm.mem_iff.mpr hinst)

theorem begin_host_eq (h : first.Reordered second) (host : Host) :
    (first.begin host).host = (second.begin host).host := by
  rw [begin_host, begin_host, h.listener_eq]

end Reordered

variable {engine : Engine Host} {shown : Host}

/-- Without combined fields the failures of an instance stand under its field. -/
theorem fst_of_mem_failuresOn (hplain : engine.rules.combined = []) {inst : RuleInstance Host}
    {failure : String × String} (h : failure ∈ engine.failuresOn shown inst) :
    failure.1 = inst.field := by
  unfold failuresOn at h
  split at h
  · rename_i params _
    split at h
    · rename_i rule _
      have hone : engine.ruleFailures inst rule params =
          [(inst.field, failureMessage inst rule params)] := by
        simp [ruleFailures, markedFields, hplain, Combined.find?]
      rw [hone] at h
      exact congrArg Prod.fst (List.mem_singleton.mp h)
    · exact absurd h List.not_mem_nil
  · exact absurd h List.not_mem_nil

/-- Without combined fields the failures under a name are those of the instances on this field. -/
theorem filter_flatMap_failuresOn (hplain : engine.rules.combined = [])
    (instances : List (RuleInstance Host)) (name : String) :
    (instances.flatMap (engine.failuresOn shown)).filter (·.1 == name) =
      (RuleInstance.onField instances name).flatMap (engine.failuresOn shown) := by
  induction instances with
  | nil => rfl
  | cons inst rest ih =>
      rw [List.flatMap_cons, List.filter_append, ih, RuleInstance.onField, RuleInstance.onField]
      by_cases hfield : inst.field = name
      · rw [List.filter_cons_of_pos (by simpa using hfield), List.flatMap_cons]
        congr 1
        apply List.filter_eq_self.mpr
        intro failure hfailure
        simp [fst_of_mem_failuresOn hplain hfailure, hfield]
      · rw [List.filter_cons_of_neg (by simpa using hfield)]
        have hnone : (engine.failuresOn shown inst).filter (·.1 == name) = [] := by
          apply List.filter_eq_nil_iff.mpr
          intro failure hfailure
          simp [fst_of_mem_failuresOn hplain hfailure, hfield]
        rw [hnone, List.nil_append]

namespace Report

/-- Two passes that differ in the order of failures at most: both have ended with a fault, or both
have returned the same result with the same messages under the same names. -/
structure SameButOrder (left right : Report Host) : Prop where
  state_eq : left.engine.state = right.engine.state
  events_eq : left.journal.events = right.journal.events
  ends : (∃ fault fault', left.ending = .faulted fault ∧ right.ending = .faulted fault') ∨
    ∃ state, left.ending = .returned state ∧ right.ending = .returned state ∧
      left.engine.errors.short.entries.Perm right.engine.errors.short.entries ∧
      left.engine.errors.full.entries.Perm right.engine.errors.full.entries

end Report

namespace Reordered

variable {first second : Engine Host}

/-- Deciding comes to a fault in both orders or in none. -/
theorem fault?_decideAll_iff (h : first.Reordered second) (shown : Host) :
    (first.decideAll shown first.rules.instances).fault? = none ↔
      (second.decideAll shown second.rules.instances).fault? = none := by
  simp only [fault?_decideAll_eq_none_iff, (h.decides_eq shown).1, h.rules.perm.mem_iff]

/-- Without a fault deciding comes to the same failures, and under one name not even their order
differs. -/
theorem failures_decideAll (h : first.Reordered second) (hplain : first.rules.combined = [])
    {shown : Host} (hsound : (first.decideAll shown first.rules.instances).fault? = none) :
    let left := first.decideAll shown first.rules.instances
    let right := second.decideAll shown second.rules.instances
    left.failures.Perm right.failures ∧
      ∀ name, left.failures.filter (·.1 == name) = right.failures.filter (·.1 == name) := by
  have hsound' := (h.fault?_decideAll_iff shown).mp hsound
  rw [fault?_decideAll_eq_none_iff] at hsound hsound'
  rw [decideAll_of_sound hsound, decideAll_of_sound hsound', (h.decides_eq shown).2]
  refine ⟨h.rules.perm.flatMap_right _, fun name => ?_⟩
  have hplain' : second.rules.combined = [] := h.rules.combined_eq.symm.trans hplain
  rw [filter_flatMap_failuresOn hplain', filter_flatMap_failuresOn hplain', h.rules.onField_eq]

/-- Passes in both orders end alike, but for which of several faults comes first. -/
theorem exec (h : first.Reordered second) (honly : first.rules.OnlyRegistered)
    (hplain : first.rules.combined = []) (turns others : List (Turn Host)) (host : Host) :
    (first.exec turns host).SameButOrder (second.exec others host) := by
  let shown := (first.begin host).host
  obtain ⟨hleft, hending⟩ := first.exec_eq_decideAll honly host turns
  obtain ⟨hright, hending'⟩ := second.exec_eq_decideAll (h.onlyRegistered honly) host others
  rw [← h.begin_host_eq host] at hright hending'
  obtain ⟨hstate, hevents⟩ := first.state_events_exec turns host
  obtain ⟨hstate', hevents'⟩ := second.state_events_exec others host
  cases hfault : (first.decideAll shown first.rules.instances).fault? with
  | none =>
      have hfault' := (h.fault?_decideAll_iff shown).mp hfault
      obtain ⟨hperm, hsame⟩ := h.failures_decideAll hplain hfault
      have hends : (first.exec turns host).ending = (second.exec others host).ending := by
        rw [hending, hending']
        refine Decided.ending_congr (hfault.trans hfault'.symm) ?_
        rw [← List.length_eq_zero_iff, hperm.length_eq, List.length_eq_zero_iff]
      obtain ⟨state, hreturned⟩ := Decided.exists_ending_of_none hfault
      rw [← hleft, ← hright] at hsame
      obtain ⟨hshort, hfull⟩ := ErrorStore.recordAll_perm first.settings.scope hsame
      refine ⟨?_, ?_, Or.inr ⟨state, hending.trans hreturned, ?_, ?_, ?_⟩⟩
      · rw [hstate, hstate', hends]
      · rw [hevents, hevents', hends]
      · rw [← hends, hending, hreturned]
      · rw [(first.records_exec turns host).2, (second.records_exec others host).2,
          ← h.settings_eq]
        exact hshort
      · rw [(first.records_exec turns host).2, (second.records_exec others host).2,
          ← h.settings_eq]
        exact hfull
  | some fault =>
      have hfault' : (second.decideAll shown second.rules.instances).fault? ≠ none := by
        rw [ne_eq, ← h.fault?_decideAll_iff, hfault]
        exact Option.some_ne_none fault
      obtain ⟨fault', hfault'⟩ := Option.ne_none_iff_exists'.mp hfault'
      have hfaulted := hending.trans (Decided.ending_of_fault hfault)
      have hfaulted' := hending'.trans (Decided.ending_of_fault hfault')
      refine ⟨?_, ?_, Or.inl ⟨fault, fault', hfaulted, hfaulted'⟩⟩
      · rw [hstate, hstate', hfaulted, hfaulted']
        rfl
      · rw [hevents, hevents', hfaulted, hfaulted']
        rfl

end Reordered

/-- Only the order of rules on the same field matters.  Take two engines with registered rules only
and without combined fields that have the same instances on each field, in the same order.  Their
passes both end with a fault, or both return the same result, with the same events, in the same
state, and with the same messages under the same names.  In particular it makes no other difference
whether a chain of rules is attached to several different fields at once or to one field after the
other, whatever edits come before and after. -/
theorem exec_of_reordered :
    (∀ first second : Engine Host, first.Reordered second → first.rules.OnlyRegistered →
      first.rules.combined = [] → ∀ turns others host,
        (first.exec turns host).SameButOrder (second.exec others host)) ∧
    ∀ (engine : Engine Host) (fields : List String) (chain : List (String × List Param))
      (later : List (Edit Host)), fields.Nodup →
        let together := (Edit.attachChain fields chain ++ later).foldl edit engine
        let apart := ((fields.flatMap fun field => Edit.attachChain [field] chain) ++ later).foldl
          edit engine
        together.rules.OnlyRegistered → together.rules.combined = [] → ∀ turns others host,
          (together.exec turns host).SameButOrder (apart.exec others host) := by
  refine ⟨fun first second h honly hplain => h.exec honly hplain, ?_⟩
  intro engine fields chain later hfields together apart honly hplain
  have hrules : together.rules.Reordered apart.rules := by
    simp only [together, apart, foldl_edit, RuleSet.applyAll, List.foldl_append]
    exact (RuleSet.reordered_attachChain engine.registry engine.rules hfields chain).applyAll
      engine.registry later
  have hreordered : together.Reordered apart := by
    refine ⟨?_, ?_, ?_, ?_, hrules⟩ <;> simp only [together, apart, foldl_edit]
  exact hreordered.exec honly hplain

/-- A form with a name of one character and without a code. -/
def nameOnly : Engine Unit :=
  new (fun _ => Fields.toSource ⟨[("form[name]", .text "x")], []⟩) ⟨some "form"⟩ .builtin

/-- The name has to be longer, and there has to be a code. -/
def nameFirst : Engine Unit :=
  (nameOnly.edit (.attach ["name"] "lengthmin" [.text "3"])).edit (.attach ["code"] "present" [])

/-- The same rules in the other order. -/
def codeFirst : Engine Unit :=
  (nameOnly.edit (.attach ["code"] "present" [])).edit (.attach ["name"] "lengthmin" [.text "3"])

theorem reordered_codeFirst : nameFirst.Reordered codeFirst := by
  refine ⟨rfl, rfl, rfl, rfl, ⟨fun field => ?_, rfl, rfl⟩⟩
  by_cases hname : "name" = field
  · subst hname
    rfl
  · simp [RuleInstance.onField, nameFirst, codeFirst, nameOnly, edit, RuleSet.apply, new,
      RuleSet.empty, List.filter_cons, hname]

/-- A value that is long enough. -/
def longEnough : List (String × List Param) := [("present", []), ("lengthmin", [.text "3"])]

/-- Only the code fails at the first rule of the chain, so that it comes first if the chain is
attached to both fields at once. -/
theorem exec_of_nameOnly :
    let fields := ["name", "code"]
    let later := [Edit.override ["code"] "lengthmin" "Too short"]
    let together := (Edit.attachChain fields longEnough ++ later).foldl edit nameOnly
    let apart := ((fields.flatMap fun field => Edit.attachChain [field] longEnough) ++ later).foldl
      edit nameOnly
    nameFirst.Reordered codeFirst ∧ nameFirst.rules.OnlyRegistered ∧
    nameFirst.rules.combined = [] ∧
    (nameFirst.exec [] ()).engine.errors.short.names = ["name", "code"] ∧
    (codeFirst.exec [] ()).engine.errors.short.names = ["code", "name"] ∧
    (nameFirst.exec [] ()).SameButOrder (codeFirst.exec [] ()) ∧
    fields.Nodup ∧ together.rules.OnlyRegistered ∧ together.rules.combined = [] ∧
    (together.exec [] ()).engine.errors.short.names = ["code", "name"] ∧
    (apart.exec [] ()).engine.errors.short.names = ["name", "code"] ∧
    (together.exec [] ()).SameButOrder (apart.exec [] ()) := by
  intro fields later together apart
  obtain ⟨hreordered, hattached⟩ := @exec_of_reordered Unit
  have honly : nameFirst.rules.OnlyRegistered := by decide +kernel
  have hfields : fields.Nodup := by decide
  have honly' : together.rules.OnlyRegistered := by decide +kernel
  refine ⟨reordered_codeFirst, honly, rfl, by decide +kernel, by decide +kernel,
    hreordered _ _ reordered_codeFirst honly rfl [] [] (), hfields, honly', rfl, by decide +kernel,
    by decide +kernel, hattached nameOnly fields longEnough later hfields honly' rfl [] [] ()⟩

end Engine

end FormRules
