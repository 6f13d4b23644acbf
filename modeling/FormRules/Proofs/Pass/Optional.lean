/-
Making fields optional.

An optional field that is left empty is not checked.  So making fields optional takes failures of
registered rules on empty fields away and changes nothing else: the pass takes the same course, and
can only come to pass where it has failed.
-/
import FormRules.Proofs.Pass.History
import FormRules.Proofs.Pass.Lockstep

namespace FormRules

variable {Host : Type}

namespace Engine

/-- The engine with some fields made optional. -/
def relax (engine : Engine Host) (fields : List String) : Engine Host :=
  engine.edit (.require fields false)

/-- The latest override of a field counts. -/
theorem required?_require (engine : Engine Host) (fields : List String) (required : Bool)
    (field : String) :
    (engine.edit (.require fields required)).rules.required? field =
      if field ∈ fields then some required else engine.rules.required? field := by
  have hlatest : (engine.edit (.require fields required)).rules.required? field =
      ((fields.find? fun other => other == field).map fun _ => required).or
        (engine.rules.required? field) := by
    simp only [edit, RuleSet.apply, RuleSet.required?, List.find?_append, List.find?_map,
      Option.map_or, Option.map_map]
    rfl
  rw [hlatest]
  split
  · rename_i hfield
    have hfound : (fields.find? fun other => other == field).isSome = true :=
      List.find?_isSome.mpr ⟨field, hfield, beq_self_eq_true field⟩
    obtain ⟨other, hother⟩ := Option.isSome_iff_exists.mp hfound
    simp [hother]
  · rename_i hfield
    have hnone : (fields.find? fun other => other == field) = none := by
      apply List.find?_eq_none.mpr
      intro other hother hsame
      exact hfield (beq_iff_eq.mp hsame ▸ hother)
    simp [hnone]

theorem isSkipped_relax (engine : Engine Host) (fields : List String) (field : String)
    (value : Option Value) :
    (engine.relax fields).isSkipped field value =
      if field ∈ fields then isBlankValue value else engine.isSkipped field value := by
  unfold isSkipped relax
  rw [required?_require]
  split <;> simp

/-- A field that has been made optional is not checked if it is empty. -/
theorem decideInstance_relax (engine : Engine Host) (fields : List String) (shown : Host)
    (inst : RuleInstance Host) (name : String) (params : List Param) :
    (engine.relax fields).decideInstance shown inst name params =
      if inst.field ∈ fields ∧ isBlankValue (engine.value shown inst.field) = true then
        (engine.registry.lookup name).map fun rule => (true, rule)
      else engine.decideInstance shown inst name params := by
  have hskipped := engine.isSkipped_relax fields inst.field (engine.value shown inst.field)
  have hrelaxed : (engine.relax fields).decideInstance shown inst name params = (do
      let rule ← engine.registry.lookup name
      if (engine.relax fields).isSkipped inst.field (engine.value shown inst.field) then
        pure (true, rule)
      else
        let passed ← rule.check (engine.contextOf shown inst params)
        pure (passed, rule)) := rfl
  rw [hrelaxed, hskipped, decideInstance]
  by_cases hfield : inst.field ∈ fields
  · cases hblank : isBlankValue (engine.value shown inst.field) with
    | true =>
        simp only [hfield, ↓reduceIte, and_self]
        cases engine.registry.lookup name <;> rfl
    | false => simp [hfield, isSkipped, hblank]
  · simp [hfield]

/-- Making fields optional keeps the pass in step with what it was. -/
theorem alongside_relax (engine : Engine Host) (fields : List String) :
    engine.Alongside (engine.relax fields) where
  settings_eq := rfl
  source_eq := rfl
  listener_eq := rfl
  issued_eq := rfl
  combined_eq := rfl
  tasks_eq := rfl
  faults := by
    intro index inst like name params hinst hlike _ shown fault hfault
    obtain rfl : inst = like := Option.some.inj (hinst.symm.trans hlike)
    rw [decideInstance_relax] at hfault
    split at hfault
    · rw [decideInstance_eq_error_iff]
      cases hlookup : engine.registry.lookup name with
      | error other =>
          rw [hlookup] at hfault
          exact Or.inl (congrArg Except.error (Except.error.inj hfault))
      | ok rule =>
          rw [hlookup] at hfault
          cases hfault
    · exact hfault

/-- The instance at an index runs a registered rule on one of some fields, which is empty at its
turn. -/
def FindsEmpty (engine : Engine Host) (fields : List String) (host : Host) (index : Nat) : Prop :=
  ∃ inst name params, engine.rules.instances[index]? = some inst ∧
    inst.task = .registered name params ∧ inst.field ∈ fields ∧
    isBlankValue (engine.value (engine.atTurn host index).host inst.field) = true

variable {engine : Engine Host} {fields : List String} {host : Host} {index : Nat}

theorem checkFailures_relax_of_findsEmpty
    (hhost : (engine.atTurn host index).host = ((engine.relax fields).atTurn host index).host)
    (h : engine.FindsEmpty fields host index) :
    (engine.relax fields).checkFailures host index = [] := by
  obtain ⟨inst, name, params, hinst, htask, hempty⟩ := h
  have hlike : (engine.relax fields).rules.instances[index]? = some inst := hinst
  simp only [checkFailures, hlike, htask, decideInstance_relax, ← hhost, hempty, and_self,
    ↓reduceIte]
  cases engine.registry.lookup name <;> rfl

theorem checkFailures_relax_of_not_findsEmpty
    (hhost : (engine.atTurn host index).host = ((engine.relax fields).atTurn host index).host)
    (h : ¬ engine.FindsEmpty fields host index) :
    (engine.relax fields).checkFailures host index = engine.checkFailures host index := by
  have hsame : (engine.relax fields).rules.instances[index]? = engine.rules.instances[index]? := rfl
  unfold checkFailures
  rw [hsame]
  cases hinst : engine.rules.instances[index]? with
  | none => rfl
  | some inst =>
      cases htask : inst.task with
      | custom rule => simp only [htask]
      | registered name params =>
          have hasked : ¬ (inst.field ∈ fields ∧ isBlankValue
              (engine.value (engine.atTurn host index).host inst.field) = true) :=
            fun hempty => h ⟨inst, name, params, hinst, htask, hempty⟩
          simp only [htask, decideInstance_relax, ← hhost, if_neg hasked]
          rfl

/-- A failure that is left when fields have been made optional has been there before. -/
theorem mem_failuresOf_of_relax (hsound : engine.SoundBelow host engine.rules.size)
    {entry : Entry} {failure : String × String}
    (h : failure ∈ (engine.relax fields).failuresOf host entry) :
    failure ∈ engine.failuresOf host entry := by
  cases entry with
  | checked index =>
      have hfailure : failure ∈ (engine.relax fields).checkFailures host index := h
      have hindex : index < engine.rules.size := engine.rules.lt_size_of_isRegistered
        (((engine.relax fields).checkFailures_ne_nil_iff host index).mp
          (List.ne_nil_of_mem hfailure)).isRegistered
      have hbelow := hsound.mono (Nat.le_of_lt hindex)
      have hhost := (engine.alongside_relax fields).host_eq hbelow hindex
      by_cases hempty : engine.FindsEmpty fields host index
      · rw [checkFailures_relax_of_findsEmpty hhost hempty] at hfailure
        exact absurd hfailure List.not_mem_nil
      · rwa [checkFailures_relax_of_not_findsEmpty hhost hempty] at hfailure
  | taken | fired | called | heard | recorded => exact h

/-- With fields made optional the same instances reject their fields, but for those that find one of
these fields empty. -/
theorem rejectsAt_relax_iff (hsound : engine.SoundBelow host engine.rules.size) :
    (engine.relax fields).RejectsAt host index ↔
      engine.RejectsAt host index ∧ ¬ engine.FindsEmpty fields host index := by
  by_cases hindex : index < engine.rules.size
  · have hbelow := hsound.mono (Nat.le_of_lt hindex)
    have hhost := (engine.alongside_relax fields).host_eq hbelow hindex
    rw [← checkFailures_ne_nil_iff, ← checkFailures_ne_nil_iff]
    by_cases hempty : engine.FindsEmpty fields host index
    · simp [checkFailures_relax_of_findsEmpty hhost hempty, hempty]
    · simp [checkFailures_relax_of_not_findsEmpty hhost hempty, hempty]
  · have hleft : ¬ (engine.relax fields).RejectsAt host index :=
      fun h => hindex (engine.rules.lt_size_of_isRegistered h.isRegistered)
    have hright : ¬ engine.RejectsAt host index :=
      fun h => hindex (engine.rules.lt_size_of_isRegistered h.isRegistered)
    simp [hleft, hright]

/-- Fewer failures leave no name that more have not left. -/
theorem names_subset_of_subset (scope : Option String) {some all : List (String × String)}
    (h : ∀ failure ∈ some, failure ∈ all) :
    (∀ name ∈ (ErrorStore.empty.recordAll scope some).short.names,
      name ∈ (ErrorStore.empty.recordAll scope all).short.names) ∧
    ∀ name ∈ (ErrorStore.empty.recordAll scope some).full.names,
      name ∈ (ErrorStore.empty.recordAll scope all).full.names := by
  have hnames : ∀ name ∈ some.map Prod.fst, name ∈ all.map Prod.fst := by
    intro name hname
    obtain ⟨failure, hfailure, rfl⟩ := List.mem_map.mp hname
    exact List.mem_map_of_mem (h failure hfailure)
  simp only [ErrorStore.mem_names_short_recordAll, ErrorStore.mem_names_full_recordAll]
  refine ⟨hnames, ?_⟩
  rintro name ⟨field, hfield, hsame⟩
  exact ⟨field, hnames field hfield, hsame⟩

/-- A pass with fewer failing fields ends alike, or passes where it has failed. -/
theorem endingOf_cases (settled : Bool) (dropped : Nat) {fewer more : ErrorStore}
    (h : ∀ name ∈ fewer.short.names, name ∈ more.short.names) :
    endingOf settled dropped fewer = endingOf settled dropped more ∨
      endingOf settled dropped more = .returned .failed ∧
        endingOf settled dropped fewer = .returned .passed := by
  by_cases hmore : more.short.entries = []
  · have hfewer : fewer.short.entries = [] := by
      rw [MessageMap.entries_eq_nil_iff] at hmore ⊢
      exact fun name hname => hmore name (h name hname)
    left
    simp only [endingOf, conclusionOf_congr (iff_of_true hfewer hmore)]
  · by_cases hfewer : fewer.short.entries = []
    · have hfailed : conclusionOf more = .failed := by
        simp [conclusionOf, ErrorStore.isEmpty, MessageMap.isEmpty, hmore]
      have hpassed : conclusionOf fewer = .passed := by
        simp [conclusionOf, ErrorStore.isEmpty, MessageMap.isEmpty, hfewer]
      -- The conclusion shows only where every verdict has been answered.
      by_cases hcompletes : settled = true ∧ dropped = 0
      · simp [endingOf, hcompletes, hfailed, hpassed, PassState.ofConclusion]
      · left
        unfold endingOf
        split
        · rename_i hsettled
          rw [if_neg fun hzero => hcompletes ⟨hsettled, hzero⟩,
            if_neg fun hzero => hcompletes ⟨hsettled, hzero⟩]
        · rfl
    · left
      simp only [endingOf, conclusionOf_congr (iff_of_false hfewer hmore)]

/-- Making fields optional never hurts a pass that returns.  It returns still, calls the same custom
rules with the same inputs, keeps no failure under a name under which there was none, and has the
same result unless it has failed and passes now.  The same instances fail, but for those of
registered rules that find one of these fields empty. -/
theorem exec_relax (engine : Engine Host) (fields : List String) (turns : List (Turn Host))
    (host : Host) (hreturns : ∃ state, (engine.exec turns host).ending = .returned state) :
    let before := engine.exec turns host
    let after := (engine.relax fields).exec turns host
    (after.ending = before.ending ∨
      before.ending = .returned .failed ∧ after.ending = .returned .passed) ∧
    after.journal.calls = before.journal.calls ∧ after.journal.inputs = before.journal.inputs ∧
    (∀ name ∈ after.engine.errors.short.names, name ∈ before.engine.errors.short.names) ∧
    (∀ name ∈ after.engine.errors.full.names, name ∈ before.engine.errors.full.names) ∧
    ∀ index, (engine.relax fields).FailsIn host after.journal index ↔
      engine.FailsIn host before.journal index ∧ ¬ engine.FindsEmpty fields host index := by
  intro before after
  have hfine : ∀ fault, before.ending ≠ .faulted fault := by
    obtain ⟨state, hstate⟩ := hreturns
    intro fault hfault
    cases hstate.symm.trans hfault
  have hsound := engine.soundBelow_of_exec turns host hfine
  have hends := (engine.alongside_relax fields).exec turns host hfine
  obtain ⟨hcalls, hreplies, hinputs⟩ := hends.views_eq
  have hfewer : ∀ failure ∈ before.journal.course.flatMap ((engine.relax fields).failuresOf host),
      failure ∈ before.journal.course.flatMap (engine.failuresOf host) := by
    intro failure hfailure
    obtain ⟨entry, hentry, hfailure⟩ := List.mem_flatMap.mp hfailure
    exact List.mem_flatMap.mpr ⟨entry, hentry, mem_failuresOf_of_relax hsound hfailure⟩
  obtain ⟨hshort, hfull⟩ := names_subset_of_subset engine.settings.scope hfewer
  rw [← hends.leftErrors] at hshort hfull
  have hafter : after.engine.errors = _ := hends.rightErrors
  refine ⟨?_, hcalls.symm, hinputs.symm, ?_, ?_, ?_⟩
  · obtain ⟨settled, dropped, hending, hending'⟩ := hends.endings
    rw [hending, hending']
    apply endingOf_cases
    rw [hends.rightErrors]
    exact hshort
  · rw [hafter]
    exact hshort
  · rw [hafter]
    exact hfull
  · intro index
    obtain ⟨prior, hledger, _, _, hconcluded, _⟩ := engine.exists_settled_exec turns host hreturns
    have hsame : after.journal.Concluded index (.answered .fail) ↔
        before.journal.Concluded index (.answered .fail) := by
      rw [Journal.Concluded, Journal.Concluded, hcalls, hreplies]
    have hcustom : before.journal.Concluded index (.answered .fail) →
        ¬ engine.FindsEmpty fields host index := by
      rintro hfails ⟨inst, name, params, hinst, htask, _⟩
      have hother := (hledger.not_registered_of_concluded ((hconcluded index _).mp hfails)).1
      rw [(engine.rules.isRegistered_iff index).mpr ⟨inst, name, params, hinst, htask⟩] at hother
      cases hother
    rw [FailsIn, FailsIn, rejectsAt_relax_iff hsound, hsame]
    tauto

theorem walk_congr {first second : Engine Host} (hrun : first.run = second.run) (index : Nat)
    (instances : List (RuleInstance Host)) (pass : Pass Host) :
    first.walk index instances pass = second.walk index instances pass := by
  induction instances generalizing index pass with
  | nil => rfl
  | cons inst rest ih =>
      simp only [walk, hrun]
      cases second.run index inst pass with
      | ok next => exact ih (index + 1) next
      | error fault => rfl

theorem sleep_congr {first second : Engine Host} (hwake : first.wake = second.wake)
    (turns : List (Turn Host)) (pass : Pass Host) :
    first.sleep turns pass = second.sleep turns pass := by
  induction turns generalizing pass with
  | nil => rfl
  | cons turn turns ih => simp only [sleep, hwake, ih]

/-- To require fields that have no override changes no decision. -/
theorem decideInstance_require (engine : Engine Host) {fields : List String}
    (hnone : ∀ field ∈ fields, engine.rules.required? field = none) :
    (engine.edit (.require fields true)).decideInstance = engine.decideInstance := by
  have hskipped : (engine.edit (.require fields true)).isSkipped = engine.isSkipped := by
    funext field value
    unfold isSkipped
    rw [required?_require]
    split
    · rename_i hfield
      simp [hnone field hfield]
    · rfl
  funext shown inst name params
  unfold decideInstance
  rw [hskipped]
  rfl

/-- To require fields that have no override changes nothing in a pass. -/
theorem exec_require (engine : Engine Host) {fields : List String}
    (hnone : ∀ field ∈ fields, engine.rules.required? field = none) (turns : List (Turn Host))
    (host : Host) :
    (engine.edit (.require fields true)).exec turns host =
      { engine.exec turns host with
        engine := (engine.exec turns host).engine.edit (.require fields true) } := by
  have hdecide := engine.decideInstance_require hnone
  have hrun : (engine.edit (.require fields true)).run = engine.run := by
    funext index inst pass
    unfold run runRegistered
    rw [hdecide]
    rfl
  have hwake : (engine.edit (.require fields true)).wake = engine.wake := rfl
  have hfinish : ∀ walked, (engine.edit (.require fields true)).finish turns walked =
      engine.finish turns walked := by
    intro walked
    unfold finish
    rw [sleep_congr hwake]
    rfl
  have hpass : (engine.edit (.require fields true)).passWith turns host =
      engine.passWith turns host := by
    unfold passWith
    rw [walk_congr hrun]
    simp only [hfinish]
    rfl
  unfold exec
  rw [hpass]
  rfl

/-- Overrides of whether fields are required.  Making any fields optional never hurts a pass that
returns, whatever else the form holds: it returns still, calls the same custom rules with the same
inputs, keeps no failure under a name under which there was none, and has the same result unless it
has failed and passes now; the same instances fail, but for those of registered rules that find
one of these fields empty at their turns.  To require fields that have no override changes nothing
in any pass. -/
theorem overrides_of_exec (engine : Engine Host) (turns : List (Turn Host)) (host : Host) :
    (∀ fields, (∃ state, (engine.exec turns host).ending = .returned state) →
      let relaxed := engine.edit (.require fields false)
      let before := engine.exec turns host
      let after := relaxed.exec turns host
      (after.ending = before.ending ∨
        before.ending = .returned .failed ∧ after.ending = .returned .passed) ∧
      after.journal.calls = before.journal.calls ∧
      after.journal.inputs = before.journal.inputs ∧
      (∀ name ∈ after.engine.errors.short.names, name ∈ before.engine.errors.short.names) ∧
      (∀ name ∈ after.engine.errors.full.names, name ∈ before.engine.errors.full.names) ∧
      ∀ index, relaxed.FailsIn host after.journal index ↔
        engine.FailsIn host before.journal index ∧ ¬ engine.FindsEmpty fields host index) ∧
    ∀ fields, (∀ field ∈ fields, engine.rules.required? field = none) →
      (engine.edit (.require fields true)).exec turns host =
        { engine.exec turns host with
          engine := (engine.exec turns host).engine.edit (.require fields true) } :=
  ⟨fun fields hreturns => engine.exec_relax fields turns host hreturns,
    fun _ hnone => engine.exec_require hnone turns host⟩

/-- A custom rule that passes its field within its call. -/
def passes : CustomRule Unit := fun _ ticket _ => ((), [(ticket, .answered .pass)])

/-- A form that asks for a name, which is missing, and has a custom rule on another field. -/
def missingName : Engine Unit :=
  ((new (fun _ => Fields.empty.toSource) {} (.ofList [Rule.present])).edit
    (.attach ["name"] "present" [])).edit (.extend ["code"] passes none)

/-- When the name is optional its rule does not fail any more, and the custom rule is called as
before.  When it is required the pass fails as before. -/
theorem overrides_of_missingName :
    let relaxed := missingName.edit (.require ["name"] false)
    (missingName.exec [] ()).ending = .returned .failed ∧
    missingName.FindsEmpty ["name"] () 0 ∧
    ¬ relaxed.FailsIn () (relaxed.exec [] ()).journal 0 ∧
    (relaxed.exec [] ()).journal.inputs = (missingName.exec [] ()).journal.inputs ∧
    missingName.rules.required? "name" = none ∧
    ((missingName.edit (.require ["name"] true)).exec [] ()).ending = .returned .failed := by
  intro relaxed
  obtain ⟨hrelax, hrequire⟩ := overrides_of_exec missingName [] ()
  have hending : (missingName.exec [] ()).ending = .returned .failed := by decide
  have hempty : missingName.FindsEmpty ["name"] () 0 :=
    ⟨_, "present", [], rfl, rfl, List.mem_singleton_self _, by decide⟩
  have hnone : missingName.rules.required? "name" = none := rfl
  obtain ⟨_, _, hinputs, _, _, hfails⟩ := hrelax ["name"] ⟨_, hending⟩
  have hrequired := hrequire ["name"] (fun field hfield => List.mem_singleton.mp hfield ▸ hnone)
  refine ⟨hending, hempty, fun h => ((hfails 0).mp h).2 hempty, hinputs, hnone, ?_⟩
  rw [hrequired]
  exact hending

end Engine

end FormRules
