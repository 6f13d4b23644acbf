/-
What a pass over registered rules leaves in the store of failures.

A failing instance writes its message under its field and, if that is a combined field, under the
sources of it.  A name stands where the first failing instance has written it, with the message of
the last one.
-/
import FormRules.Proofs.Pass.Registered
import FormRules.Proofs.Store.Order

namespace FormRules

variable {Host : Type}

namespace Engine

instance (engine : Engine Host) (host : Host) (index : Nat) :
    Decidable (engine.RejectsAt host index) :=
  decidable_of_iff _ (engine.checkFailures_ne_nil_iff host index)

/-- The instances whose registered rules reject their fields, in the order of the rule set. -/
def rejected (engine : Engine Host) (host : Host) : List Nat :=
  (List.range engine.rules.size).filter fun index => engine.RejectsAt host index

theorem checkFailures_of_not_rejectsAt (engine : Engine Host) {host : Host} {index : Nat}
    (h : ¬ engine.RejectsAt host index) : engine.checkFailures host index = [] := by
  rw [← engine.checkFailures_ne_nil_iff host index] at h
  exact not_not.mp h

theorem RejectsAt.lt_size {engine : Engine Host} {host : Host} {index : Nat}
    (h : engine.RejectsAt host index) : index < engine.rules.size :=
  engine.rules.lt_size_of_isRegistered h.isRegistered

/-- The names that have been written are those of the rejecting instances, one after the other. -/
theorem fst_flatMap_checkFailures (engine : Engine Host) (host : Host) :
    ((List.range engine.rules.size).flatMap (engine.checkFailures host)).map Prod.fst =
      (engine.rejected host).flatMap engine.writes := by
  rw [rejected, List.map_flatMap]
  generalize List.range engine.rules.size = indices
  induction indices with
  | nil => rfl
  | cons index indices ih =>
      rw [List.flatMap_cons, ih]
      by_cases hrejects : engine.RejectsAt host index
      · obtain ⟨message, _, hfailures⟩ := engine.checkFailures_of_rejectsAt hrejects
        simp [hrejects, hfailures, Function.comp_def]
      · simp [hrejects, engine.checkFailures_of_not_rejectsAt hrejects]

/-- The turn of one more instance puts its failures into the store. -/
theorem short_errorsBelow_succ (engine : Engine Host) (host : Host) (count : Nat) :
    (engine.errorsBelow host (count + 1)).short =
      (engine.errorsBelow host count).short.insertAll (engine.checkFailures host count) := by
  rw [errorsBelow, errorsBelow, ErrorStore.short_recordAll, ErrorStore.short_recordAll,
    List.range_succ, List.flatMap_append, List.flatMap_singleton, MessageMap.insertAll_append]

/-- An instance that rejects its field leaves its message under each name that it writes. -/
theorem get?_errorsBelow_succ_of_writes (engine : Engine Host) {host : Host} {count : Nat}
    {name : String} (hrejects : engine.RejectsAt host count)
    (hwrites : name ∈ engine.writes count) :
    (engine.errorsBelow host (count + 1)).short.get? name = engine.messageAt? count := by
  obtain ⟨message, hmessage, hfailures⟩ := engine.checkFailures_of_rejectsAt hrejects
  rw [short_errorsBelow_succ, hmessage, hfailures]
  apply MessageMap.get?_insertAll_of_forall
  · exact List.mem_map.mpr ⟨name, hwrites, rfl⟩
  · intro other hother
    obtain ⟨_, _, hpair⟩ := List.mem_map.mp hother
    exact (Prod.mk.inj hpair).2.symm

/-- All other names keep their messages. -/
theorem get?_errorsBelow_succ_of_not (engine : Engine Host) {host : Host} {count : Nat}
    {name : String} (h : engine.RejectsAt host count → name ∉ engine.writes count) :
    (engine.errorsBelow host (count + 1)).short.get? name =
      (engine.errorsBelow host count).short.get? name := by
  rw [short_errorsBelow_succ]
  apply MessageMap.get?_insertAll_of_notMem
  by_cases hrejects : engine.RejectsAt host count
  · obtain ⟨_, _, hfailures⟩ := engine.checkFailures_of_rejectsAt hrejects
    simpa [hfailures, Function.comp_def] using h hrejects
  · simp [engine.checkFailures_of_not_rejectsAt hrejects]

/-- Of the first instances that reject their fields, the one at an index is the last that writes a
name. -/
def RejectsLast (engine : Engine Host) (host : Host) (count : Nat) (name : String)
    (index : Nat) : Prop :=
  index < count ∧ engine.RejectsAt host index ∧ name ∈ engine.writes index ∧
    ∀ later < count, index < later → engine.RejectsAt host later → name ∉ engine.writes later

theorem rejectsLast_succ_iff (engine : Engine Host) {host : Host} {count : Nat} {name : String}
    (h : engine.RejectsAt host count → name ∉ engine.writes count) (index : Nat) :
    engine.RejectsLast host (count + 1) name index ↔ engine.RejectsLast host count name index := by
  constructor
  · rintro ⟨hindex, hrejects, hwrites, hlast⟩
    rcases Nat.lt_succ_iff_lt_or_eq.mp hindex with hlt | rfl
    · exact ⟨hlt, hrejects, hwrites, fun later hlater => hlast later (Nat.lt_succ_of_lt hlater)⟩
    · exact absurd hwrites (h hrejects)
  · rintro ⟨hindex, hrejects, hwrites, hlast⟩
    refine ⟨Nat.lt_succ_of_lt hindex, hrejects, hwrites, ?_⟩
    intro later hlater hafter
    rcases Nat.lt_succ_iff_lt_or_eq.mp hlater with hlt | rfl
    · exact hlast later hlt hafter
    · exact h

/-- The message under a name is that of the last instance that has written it. -/
theorem get?_errorsBelow_iff (engine : Engine Host) (host : Host) (count : Nat)
    (name message : String) :
    (engine.errorsBelow host count).short.get? name = some message ↔
      ∃ index, engine.RejectsLast host count name index ∧
        engine.messageAt? index = some message := by
  induction count with
  | zero =>
      simp [errorsBelow, ErrorStore.recordAll, ErrorStore.empty, MessageMap.empty,
        MessageMap.get?, RejectsLast]
  | succ count ih =>
      -- The instance whose turn comes last replaces the message, or leaves the name alone.
      by_cases hwrites : engine.RejectsAt host count ∧ name ∈ engine.writes count
      · rw [engine.get?_errorsBelow_succ_of_writes hwrites.1 hwrites.2]
        constructor
        · intro hmessage
          refine ⟨count, ⟨Nat.lt_succ_self count, hwrites.1, hwrites.2, ?_⟩, hmessage⟩
          intro later hlater hafter
          exact absurd hlater (Nat.not_lt.mpr hafter)
        · rintro ⟨index, ⟨hindex, _, _, hlast⟩, hmessage⟩
          rcases Nat.lt_succ_iff_lt_or_eq.mp hindex with hlt | rfl
          · exact absurd hwrites.2 (hlast count (Nat.lt_succ_self count) hlt hwrites.1)
          · exact hmessage
      · have hunwritten : engine.RejectsAt host count → name ∉ engine.writes count :=
          fun hrejects hname => hwrites ⟨hrejects, hname⟩
        rw [engine.get?_errorsBelow_succ_of_not hunwritten, ih]
        simp only [engine.rejectsLast_succ_iff hunwritten]

/-- What the store of failures holds after a pass over registered rules that returns.  Its names are
the fields on which an instance fails, and the sources of those of them that are combined fields.
The message under a name is that of the last failing instance that has written it.  The names stand
in the order in which the failing instances have written them first, each instance its field and
then the sources of it.  The map by qualified names is the same with each name qualified. -/
theorem store_of_exec (engine : Engine Host) (honly : engine.rules.OnlyRegistered)
    (turns : List (Turn Host)) (host : Host)
    (hreturns : ∃ state, (engine.exec turns host).ending = .returned state) :
    let errors := (engine.exec turns host).engine.errors
    (∀ name, name ∈ errors.short.names ↔
      ∃ index inst, engine.rules.instances[index]? = some inst ∧ engine.RejectsAt host index ∧
        (name = inst.field ∨
          ∃ combined, Combined.find? engine.rules.combined inst.field = some combined ∧
            name ∈ combined.sources)) ∧
    (∀ name message, errors.short.get? name = some message ↔
      ∃ index, engine.RejectsLast host engine.rules.size name index ∧
        engine.messageAt? index = some message) ∧
    errors.short.names = ((engine.rejected host).flatMap engine.writes).eraseDups ∧
    errors.full = errors.short.qualified engine.settings.scope := by
  intro errors
  have herrors : errors = engine.errorsBelow host engine.rules.size := by
    obtain ⟨state, hstate⟩ := hreturns
    rcases engine.exec_of_onlyRegistered honly turns host with
      ⟨_, herrors, _⟩ | ⟨_, _, _, _, _, hending⟩
    · exact herrors
    · cases hstate.symm.trans hending
  have hnames : errors.short.names = ((engine.rejected host).flatMap engine.writes).eraseDups := by
    rw [herrors, errorsBelow, ErrorStore.names_short_recordAll, fst_flatMap_checkFailures]
  refine ⟨?_, ?_, hnames, ?_⟩
  · intro name
    rw [hnames, List.mem_eraseDups, List.mem_flatMap]
    constructor
    · rintro ⟨index, hindex, hwrites⟩
      have hrejects : engine.RejectsAt host index := by
        simpa using (List.mem_filter.mp hindex).2
      obtain ⟨inst, rule, params, hinst, htask, _⟩ := id hrejects
      rcases (engine.mem_writes_iff hinst name).mp hwrites with hfield | ⟨_, hsource⟩
      · exact ⟨index, inst, hinst, hrejects, Or.inl hfield⟩
      · exact ⟨index, inst, hinst, hrejects, Or.inr hsource⟩
    · rintro ⟨index, inst, hinst, hrejects, hname⟩
      have hregistered := honly inst (List.mem_of_getElem? hinst)
      refine ⟨index, List.mem_filter.mpr ⟨?_, by simpa using hrejects⟩, ?_⟩
      · exact List.mem_range.mpr hrejects.lt_size
      · exact (engine.mem_writes_iff hinst name).mpr (hname.imp_right fun h => ⟨hregistered, h⟩)
  · intro name message
    rw [herrors]
    exact engine.get?_errorsBelow_iff host engine.rules.size name message
  · rw [herrors]
    exact ErrorStore.full_recordAll_eq engine.settings.scope _

/-- A date made of a day and a month, with the same rule on the date and on the day.  The form has
no values. -/
def emptyDate : Engine Unit :=
  let combined : Combined := ⟨["day", "month"], none, none, some "date"⟩
  let made : Engine Unit := new (fun _ => Fields.empty.toSource) ⟨some "form"⟩
    (.ofList [Rule.present])
  ((made.edit (.combine combined)).edit (.attach ["date", "day"] "present" [])).edit
    (.override ["day"] "present" "Which day?")

/-- The failure on the date marks the day and the month.  The later failure on the day replaces its
message and leaves its place. -/
theorem store_of_emptyDate :
    emptyDate.rules.OnlyRegistered ∧ (emptyDate.exec [] ()).ending = .returned .failed ∧
    (emptyDate.exec [] ()).engine.errors.short.names = ["date", "day", "month"] ∧
    (emptyDate.exec [] ()).engine.errors.short.get? "day" = some "Which day?" ∧
    (emptyDate.exec [] ()).engine.errors.full.names =
      ["form[date]", "form[day]", "form[month]"] := by
  have honly : emptyDate.rules.OnlyRegistered := by decide
  have hending : (emptyDate.exec [] ()).ending = .returned .failed := by decide
  obtain ⟨_, hmessage, hnames, hfull⟩ := store_of_exec emptyDate honly [] () ⟨_, hending⟩
  have hwritten : (emptyDate.exec [] ()).engine.errors.short.names = ["date", "day", "month"] :=
    hnames.trans (by decide)
  have hlast : emptyDate.RejectsLast () emptyDate.rules.size "day" 1 := by
    refine ⟨by decide, by decide, by decide, ?_⟩
    intro later hlater hafter
    exact absurd hlater (Nat.not_lt.mpr hafter)
  refine ⟨honly, hending, hwritten, (hmessage "day" _).mpr ⟨1, hlast, by rfl⟩, ?_⟩
  rw [hfull, MessageMap.names_qualified, hwritten]
  rfl

end Engine

end FormRules
