/-
Passes over registered rules as one row of decisions.

In such a pass every instance is decided on what the source of values shows when the start has been
announced.  So going through the instances once, up to the first fault, tells what the pass records
and how it ends.
-/
import FormRules.Proofs.Pass.Registered

namespace FormRules

variable {Host : Type}

/-- What comes of instances that are decided one after the other: the failures up to the first
fault, and that fault. -/
structure Decided where
  failures : List (String × String)
  fault? : Option Fault

namespace Decided

/-- How a pass ends that comes to this. -/
def ending : Decided → Ending
  | ⟨_, some fault⟩ => .faulted fault
  | ⟨[], none⟩ => .returned .passed
  | ⟨_ :: _, none⟩ => .returned .failed

theorem ending_ne_abandoned (decided : Decided) : decided.ending ≠ .abandoned := by
  rcases decided with ⟨_ | _, _ | _⟩ <;> simp [ending]

theorem ending_of_fault {decided : Decided} {fault : Fault} (h : decided.fault? = some fault) :
    decided.ending = .faulted fault := by
  obtain ⟨failures, found⟩ := decided
  obtain rfl : found = some fault := h
  rfl

/-- Without a fault the result tells whether there are failures. -/
theorem exists_ending_of_none {decided : Decided} (h : decided.fault? = none) :
    ∃ state, decided.ending = .returned state := by
  obtain ⟨failures, found⟩ := decided
  obtain rfl : found = none := h
  cases failures <;> exact ⟨_, rfl⟩

/-- Only whether there are failures matters for the end of a pass, and the fault. -/
theorem ending_congr {first second : Decided} (hfault : first.fault? = second.fault?)
    (hfailures : first.failures = [] ↔ second.failures = []) : first.ending = second.ending := by
  rcases first with ⟨_ | _, _ | _⟩ <;> rcases second with ⟨_ | _, _ | _⟩ <;>
    simp_all [ending]

/-- Without a fault the store of failures leads to the end of the pass. -/
theorem ending_eq_ofConclusion (scope : Option String) (failures : List (String × String)) :
    ending ⟨failures, none⟩ =
      .returned (.ofConclusion (Engine.conclusionOf (.recordAll .empty scope failures))) := by
  have hempty := (ErrorStore.entries_recordAll_eq_nil_iff scope failures).1
  cases failures with
  | nil => rfl
  | cons failure rest =>
      have hsome : (ErrorStore.empty.recordAll scope (failure :: rest)).isEmpty = false := by
        simpa [ErrorStore.isEmpty, MessageMap.isEmpty] using hempty
      simp [ending, Engine.conclusionOf, hsome, PassState.ofConclusion]

end Decided

namespace Engine

/-- The state of the host when the start of a pass has been announced. -/
theorem begin_host (engine : Engine Host) (host : Host) :
    (engine.begin host).host =
      match engine.listener .started with
      | some listener => (listener host).1
      | none => host := by
  simp only [begin, fire]
  cases engine.listener .started with
  | none => rfl
  | some listener =>
      obtain ⟨_, hturn, _⟩ := Pass.exists_takeTurn (Pass.note
        ⟨host, .empty, .running, engine.issued, engine.issued, 0, 0, [], []⟩ (.fired .started))
        listener
      exact congrArg Pass.host hturn

/-- The fault that the registered rule of an instance finds on what a host shows. -/
def faultOn? (engine : Engine Host) (shown : Host) (inst : RuleInstance Host) : Option Fault :=
  match inst.task with
  | .registered name params =>
      match engine.decideInstance shown inst name params with
      | .error fault => some fault
      | .ok _ => none
  | .custom _ => none

/-- The failures that an instance leads to when its registered rule decides it on what a host
shows. -/
def failuresOn (engine : Engine Host) (shown : Host) (inst : RuleInstance Host) :
    List (String × String) :=
  match inst.task with
  | .registered name params =>
      match engine.decideInstance shown inst name params with
      | .ok (false, rule) => engine.ruleFailures inst rule params
      | _ => []
  | .custom _ => []

/-- Decides instances one after the other on what a host shows. -/
def decideAll (engine : Engine Host) (shown : Host) : List (RuleInstance Host) → Decided
  | [] => ⟨[], none⟩
  | inst :: rest =>
      match engine.faultOn? shown inst with
      | some fault => ⟨[], some fault⟩
      | none =>
          let decided := engine.decideAll shown rest
          ⟨engine.failuresOn shown inst ++ decided.failures, decided.fault?⟩

variable {engine : Engine Host} {shown : Host}

theorem decideAll_of_sound {instances : List (RuleInstance Host)}
    (h : ∀ inst ∈ instances, engine.faultOn? shown inst = none) :
    engine.decideAll shown instances = ⟨instances.flatMap (engine.failuresOn shown), none⟩ := by
  induction instances with
  | nil => rfl
  | cons inst rest ih =>
      have hrest := ih fun later hlater => h later (List.mem_cons_of_mem inst hlater)
      simp only [decideAll, h inst List.mem_cons_self, hrest, List.flatMap_cons]

theorem decideAll_of_fault {before after : List (RuleInstance Host)} {inst : RuleInstance Host}
    {fault : Fault} (hbefore : ∀ earlier ∈ before, engine.faultOn? shown earlier = none)
    (hfault : engine.faultOn? shown inst = some fault) :
    engine.decideAll shown (before ++ inst :: after) =
      ⟨before.flatMap (engine.failuresOn shown), some fault⟩ := by
  induction before with
  | nil => simp only [List.nil_append, decideAll, hfault, List.flatMap_nil]
  | cons earlier before ih =>
      have hrest := ih fun other hother => hbefore other (List.mem_cons_of_mem earlier hother)
      simp only [List.cons_append, decideAll, hbefore earlier List.mem_cons_self, hrest,
        List.flatMap_cons]

/-- Some instance faults exactly if deciding comes to a fault. -/
theorem fault?_decideAll_eq_none_iff (instances : List (RuleInstance Host)) :
    (engine.decideAll shown instances).fault? = none ↔
      ∀ inst ∈ instances, engine.faultOn? shown inst = none := by
  induction instances with
  | nil => simp [decideAll]
  | cons inst rest ih => cases hfault : engine.faultOn? shown inst <;> simp [decideAll, hfault, ih]

variable (engine) (honly : engine.rules.OnlyRegistered) (host : Host)

include honly

/-- The instance at an index faults at its turn if it faults on what the start has shown. -/
theorem faultsAt_iff_faultOn? {index : Nat} {inst : RuleInstance Host}
    (hinst : engine.rules.instances[index]? = some inst) (fault : Fault) :
    engine.FaultsAt host index fault ↔
      engine.faultOn? (engine.begin host).host inst = some fault := by
  have hindex : index < engine.rules.size := (List.getElem?_eq_some_iff.mp hinst).1
  obtain ⟨name, params, htask⟩ := honly inst (List.mem_of_getElem? hinst)
  rw [faultsAt_iff_decideInstance, engine.atTurn_host honly host hindex]
  simp only [hinst, Option.some.injEq, faultOn?]
  constructor
  · rintro ⟨_, _, _, rfl, hother, hdecide⟩
    simp only [hother, hdecide]
  · intro hfault
    simp only [htask] at hfault
    refine ⟨inst, name, params, rfl, htask, ?_⟩
    cases hdecide : engine.decideInstance (engine.begin host).host inst name params with
    | error found => simpa [hdecide] using hfault
    | ok decision => simp [hdecide] at hfault

theorem checkFailures_eq_failuresOn {index : Nat} {inst : RuleInstance Host}
    (hinst : engine.rules.instances[index]? = some inst) :
    engine.checkFailures host index = engine.failuresOn (engine.begin host).host inst := by
  have hindex : index < engine.rules.size := (List.getElem?_eq_some_iff.mp hinst).1
  rw [← engine.atTurn_host honly host hindex, checkFailures, hinst]
  rfl

/-- The first instances lead to the failures that they lead to on what the start has shown. -/
theorem flatMap_checkFailures {count : Nat} (hcount : count ≤ engine.rules.size) :
    (List.range count).flatMap (engine.checkFailures host) =
      (engine.rules.instances.take count).flatMap (engine.failuresOn (engine.begin host).host) := by
  induction count with
  | zero => rfl
  | succ count ih =>
      have hinst : engine.rules.instances[count]? = some engine.rules.instances[count] :=
        List.getElem?_eq_getElem hcount
      rw [List.range_succ, List.flatMap_append, ih (Nat.le_of_lt hcount), List.flatMap_singleton,
        engine.checkFailures_eq_failuresOn honly host hinst, List.take_add_one, hinst,
        List.flatMap_append]
      simp

/-- Where the instances below an index are sound at their turns they are sound on what the start has
shown. -/
theorem faultOn?_of_soundBelow {index : Nat} (hsound : engine.SoundBelow host index) :
    ∀ inst ∈ engine.rules.instances.take index,
      engine.faultOn? (engine.begin host).host inst = none := by
  intro inst hmem
  obtain ⟨earlier, hlt, hget⟩ := List.mem_take_iff_getElem.mp hmem
  obtain ⟨hindex, hsize⟩ := Nat.lt_min.mp hlt
  have hinst : engine.rules.instances[earlier]? = some inst := by
    rw [List.getElem?_eq_getElem hsize, hget]
  by_contra hne
  obtain ⟨fault, hfault⟩ := Option.ne_none_iff_exists'.mp hne
  exact hsound earlier hindex fault
    ((engine.faultsAt_iff_faultOn? honly host hinst fault).mpr hfault)

/-- A pass over registered rules records what deciding the instances comes to, and ends so. -/
theorem exec_eq_decideAll (turns : List (Turn Host)) :
    let report := engine.exec turns host
    let decided := engine.decideAll (engine.begin host).host engine.rules.instances
    report.journal.records = decided.failures ∧ report.ending = decided.ending := by
  intro report decided
  rcases engine.exec_cases_of_onlyRegistered honly turns host with
    ⟨hsound, hrecords, hending⟩ | ⟨index, fault, hfault, hsound, hrecords, hending⟩
  · have hbelow : engine.SoundBelow host engine.rules.size := fun earlier _ => hsound earlier
    have hnone := engine.faultOn?_of_soundBelow honly host hbelow
    rw [engine.flatMap_checkFailures honly host (Nat.le_refl _)] at hrecords
    rw [RuleSet.size, List.take_length] at hnone hrecords
    have hdecided : decided = ⟨report.journal.records, none⟩ := by
      rw [hrecords]
      exact decideAll_of_sound hnone
    refine ⟨by rw [hdecided], ?_⟩
    rw [hdecided, Decided.ending_eq_ofConclusion engine.settings.scope, hending,
      (engine.records_exec turns host).2]
  · have hnone := engine.faultOn?_of_soundBelow honly host hsound
    rw [engine.flatMap_checkFailures honly host (Nat.le_of_lt hfault.lt_size)] at hrecords
    have hindex : index < engine.rules.instances.length := hfault.lt_size
    have hfound := (engine.faultsAt_iff_faultOn? honly host (List.getElem?_eq_getElem hindex)
      fault).mp hfault
    have hdecided : decided = ⟨report.journal.records, some fault⟩ := by
      have hsplit : engine.rules.instances = engine.rules.instances.take index ++
          engine.rules.instances[index] :: engine.rules.instances.drop (index + 1) := by
        rw [← List.drop_eq_getElem_cons hindex, List.take_append_drop]
      rw [hrecords, ← decideAll_of_fault hnone hfound, ← hsplit]
    exact ⟨by rw [hdecided], by rw [hdecided, hending]; rfl⟩

end Engine

end FormRules
