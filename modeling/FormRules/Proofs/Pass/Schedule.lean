/-
Passes in which the host follows a plan.

A plan gives each custom instance the conclusion of its verdict.  The host may conclude a verdict
within its own call or at a later turn, and verdicts in any order, as long as it keeps to the plan
and leaves the fields alone.  Only the states that the host comes by matter, so it may keep the tickets
in its state and decide by them.
-/
import FormRules.Proofs.Pass.Fate

namespace FormRules

variable {Host : Type}

/-- Replies count only if they have been given. -/
theorem Pass.Fresh.mem_given {pass : Pass Host} {news given : Replies} (h : pass.Fresh news)
    (hfind : ∀ ticket, pass.isOpen ticket = true →
      (news.find? fun entry => entry.1 == ticket) = given.find? fun entry => entry.1 == ticket)
    {entry : Ticket × Reply} (hentry : entry ∈ news) : entry ∈ given := by
  have hfound := Replies.find?_eq_some_of_mem h.nodup hentry
  rw [hfind entry.1 (h.isOpen entry hentry)] at hfound
  exact List.mem_of_find?_eq_some hfound

namespace Engine

/-- A reply that is as planned for the instance that its ticket belongs to. -/
def Planned (engine : Engine Host) (plan : Nat → Reply) (entry : Ticket × Reply) : Prop :=
  ∀ index, engine.rules.isCustom index = true → engine.ticketOf index = entry.1 →
    entry.2 = plan index

/-- A reply to the own ticket of an instance is as planned if it is the planned one. -/
theorem planned_ticketOf (engine : Engine Host) (plan : Nat → Reply) (index : Nat)
    (hcustom : engine.rules.isCustom index = true) :
    engine.Planned plan (engine.ticketOf index, plan index) := by
  intro other hother hticket
  rw [engine.ticketOf_injective hother hcustom hticket]

/-- What a listener does when its event is announced. -/
def listen (engine : Engine Host) (event : Event) : Turn Host :=
  (engine.listener event).getD fun host => (host, [])

theorem fire_eq_takeTurn (engine : Engine Host) (event : Event) (pass : Pass Host) :
    engine.fire event pass = (pass.note (.fired event)).takeTurn (engine.listen event) := by
  unfold fire listen
  cases engine.listener event <;> rfl

theorem fire_frame (engine : Engine Host) (event : Event) (pass : Pass Host) :
    (engine.fire event pass).host = (engine.listen event pass.host).1 ∧
      (engine.fire event pass).state = pass.state := by
  obtain ⟨_, htaken, _, _⟩ := (pass.note (.fired event)).exists_takeTurn (engine.listen event)
  rw [fire_eq_takeTurn, htaken]
  exact ⟨rfl, rfl⟩

/-- The turn of the host at a step of a pass: the calls of the instances one by one, and then the turns
at which the pass sleeps. -/
def stepTurn (engine : Engine Host) (turns : List (Turn Host)) (step : Nat) : Turn Host :=
  match engine.rules.instances[step]? with
  | some inst =>
      match inst.task with
      | .registered _ _ => fun host => (host, [])
      | .custom rule => engine.callOf step inst rule
  | none => turns[step - engine.rules.size]?.getD fun host => (host, [])

/-- The state of the host after its start and so many steps. -/
def hostAfter (engine : Engine Host) (turns : List (Turn Host)) (host : Host) : Nat → Host
  | 0 => (engine.listen .started host).1
  | step + 1 => (engine.stepTurn turns step (engine.hostAfter turns host step)).1

/-- The replies of the host at a step. -/
def repliesAt (engine : Engine Host) (turns : List (Turn Host)) (host : Host) (step : Nat) : Replies :=
  (engine.stepTurn turns step (engine.hostAfter turns host step)).2

/-- A turn of the host leaves what the source of values shows as it is, and replies as planned. -/
def Keeps (engine : Engine Host) (shown : Source) (plan : Nat → Reply) (turn : Turn Host)
    (host : Host) : Prop :=
  engine.source (turn host).1 = shown ∧ ∀ entry ∈ (turn host).2, engine.Planned plan entry

/-- The host follows a plan in the next pass.  It keeps to the plan at the start, at each step, and when
the terminal events are announced after all calls; and each verdict is concluded within its own call or at
a later step. -/
structure Follows (engine : Engine Host) (turns : List (Turn Host)) (host : Host)
    (shown : Source) (plan : Nat → Reply) : Prop where
  start_keeps : engine.Keeps shown plan (engine.listen .started) host
  step_keeps : ∀ step,
    engine.Keeps shown plan (engine.stepTurn turns step) (engine.hostAfter turns host step)
  end_keeps : ∀ step, engine.rules.size ≤ step →
    engine.Keeps shown plan (engine.listen .ended) (engine.hostAfter turns host step)
  conclusion_keeps : ∀ step, engine.rules.size ≤ step → ∀ conclusion : Conclusion,
    engine.Keeps shown plan (engine.listen conclusion.event)
      (engine.listen .ended (engine.hostAfter turns host step)).1
  concluded : ∀ index, engine.rules.isCustom index = true →
    ∃ step, index ≤ step ∧ engine.ticketOf index ∈ (engine.repliesAt turns host step).map Prod.fst

/-- A pass in which the host has taken a number of steps, and their replies to its verdicts have been
heard. -/
structure InStep (engine : Engine Host) (turns : List (Turn Host)) (host : Host) (count : Nat)
    (pass : Pass Host) : Prop where
  host_eq : pass.host = engine.hostAfter turns host count
  heard : ∀ index, engine.rules.isCustom index = true → ∀ step < count, index ≤ step →
    engine.ticketOf index ∈ (engine.repliesAt turns host step).map Prod.fst →
    engine.ticketOf index ∈ pass.journal.replies.map Prod.fst

/-- A pass in which the plan has been kept so far, over a number of steps if it is under way. -/
structure OnPlan (engine : Engine Host) (turns : List (Turn Host)) (host : Host) (shown : Source)
    (plan : Nat → Reply) (count : Nat) (pass : Pass Host) : Prop where
  source_eq : engine.source pass.host = shown
  planned : ∀ entry ∈ pass.journal.replies, engine.Planned plan entry
  inStep : pass.state = .running → engine.InStep turns host count pass

section Steps

variable {engine : Engine Host} {turns : List (Turn Host)}

theorem stepTurn_of_custom {index : Nat} {inst : RuleInstance Host} {rule : CustomRule Host}
    (hinst : engine.rules.instances[index]? = some inst) (htask : inst.task = .custom rule) :
    engine.stepTurn turns index = engine.callOf index inst rule := by
  simp only [stepTurn, hinst, htask]

theorem stepTurn_of_registered {index : Nat} {inst : RuleInstance Host} {name : String}
    {params : List Param} (hinst : engine.rules.instances[index]? = some inst)
    (htask : inst.task = .registered name params) :
    engine.stepTurn turns index = fun host => (host, []) := by
  simp only [stepTurn, hinst, htask]

/-- After the calls the steps are the turns of the host. -/
theorem stepTurn_of_size_le {step : Nat} (h : engine.rules.size ≤ step) :
    engine.stepTurn turns step = turns[step - engine.rules.size]?.getD fun host => (host, []) := by
  have hnone : engine.rules.instances[step]? = none := List.getElem?_eq_none_iff.mpr h
  simp only [stepTurn, hnone]

/-- A verdict is concluded while there are calls or turns. -/
theorem lt_of_mem_repliesAt {host : Host} {step : Nat} {ticket : Ticket}
    (h : ticket ∈ (engine.repliesAt turns host step).map Prod.fst) :
    step < engine.rules.size + turns.length := by
  by_contra hge
  have hlate : turns.length ≤ step - engine.rules.size := by omega
  rw [repliesAt, stepTurn_of_size_le (by omega), List.getElem?_eq_none_iff.mpr hlate] at h
  cases h

end Steps

/-- The tickets of the instances that have been called have been given out. -/
theorem Ledger.ticketOf_range {engine : Engine Host} {host : Host} {count index : Nat} {pass : Pass Host}
    (h : engine.Ledger host count pass) (hcustom : engine.rules.isCustom index = true)
    (hindex : index < count) :
    pass.firstTicket ≤ engine.ticketOf index ∧ engine.ticketOf index < pass.issued := by
  rw [h.issued_eq_ticketOf, h.firstTicket_eq]
  exact ⟨Nat.le_add_right _ _, engine.ticketOf_lt hcustom hindex⟩

namespace OnPlan

variable {engine : Engine Host} {turns : List (Turn Host)} {host : Host} {shown : Source}
  {plan : Nat → Reply} {count : Nat} {pass : Pass Host}

theorem congr {later : Pass Host} (h : engine.OnPlan turns host shown plan count pass)
    (hhost : later.host = pass.host) (hreplies : later.journal.replies = pass.journal.replies)
    (hstate : later.state = .running → pass.state = .running) :
    engine.OnPlan turns host shown plan count later where
  source_eq := hhost ▸ h.source_eq
  planned := hreplies ▸ h.planned
  inStep := fun hrunning =>
    ⟨hhost.trans (h.inStep (hstate hrunning)).host_eq, hreplies ▸ (h.inStep (hstate hrunning)).heard⟩

theorem note (h : engine.OnPlan turns host shown plan count pass) (entry : Entry)
    (hentry : ∀ ticket reply, entry ≠ .heard ticket reply) :
    engine.OnPlan turns host shown plan count (pass.note entry) := by
  refine h.congr rfl ?_ id
  cases entry with
  | heard ticket reply => exact absurd rfl (hentry ticket reply)
  | fired | checked | called | taken | recorded => simp [Pass.note]

theorem recordAll (h : engine.OnPlan turns host shown plan count pass)
    (failures : List (String × String)) :
    engine.OnPlan turns host shown plan count (engine.recordAll failures pass) :=
  h.congr rfl (by simp [Engine.recordAll]) id

/-- The replies of a turn that keeps to the plan are as planned. -/
theorem planned_takeTurn (h : ∀ entry ∈ pass.journal.replies, engine.Planned plan entry)
    {turn : Turn Host} (hkeeps : engine.Keeps shown plan turn pass.host) :
    ∀ entry ∈ (pass.takeTurn turn).journal.replies, engine.Planned plan entry := by
  obtain ⟨news, htaken, hfresh, hfind⟩ := pass.exists_takeTurn turn
  intro entry hentry
  simp only [htaken, Journal.replies_append, Journal.views_ofReplies, List.mem_append] at hentry
  rcases hentry with hold | hnew
  · exact h entry hold
  · exact hkeeps.2 entry (hfresh.mem_given hfind hnew)

/-- When a terminal event is announced the steps are over. -/
theorem fire (h : engine.OnPlan turns host shown plan count pass) {event : Event}
    (hkeeps : engine.Keeps shown plan (engine.listen event) pass.host)
    (hover : pass.state ≠ .running) :
    engine.OnPlan turns host shown plan count (engine.fire event pass) := by
  have hnoted := h.note (.fired event) (by simp)
  have hplanned := planned_takeTurn hnoted.planned hkeeps
  obtain ⟨news, htaken, _, _⟩ := (pass.note (.fired event)).exists_takeTurn (engine.listen event)
  rw [fire_eq_takeTurn]
  rw [htaken] at hplanned ⊢
  exact ⟨hkeeps.1, hplanned, fun hrunning => absurd hrunning hover⟩

theorem concludeIfDone (h : engine.OnPlan turns host shown plan count pass)
    (hplan : engine.Follows turns host shown plan) (hrunning : pass.state = .running)
    (hcalls : pass.reported = engine.rules.size → engine.rules.size ≤ count) :
    engine.OnPlan turns host shown plan count (engine.concludeIfDone pass) := by
  unfold Engine.concludeIfDone
  split
  · rename_i hdone
    have hend := hplan.end_keeps count (hcalls hdone)
    have hconclusion := hplan.conclusion_keeps count (hcalls hdone) (conclusionOf pass.errors)
    rw [← (h.inStep hrunning).host_eq] at hend hconclusion
    let completed : Pass Host := { pass with state := .completed (conclusionOf pass.errors) }
    have hcompleted : engine.OnPlan turns host shown plan count completed :=
      h.congr rfl rfl fun _ => hrunning
    obtain ⟨hhost, hstate⟩ := engine.fire_frame .ended completed
    refine (hcompleted.fire hend (by simp [completed])).fire ?_ ?_
    · rw [hhost]
      exact hconclusion
    · rw [hstate]
      simp [completed]
  · exact h

theorem report (h : engine.OnPlan turns host shown plan count pass)
    (hplan : engine.Follows turns host shown plan) (hrunning : pass.state = .running)
    (hcalls : pass.reported + 1 = engine.rules.size → engine.rules.size ≤ count) :
    engine.OnPlan turns host shown plan count (engine.report pass) := by
  have hcounted : engine.OnPlan turns host shown plan count { pass with reported := pass.reported + 1 } :=
    h.congr rfl rfl id
  exact hcounted.concludeIfDone hplan hrunning hcalls

theorem conclude (h : engine.OnPlan turns host shown plan count pass)
    (hplan : engine.Follows turns host shown plan) (hrunning : pass.state = .running)
    (hcalls : pass.reported + 1 = engine.rules.size → engine.rules.size ≤ count)
    (index : Nat) (reply : Reply) :
    engine.OnPlan turns host shown plan count (engine.conclude index reply pass) := by
  have hsettled := (h.note (.taken index reply) (by simp)).recordAll
    (engine.verdictFailures index reply)
  cases reply with
  | answered outcome => exact hsettled.report hplan hrunning hcalls
  | dropped => exact hsettled.congr rfl rfl id

/-- The replies that have come in are collected after all calls. -/
theorem collectAll (h : engine.OnPlan turns host shown plan count pass)
    (hplan : engine.Follows turns host shown plan) (hcalls : engine.rules.size ≤ count)
    (hphase : engine.Phase host engine.rules.size pass) (tickets : List Ticket) :
    engine.OnPlan turns host shown plan count (engine.collectAll tickets pass) := by
  induction tickets generalizing pass with
  | nil => exact h
  | cons ticket tickets ih =>
      have hcollected : engine.OnPlan turns host shown plan count (engine.collect ticket pass) := by
        rcases engine.collect_cases ticket pass with
          ⟨index, reply, hmem, _, hcollect⟩ | ⟨_, hcollect⟩
        · obtain ⟨hrunning, _⟩ :=
            hphase.awaited_eq_nil_or_running.resolve_left (List.ne_nil_of_mem hmem)
          have hothers : engine.OnPlan turns host shown plan count
              { pass with awaited := pass.awaited.filter fun entry => entry.2 != ticket } :=
            h.congr rfl rfl id
          rw [hcollect]
          exact hothers.conclude hplan hrunning.state_eq (fun _ => hcalls) index reply
        · rw [hcollect]
          exact h
      exact ih hcollected (engine.collect_spec hphase ticket).1

/-- The next step: its turn is taken, and the replies to the verdicts that are then open count. -/
theorem proceed (h : engine.OnPlan turns host shown plan count pass)
    (hplan : engine.Follows turns host shown plan) (hrunning : pass.state = .running)
    (turn : Turn Host) (hturn : turn pass.host = engine.stepTurn turns count pass.host)
    (hrange : ∀ index ≤ count, engine.rules.isCustom index = true →
      pass.firstTicket ≤ engine.ticketOf index ∧ engine.ticketOf index < pass.issued) :
    engine.OnPlan turns host shown plan (count + 1) (pass.takeTurn turn) := by
  obtain ⟨hhost, hheard⟩ := h.inStep hrunning
  rw [hhost] at hturn
  have hkeeps : engine.Keeps shown plan turn pass.host := by
    rw [Keeps, hhost, hturn]
    exact hplan.step_keeps count
  have hplanned := planned_takeTurn h.planned hkeeps
  obtain ⟨news, htaken, _, hfind⟩ := pass.exists_takeTurn turn
  rw [htaken] at hplanned ⊢
  refine ⟨hkeeps.1, hplanned, fun _ => ⟨?_, ?_⟩⟩
  · simp only [hhost, hturn, hostAfter]
  · intro index hcustom step hstep hle hsaid
    simp only [Journal.replies_append, Journal.views_ofReplies, List.map_append, List.mem_append]
    by_cases hold : engine.ticketOf index ∈ pass.journal.replies.map Prod.fst
    · exact Or.inl hold
    rcases Nat.lt_succ_iff_lt_or_eq.mp hstep with hearlier | rfl
    · exact Or.inl (hheard index hcustom step hearlier hle hsaid)
    · -- The verdict is open, so the first reply of this step to it counts.
      have hopen := (pass.isOpen_iff (engine.ticketOf index)).mpr ⟨hrange index hle hcustom, hold⟩
      refine Or.inr (not_not.mp fun hunsaid => ?_)
      rw [← Replies.find?_eq_none_iff, hfind _ hopen, Replies.find?_eq_none_iff, hhost, hturn] at hunsaid
      exact hunsaid hsaid

/-- The turn of a registered rule keeps to the plan: nothing is called in it. -/
theorem runRegistered (h : engine.OnPlan turns host shown plan count pass)
    (hplan : engine.Follows turns host shown plan) (hrunning : engine.Running host count pass)
    {inst : RuleInstance Host} (hinst : engine.rules.instances[count]? = some inst) {name : String}
    {params : List Param} (htask : inst.task = .registered name params) {next : Pass Host}
    (hrun : engine.runRegistered count inst name params pass = .ok next) :
    engine.OnPlan turns host shown plan (count + 1) next := by
  have hcounts := hrunning.ledger.counts_eq
  have hregistered : engine.rules.isCustom count ≠ true := by
    rw [ne_eq, engine.rules.isCustom_iff]
    rintro ⟨other, rule, hother, hcustom⟩
    obtain rfl := Option.some.inj (hinst.symm.trans hother)
    cases htask.symm.trans hcustom
  have hidle : engine.OnPlan turns host shown plan (count + 1) pass := by
    refine h.proceed hplan hrunning.state_eq (fun host => (host, [])) ?_ fun index hle hcustom => ?_
    · rw [stepTurn_of_registered hinst htask]
    · refine hrunning.ledger.ticketOf_range hcustom (Nat.lt_of_le_of_ne hle ?_)
      rintro rfl
      exact hregistered hcustom
  simp only [Engine.runRegistered, bind, Except.bind] at hrun
  split at hrun
  · cases hrun
  · injection hrun with hnext
    rw [← hnext]
    have hnoted := (hidle.note (.checked count) (by simp)).recordAll
    refine (hnoted _).report hplan hrunning.state_eq fun hdone => ?_
    have hdone : pass.reported + 1 = engine.rules.size := hdone
    omega

/-- The call of a custom rule keeps to the plan: its verdict is the next one issued. -/
theorem call (h : engine.OnPlan turns host shown plan count pass)
    (hplan : engine.Follows turns host shown plan) (hrunning : engine.Running host count pass)
    {inst : RuleInstance Host} (hinst : engine.rules.instances[count]? = some inst)
    {rule : CustomRule Host} (htask : inst.task = .custom rule) :
    engine.OnPlan turns host shown plan (count + 1) (engine.call count inst.field rule pass) := by
  have hticket := hrunning.ledger.issued_eq_ticketOf
  let input := engine.customInput pass.host inst.field
  have hnoted : engine.OnPlan turns host shown plan count
      ({ pass with issued := pass.issued + 1 }.note (.called count input pass.issued)) := by
    apply note _ _ (by simp)
    exact h.congr rfl rfl id
  refine hnoted.proceed hplan hrunning.state_eq _ ?_ fun index hle hcustom => ?_
  · rw [stepTurn_of_custom hinst htask, callOf, ← hticket]
    rfl
  · rcases Nat.lt_or_eq_of_le hle with hlt | rfl
    · obtain ⟨hfirst, hbelow⟩ := hrunning.ledger.ticketOf_range hcustom hlt
      exact ⟨hfirst, Nat.lt_succ_of_lt hbelow⟩
    · rw [← hticket]
      exact ⟨hrunning.ledger.issued_eq ▸ Nat.le_add_right _ _, Nat.lt_succ_self _⟩

/-- The turn of a custom rule keeps to the plan. -/
theorem runCustom (h : engine.OnPlan turns host shown plan count pass)
    (hplan : engine.Follows turns host shown plan) (hrunning : engine.Running host count pass)
    {inst : RuleInstance Host} (hinst : engine.rules.instances[count]? = some inst)
    {rule : CustomRule Host} (htask : inst.task = .custom rule) :
    engine.OnPlan turns host shown plan (count + 1) (engine.runCustom count inst rule pass) := by
  have hcounts := hrunning.ledger.counts_eq
  have hcalled := h.call hplan hrunning hinst htask
  obtain ⟨_, hcall, _⟩ := engine.exists_call count inst.field rule pass
  rw [Engine.runCustom]
  cases hsaid : (engine.call count inst.field rule pass).reply? pass.issued with
  | some reply =>
      rw [engine.settle_of_some count hsaid]
      refine hcalled.conclude hplan ?_ ?_ count reply
      · rw [hcall]
        exact hrunning.state_eq
      · rw [hcall]
        intro hdone
        have hdone : pass.reported + 1 = engine.rules.size := hdone
        omega
  | none =>
      rw [engine.settle_of_none count hsaid]
      exact hcalled.congr rfl rfl id

/-- The turn of an instance keeps to the plan. -/
theorem run (h : engine.OnPlan turns host shown plan count pass)
    (hplan : engine.Follows turns host shown plan) (hrunning : engine.Running host count pass)
    {inst : RuleInstance Host} (hinst : engine.rules.instances[count]? = some inst) {next : Pass Host}
    (hrun : engine.run count inst pass = .ok next) :
    engine.OnPlan turns host shown plan (count + 1) next := by
  cases htask : inst.task with
  | registered name params =>
      simp only [Engine.run, htask] at hrun
      exact h.runRegistered hplan hrunning hinst htask hrun
  | custom rule =>
      rw [engine.run_of_custom count htask] at hrun
      injection hrun with hnext
      rw [← hnext]
      exact h.runCustom hplan hrunning hinst htask

end OnPlan

variable {engine : Engine Host} {shown : Source} {plan : Nat → Reply} {turns : List (Turn Host)}
  {host : Host}

theorem Follows.onPlan_begin (hplan : engine.Follows turns host shown plan) :
    engine.OnPlan turns host shown plan 0 (engine.begin host) := by
  let blank : Pass Host := ⟨host, .empty, .running, engine.issued, engine.issued, 0, 0, [], []⟩
  have hplanned : ∀ entry ∈ (engine.fire .started blank).journal.replies, engine.Planned plan entry := by
    rw [fire_eq_takeTurn]
    exact OnPlan.planned_takeTurn (by simp [blank, Pass.note]) hplan.start_keeps
  have hhost := (engine.fire_frame .started blank).1
  refine ⟨hhost ▸ hplan.start_keeps.1, hplanned, fun _ => ⟨hhost, fun _ _ step hstep => ?_⟩⟩
  exact absurd hstep (Nat.not_lt_zero step)

theorem Follows.atTurn_of_le (hplan : engine.Follows turns host shown plan) {count : Nat}
    (hcount : count ≤ engine.rules.size) :
    engine.OnPlan turns host shown plan count (engine.atTurn host count) := by
  induction count with
  | zero => exact hplan.onPlan_begin
  | succ count ih =>
      have hkept := ih (Nat.le_of_lt hcount)
      have hinst : engine.rules.instances[count]? = some engine.rules.instances[count] :=
        List.getElem?_eq_getElem hcount
      rcases engine.atTurn_succ_cases host hinst with ⟨hrunning, hrun⟩ | ⟨_, hstopped⟩
      · exact hkept.run hplan hrunning hinst hrun
      · rw [hstopped]
        exact ⟨hkept.source_eq, hkept.planned, fun hrunning => by cases hrunning⟩

/-- At each turn of an instance the source shows the same. -/
theorem Follows.source_atTurn (hplan : engine.Follows turns host shown plan) (count : Nat) :
    engine.source (engine.atTurn host count).host = shown := by
  rcases Nat.le_total count engine.rules.size with hle | hge
  · exact (hplan.atTurn_of_le hle).source_eq
  · rw [engine.atTurn_of_size_le host hge]
    exact (hplan.atTurn_of_le (Nat.le_refl _)).source_eq

/-- While the pass sleeps the host takes the steps after the calls, until nothing is awaited any more or
no turn is left. -/
theorem Follows.sleep (hplan : engine.Follows turns host shown plan) (done left : List (Turn Host))
    (hturns : turns = done ++ left) {pass : Pass Host}
    (hphase : engine.Phase host engine.rules.size pass) (hsilent : Silent pass)
    (hkept : engine.OnPlan turns host shown plan (engine.rules.size + done.length) pass) :
    ∃ count, engine.OnPlan turns host shown plan count (engine.sleep left pass).1 ∧
      ((engine.sleep left pass).1.awaited = [] ∨ count = engine.rules.size + turns.length) := by
  induction left generalizing done pass with
  | nil => exact ⟨_, hkept, Or.inr (by rw [hturns, List.append_nil])⟩
  | cons turn left ih =>
      by_cases hempty : pass.awaited = []
      · rw [engine.sleep_of_settled hempty]
        exact ⟨_, hkept, Or.inl hempty⟩
      · rw [engine.sleep_of_waiting hempty]
        obtain ⟨hrunning, hopen⟩ := hphase.awaited_eq_nil_or_running.resolve_left hempty
        obtain ⟨hwoken, hstill, _⟩ := engine.wake_spec hphase hsilent hempty turn
        have hstep : engine.stepTurn turns (engine.rules.size + done.length) = turn := by
          rw [stepTurn_of_size_le (Nat.le_add_right _ _), Nat.add_sub_cancel_left, hturns]
          simp
        have htaken : engine.OnPlan turns host shown plan (engine.rules.size + done.length + 1)
            (pass.takeTurn turn) := by
          refine hkept.proceed hplan hrunning.state_eq turn (by rw [hstep]) fun index _ hcustom => ?_
          exact hrunning.ledger.ticketOf_range hcustom (engine.rules.lt_size_of_isCustom hcustom)
        have hphase' : engine.Phase host engine.rules.size (pass.takeTurn turn) := by
          obtain ⟨_, heq, hnews, _⟩ := pass.exists_takeTurn turn
          rw [heq]
          exact .underway (hrunning.hear hnews _) hopen
        have hnext := htaken.collectAll hplan (by omega) hphase'
          (((pass.takeTurn turn).heard.drop pass.heard.length).map Prod.fst)
        have hlength : (done ++ [turn]).length = done.length + 1 := List.length_append
        refine ih (done ++ [turn]) (by rw [hturns, List.append_assoc]; rfl) hwoken hstill ?_
        rw [hlength]
        exact hnext

/-- A walk that has come through leads to an end that is on plan, and no verdict is left over. -/
theorem Follows.finish (hplan : engine.Follows turns host shown plan) {walked : Pass Host}
    (hphase : engine.Phase host engine.rules.size walked)
    (hempty : engine.rules.size = 0 → engine.Running host 0 walked)
    (hkept : engine.OnPlan turns host shown plan engine.rules.size walked) :
    (∃ count, engine.OnPlan turns host shown plan count (engine.finish turns walked).1) ∧
      (engine.finish turns walked).2 ≠ .abandoned := by
  obtain ⟨hcollected, hsilent, _⟩ := engine.collected_spec hphase hempty
  have hstart : engine.OnPlan turns host shown plan engine.rules.size (engine.collected walked) := by
    unfold Engine.collected
    by_cases hsize : engine.rules.size = 0
    · have hconcluded := hkept.concludeIfDone hplan (hempty hsize).state_eq fun _ => Nat.le_refl _
      have hended := (hempty hsize).concludeIfDone_phase
      rw [if_pos hsize]
      refine hconcluded.collectAll hplan (Nat.le_refl _) ?_ _
      rwa [hsize]
    · rw [if_neg hsize]
      exact hkept.collectAll hplan (Nat.le_refl _) hphase _
  obtain ⟨count, hslept, hover⟩ := hplan.sleep [] turns rfl hcollected hsilent hstart
  obtain ⟨hphase', hsilent', hdone⟩ := engine.sleep_spec hcollected hsilent turns
  simp only [Engine.finish, hdone]
  refine ⟨⟨count, hslept⟩, ?_⟩
  by_cases hsettled : (engine.sleep turns (engine.collected walked)).1.awaited = []
  · simp [hsettled]
  · obtain ⟨entry, hentry⟩ := List.exists_mem_of_ne_nil _ hsettled
    obtain ⟨hrunning, _⟩ := hphase'.awaited_eq_nil_or_running.resolve_left hsettled
    have hcall := hrunning.ledger.awaited_called entry hentry
    have hcustom := ((hrunning.ledger.mem_calls_fst_iff _).mp (List.mem_map_of_mem hcall)).2
    obtain ⟨step, hle, hsaid⟩ := hplan.concluded entry.1 hcustom
    have hheard := (hslept.inStep hrunning.state_eq).heard entry.1 hcustom step
      (hover.resolve_left hsettled ▸ lt_of_mem_repliesAt hsaid) hle hsaid
    rw [← hrunning.ledger.ticket_eq entry hcall] at hheard
    exact absurd hheard ((Pass.reply?_eq_none_iff _ _).mp (hsilent' entry hentry))

/-- A pass in which the host follows a plan is not abandoned, and verdicts are concluded as
planned. -/
theorem Follows.exec (hplan : engine.Follows turns host shown plan) :
    (engine.exec turns host).ending ≠ .abandoned ∧
      ∀ index reply, (engine.exec turns host).journal.Concluded index reply →
        reply = plan index := by
  have hkept : (∃ count, engine.OnPlan turns host shown plan count (engine.passWith turns host).1) ∧
      (engine.passWith turns host).2 ≠ .abandoned := by
    rcases engine.passWith_cases turns host with
      ⟨hpass, _, hphase⟩ | ⟨index, fault, hfault, _, _, hpass⟩
    · rw [hpass]
      exact hplan.finish hphase (engine.running_of_empty host) (hplan.atTurn_of_le (Nat.le_refl _))
    · have hturn := hplan.atTurn_of_le (Nat.le_of_lt hfault.lt_size)
      rw [hpass]
      exact ⟨⟨index, hturn.congr rfl rfl fun hrunning => by cases hrunning⟩, by simp⟩
  obtain ⟨⟨_, hplanned⟩, hreturns⟩ := hkept
  refine ⟨hreturns, ?_⟩
  obtain ⟨_, prior, hledger, _, hcalls, _⟩ := (engine.passWith_fate turns host).exists_ledger
  rintro index reply ⟨ticket, hcall, hreply⟩
  have hcall : (index, ticket) ∈ prior.journal.calls := hcalls ▸ hcall
  have hcustom := ((hledger.mem_calls_fst_iff _).mp (List.mem_map_of_mem hcall)).2
  exact hplanned.planned _ hreply index hcustom (hledger.ticket_eq _ hcall).symm

end Engine

end FormRules
