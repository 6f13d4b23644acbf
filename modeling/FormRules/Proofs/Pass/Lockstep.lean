/-
Passes in lockstep.

The failures that a pass records have no influence on what it does next, but for the conclusion that
it announces at its end.  So the passes of two engines whose instances run the same rules go on in
lockstep: they check and call the same instances at the same turns, hear the same replies, and take
the same conclusions over.
-/
import FormRules.Proofs.Pass.History

namespace FormRules

variable {Host : Type}

/-- Whether an entry neither announces an event nor records a failure. -/
@[simp] def Entry.isCourse : Entry → Bool
  | .checked _ | .called _ _ _ | .heard _ _ | .taken _ _ => true
  | .fired _ | .recorded _ _ => false

namespace Journal

/-- What happened in a pass, but for its announcements and the failures recorded. -/
def course (journal : Journal) : Journal := journal.filter Entry.isCourse

@[simp] theorem course_nil : course [] = [] := rfl

@[simp] theorem course_cons (entry : Entry) (rest : Journal) :
    course (entry :: rest) = if entry.isCourse then entry :: course rest else course rest :=
  List.filter_cons

@[simp] theorem course_append (first second : Journal) :
    course (first ++ second) = course first ++ course second :=
  List.filter_append _ _

@[simp] theorem course_ofRecords (failures : List (String × String)) :
    course (ofRecords failures) = [] := by
  apply List.filter_eq_nil_iff.mpr
  intro entry hentry
  obtain ⟨_, _, rfl⟩ := List.mem_map.mp hentry
  exact Bool.false_ne_true

/-- The course tells what has been called and heard. -/
theorem views_course (journal : Journal) :
    journal.course.calls = journal.calls ∧ journal.course.replies = journal.replies ∧
      journal.course.inputs = journal.inputs := by
  induction journal with
  | nil => exact ⟨rfl, rfl, rfl⟩
  | cons entry rest ih =>
      obtain ⟨hcalls, hreplies, hinputs⟩ := ih
      simp only [inputs] at hinputs
      cases entry <;> simp [inputs, hcalls, hreplies, hinputs]

end Journal

/-- The failures of a pass are told by its course. -/
theorem Engine.flatMap_failuresOf_course (engine : Engine Host) (host : Host) (journal : Journal) :
    journal.course.flatMap (engine.failuresOf host) =
      journal.flatMap (engine.failuresOf host) := by
  induction journal with
  | nil => rfl
  | cons entry rest ih =>
      cases entry <;> simp [failuresOf, ih]

namespace Pass

/-- Two passes that have come to the same point.  They may differ in the failures recorded. -/
structure Level (left right : Pass Host) : Prop where
  host_eq : left.host = right.host
  firstTicket_eq : left.firstTicket = right.firstTicket
  issued_eq : left.issued = right.issued
  reported_eq : left.reported = right.reported
  dropped_eq : left.dropped = right.dropped
  awaited_eq : left.awaited = right.awaited
  course_eq : left.journal.course = right.journal.course

namespace Level

variable {left right : Pass Host}

theorem refl (pass : Pass Host) : Level pass pass := ⟨rfl, rfl, rfl, rfl, rfl, rfl, rfl⟩

theorem heard_eq (h : Level left right) : left.heard = right.heard := by
  rw [heard, heard, ← (Journal.views_course _).2.1, h.course_eq, (Journal.views_course _).2.1]

theorem reply?_eq (h : Level left right) (ticket : Ticket) :
    left.reply? ticket = right.reply? ticket := by
  rw [reply?, reply?, h.heard_eq]

theorem isOpen_eq (h : Level left right) (ticket : Ticket) :
    left.isOpen ticket = right.isOpen ticket := by
  rw [isOpen, isOpen, h.firstTicket_eq, h.issued_eq, h.reply?_eq]

theorem note (h : Level left right) (entry : Entry) : Level (left.note entry) (right.note entry) :=
  { h with course_eq := by simp [Pass.note, h.course_eq] }

theorem hear (h : Level left right) (ticket : Ticket) (reply : Reply) :
    Level (left.hear ticket reply) (right.hear ticket reply) := by
  unfold Pass.hear
  rw [h.isOpen_eq]
  split
  · exact h.note _
  · exact h

theorem hearAll (h : Level left right) (given : Replies) :
    Level (left.hearAll given) (right.hearAll given) := by
  induction given generalizing left right with
  | nil => exact h
  | cons entry rest ih => exact ih (h.hear entry.1 entry.2)

theorem takeTurn (h : Level left right) (turn : Turn Host) :
    Level (left.takeTurn turn) (right.takeTurn turn) := by
  have hturned : Level { left with host := (turn left.host).1 }
      { right with host := (turn right.host).1 } :=
    { h with host_eq := by rw [h.host_eq] }
  have hheard := hturned.hearAll (turn left.host).2
  unfold Pass.takeTurn
  rw [h.host_eq] at hheard ⊢
  exact hheard

/-- Failures may be recorded in either pass. -/
theorem recordAll (h : Level left right) (first second : Engine Host)
    (failures others : List (String × String)) :
    Level (first.recordAll failures left) (second.recordAll others right) :=
  { h with course_eq := by simp [Engine.recordAll, h.course_eq] }

end Level

end Pass

namespace Engine

theorem finish_ne_faulted (engine : Engine Host) (turns : List (Turn Host)) (walked : Pass Host)
    (fault : Fault) : (engine.finish turns walked).2 ≠ .faulted fault := by
  simp only [finish]
  split <;> simp

/-- No instance faults in a pass that does not end with a fault. -/
theorem soundBelow_of_exec (engine : Engine Host) (turns : List (Turn Host)) (host : Host)
    (hfine : ∀ fault, (engine.exec turns host).ending ≠ .faulted fault) :
    engine.SoundBelow host engine.rules.size := by
  rcases engine.passWith_cases turns host with ⟨_, hsound, _⟩ | ⟨_, fault, _, _, _, hpass⟩
  · exact hsound
  · exact absurd (congrArg Prod.snd hpass) (hfine fault)

/-- Two engines whose instances run the same rules on the same fields.  They may differ in messages,
and in which fields are optional as long as that brings no fault into the second one. -/
structure Alongside (first second : Engine Host) : Prop where
  settings_eq : first.settings = second.settings
  source_eq : first.source = second.source
  listener_eq : first.listener = second.listener
  issued_eq : first.issued = second.issued
  combined_eq : first.rules.combined = second.rules.combined
  tasks_eq : first.rules.instances.map (fun inst => (inst.field, inst.task)) =
    second.rules.instances.map fun inst => (inst.field, inst.task)
  faults : ∀ (index : Nat) inst like name params, first.rules.instances[index]? = some inst →
    second.rules.instances[index]? = some like → inst.task = .registered name params →
    ∀ shown fault, second.decideInstance shown like name params = .error fault →
      first.decideInstance shown inst name params = .error fault

namespace Alongside

variable {first second : Engine Host}

theorem size_eq (h : first.Alongside second) : first.rules.size = second.rules.size := by
  have hlength := congrArg List.length h.tasks_eq
  rwa [List.length_map, List.length_map] at hlength

/-- Two instances at an index run the same rule on the same field. -/
theorem exists_like (h : first.Alongside second) {index : Nat} {inst : RuleInstance Host}
    (hinst : first.rules.instances[index]? = some inst) :
    ∃ like, second.rules.instances[index]? = some like ∧ like.field = inst.field ∧
      like.task = inst.task := by
  have htask := congrArg (fun tasks => tasks[index]?) h.tasks_eq
  simp only [List.getElem?_map, hinst, Option.map_some] at htask
  obtain ⟨like, hlike, heq⟩ := Option.map_eq_some_iff.mp htask.symm
  exact ⟨like, hlike, congrArg Prod.fst heq, congrArg Prod.snd heq⟩

theorem isRegistered_eq (h : first.Alongside second) {index : Nat}
    (hindex : index < first.rules.size) :
    first.rules.isRegistered index = second.rules.isRegistered index := by
  have hinst : first.rules.instances[index]? = some first.rules.instances[index] :=
    List.getElem?_eq_getElem hindex
  obtain ⟨like, hlike, _, htask⟩ := h.exists_like hinst
  rw [Bool.eq_iff_iff, RuleSet.isRegistered_iff, RuleSet.isRegistered_iff, hinst, hlike]
  simp [htask]

theorem customInput_eq (h : first.Alongside second) : first.customInput = second.customInput := by
  funext host field
  exact customInput_congr h.settings_eq h.combined_eq (congrFun h.source_eq host) field

theorem begin_eq (h : first.Alongside second) : first.begin = second.begin := by
  funext host
  rw [begin, begin, fire, fire, h.listener_eq, h.issued_eq]

/-- The passes of two engines in lockstep: under way and level, or over when they were level. -/
inductive Abreast (first second : Engine Host) (host : Host) (count : Nat) :
    Pass Host → Pass Host → Prop
  | underway {left right : Pass Host} (leftRuns : first.Running host count left)
      (rightRuns : second.Running host count right) (level : left.Level right)
      (unfinished : first.rules.size ≠ 0 → left.reported ≠ first.rules.size) :
      Abreast first second host count left right
  | ended {left right : Pass Host} (after after' : Host)
      (leftRuns : first.Running host count left) (rightRuns : second.Running host count right)
      (level : left.Level right) (finished : left.reported = first.rules.size) :
      Abreast first second host count (left.ended after) (right.ended after')

variable {host : Host} {count : Nat} {left right : Pass Host}

/-- Two passes conclude at the same time. -/
theorem concludeIfDone (h : first.Alongside second) (hleft : first.Running host count left)
    (hright : second.Running host count right) (hlevel : left.Level right) :
    Abreast first second host count (first.concludeIfDone left) (second.concludeIfDone right) := by
  rcases hleft.concludeIfDone_cases with ⟨hopen, heq⟩ | ⟨hdone, _, after, heq⟩
  · rcases hright.concludeIfDone_cases with ⟨_, heq'⟩ | ⟨hdone, _⟩
    · rw [heq, heq']
      exact .underway hleft hright hlevel fun _ => hopen
    · rw [← h.size_eq, ← hlevel.reported_eq] at hdone
      exact absurd hdone hopen
  · rcases hright.concludeIfDone_cases with ⟨hopen, _⟩ | ⟨_, _, after', heq'⟩
    · rw [← h.size_eq, ← hlevel.reported_eq] at hopen
      exact absurd hdone hopen
    · rw [heq, heq']
      exact .ended after after' hleft hright hlevel hdone

theorem check (h : first.Alongside second) (hleft : first.Running host count left)
    (hright : second.Running host count right) (hlevel : left.Level right)
    (hcount : count < first.rules.size) (hregistered : first.rules.isRegistered count = true) :
    Abreast first second host (count + 1)
      (first.report (first.recordAll (first.checkFailures host count)
        (left.note (.checked count))))
      (second.report (second.recordAll (second.checkFailures host count)
        (right.note (.checked count)))) := by
  have hnoted := (hlevel.note (.checked count)).recordAll first second
    (first.checkFailures host count) (second.checkFailures host count)
  refine h.concludeIfDone (hleft.check hcount hregistered)
    (hright.check (h.size_eq ▸ hcount) (h.isRegistered_eq hcount ▸ hregistered)) ?_
  exact { hnoted with reported_eq := congrArg (· + 1) hlevel.reported_eq }

/-- Two passes take the conclusion of an awaited verdict over. -/
theorem conclude (h : first.Alongside second) (hleft : first.Running host count left)
    (hright : second.Running host count right) (hlevel : left.Level right)
    (hopen : first.rules.size ≠ 0 → left.reported ≠ first.rules.size) {index : Nat}
    {ticket : Ticket} {reply : Reply} (hmem : (index, ticket) ∈ left.awaited)
    (hreply : left.reply? ticket = some reply) :
    Abreast first second host count
      (first.conclude index reply
        { left with awaited := left.awaited.filter fun entry => entry.2 != ticket })
      (second.conclude index reply
        { right with awaited := right.awaited.filter fun entry => entry.2 != ticket }) := by
  have htaken := hleft.take hmem (Pass.mem_replies_of_reply? hreply)
  have htaken' := hright.take (hlevel.awaited_eq ▸ hmem)
    (Pass.mem_replies_of_reply? ((hlevel.reply?_eq ticket).symm.trans hreply))
  have hnoted := (hlevel.note (.taken index reply)).recordAll first second
    (first.verdictFailures index reply) (second.verdictFailures index reply)
  cases reply with
  | answered outcome =>
      refine h.concludeIfDone htaken htaken' ?_
      exact { hnoted with
        reported_eq := congrArg (· + 1) hlevel.reported_eq
        awaited_eq := congrArg (List.filter _) hlevel.awaited_eq }
  | dropped =>
      refine .underway htaken htaken' ?_ hopen
      exact { hnoted with
        dropped_eq := congrArg (· + 1) hlevel.dropped_eq
        awaited_eq := congrArg (List.filter _) hlevel.awaited_eq }

/-- Two passes call the same custom rule. -/
theorem call_level (h : first.Alongside second) (hlevel : left.Level right) (index : Nat)
    (field : String) (rule : CustomRule Host) :
    (first.call index field rule left).Level (second.call index field rule right) := by
  have hissued : Pass.Level { left with issued := left.issued + 1 }
      { right with issued := right.issued + 1 } :=
    { hlevel with issued_eq := congrArg (· + 1) hlevel.issued_eq }
  unfold Engine.call
  rw [← h.customInput_eq, ← hlevel.host_eq, ← hlevel.issued_eq] at *
  exact (hissued.note _).takeTurn _

theorem runCustom (h : first.Alongside second) (hleft : first.Running host count left)
    (hright : second.Running host count right) (hlevel : left.Level right)
    (hcount : count < first.rules.size) {inst like : RuleInstance Host} {rule : CustomRule Host}
    (hinst : first.rules.instances[count]? = some inst)
    (hlike : second.rules.instances[count]? = some like) (hfield : like.field = inst.field)
    (htask : inst.task = .custom rule) (htask' : like.task = .custom rule) :
    Abreast first second host (count + 1) (first.runCustom count inst rule left)
      (second.runCustom count like rule right) := by
  have hcustom := (first.rules.isCustom_iff count).mpr ⟨inst, rule, hinst, htask⟩
  have hcustom' := (second.rules.isCustom_iff count).mpr ⟨like, rule, hlike, htask'⟩
  have hcalled := hleft.call_running hcount hcustom inst.field rule
  have hcalled' := hright.call_running (h.size_eq ▸ hcount) hcustom' inst.field rule
  have hopen := hleft.call_unfinished hcount hcustom inst.field rule
  have hlevels := h.call_level hlevel count inst.field rule
  have hwaiting : Pass.Level
      { first.call count inst.field rule left with
        awaited := left.awaited ++ [(count, left.issued)] }
      { second.call count inst.field rule right with
        awaited := right.awaited ++ [(count, right.issued)] } :=
    { hlevels with awaited_eq := by rw [hlevel.awaited_eq, hlevel.issued_eq] }
  have hawaited := first.call_awaited count inst.field rule left
  have hawaited' := second.call_awaited count inst.field rule right
  have hsaid := hlevels.reply?_eq left.issued
  unfold Engine.runCustom
  rw [hfield]
  cases hreply : (first.call count inst.field rule left).reply? left.issued with
  | none =>
      rw [hreply, hlevel.issued_eq] at hsaid
      rw [first.settle_of_none count hreply, second.settle_of_none count hsaid.symm, hawaited,
        hawaited']
      exact .underway hcalled hcalled' hwaiting fun _ => hopen
  | some reply =>
      have hlast : (count, left.issued) ∈ left.awaited ++ [(count, left.issued)] := by simp
      have hconcluded := h.conclude hcalled hcalled' hwaiting (fun _ => hopen) hlast hreply
      rw [hreply, hlevel.issued_eq] at hsaid
      have hothers := hleft.filter_awaited.trans hawaited.symm
      have hothers' := hright.filter_awaited.trans hawaited'.symm
      rw [first.settle_of_some count hreply, second.settle_of_some count hsaid.symm]
      simp only [← hlevel.issued_eq] at hothers' hconcluded
      simpa only [hothers, hothers'] using hconcluded

/-- The next turn of two passes in lockstep. -/
theorem atTurn_succ (h : first.Alongside second) (hcount : count < first.rules.size)
    (hlevel : (first.atTurn host count).Level (second.atTurn host count))
    (hsound : first.SoundBelow host (count + 1)) (hsound' : second.SoundBelow host (count + 1)) :
    Abreast first second host (count + 1) (first.atTurn host (count + 1))
      (second.atTurn host (count + 1)) := by
  have hinst : first.rules.instances[count]? = some first.rules.instances[count] :=
    List.getElem?_eq_getElem hcount
  obtain ⟨like, hlike, hfield, hsame⟩ := h.exists_like hinst
  obtain ⟨hleft, hrun⟩ := first.run_atTurn host hinst hsound
  obtain ⟨hright, hrun'⟩ := second.run_atTurn host hlike hsound'
  cases htask : first.rules.instances[count].task with
  | registered name params =>
      have hregistered := (first.rules.isRegistered_iff count).mpr ⟨_, name, params, hinst, htask⟩
      rw [first.run_of_registered host hinst htask (hsound count (Nat.lt_succ_self count))] at hrun
      rw [second.run_of_registered host hlike (hsame.trans htask)
        (hsound' count (Nat.lt_succ_self count))] at hrun'
      injection hrun with hnext
      injection hrun' with hnext'
      rw [← hnext, ← hnext']
      exact h.check hleft hright hlevel hcount hregistered
  | custom rule =>
      rw [first.run_of_custom count htask] at hrun
      rw [second.run_of_custom count (hsame.trans htask)] at hrun'
      injection hrun with hnext
      injection hrun' with hnext'
      rw [← hnext, ← hnext']
      exact h.runCustom hleft hright hlevel hcount hinst hlike hfield htask (hsame.trans htask)

/-- As long as there is an instance whose turn is still to come both passes are level. -/
theorem Abreast.level_of_lt (h : Abreast first second host count left right)
    (hcount : count < first.rules.size) : left.Level right := by
  cases h with
  | underway _ _ level _ => exact level
  | ended after after' leftRuns _ level finished =>
      have hcounts := leftRuns.ledger.counts_eq
      omega

/-- An instance of the second engine that faults does so in the first one too. -/
theorem faultsAt (h : first.Alongside second) {index : Nat}
    (hhost : (second.atTurn host index).host = (first.atTurn host index).host) {fault : Fault}
    (hfault : second.FaultsAt host index fault) : first.FaultsAt host index fault := by
  rw [faultsAt_iff_decideInstance] at hfault ⊢
  obtain ⟨like, name, params, hlike, htask, hfault⟩ := hfault
  have hindex : index < first.rules.size := by
    rw [h.size_eq]
    exact (List.getElem?_eq_some_iff.mp hlike).1
  have hinst : first.rules.instances[index]? = some first.rules.instances[index] :=
    List.getElem?_eq_getElem hindex
  obtain ⟨other, hother, _, hsame⟩ := h.exists_like hinst
  obtain rfl := Option.some.inj (hlike.symm.trans hother)
  have htask' := hsame.symm.trans htask
  rw [hhost] at hfault
  have hfault' := h.faults index _ _ name params hinst hlike htask' _ _ hfault
  exact ⟨_, name, params, hinst, htask', hfault'⟩

/-- Two passes come to each turn in lockstep, as long as no instance of the first engine faults. -/
theorem atTurn (h : first.Alongside second) (hcount : count ≤ first.rules.size)
    (hsound : first.SoundBelow host count) :
    second.SoundBelow host count ∧
      Abreast first second host count (first.atTurn host count) (second.atTurn host count) := by
  induction count with
  | zero =>
      have hbegin : second.atTurn host 0 = first.atTurn host 0 :=
        congrFun h.begin_eq.symm host
      refine ⟨fun earlier hearlier => absurd hearlier (Nat.not_lt_zero _), ?_⟩
      have hright := second.running_begin host
      rw [← h.begin_eq] at hright
      have hnone := (first.running_begin host).ledger.counts_eq
      rw [hbegin]
      refine .underway (first.running_begin host) hright (.refl _) ?_
      intro hsize hall
      have hall : (first.begin host).reported = first.rules.size := hall
      omega
  | succ count ih =>
      obtain ⟨hbelow, habreast⟩ := ih (Nat.le_of_lt hcount) (hsound.mono (Nat.le_succ count))
      have hlevel := habreast.level_of_lt hcount
      have hsound' : second.SoundBelow host (count + 1) := by
        intro earlier hearlier fault hfault
        rcases Nat.lt_succ_iff_lt_or_eq.mp hearlier with hlt | rfl
        · exact hbelow earlier hlt fault hfault
        · exact hsound earlier hearlier fault (h.faultsAt hlevel.host_eq.symm hfault)
      exact ⟨hsound', h.atTurn_succ hcount hlevel hsound hsound'⟩

/-- Two passes collect the reply to an awaited verdict. -/
theorem collect (h : first.Alongside second)
    (habreast : Abreast first second host count left right) (ticket : Ticket) :
    Abreast first second host count (first.collect ticket left)
      (second.collect ticket right) := by
  cases habreast with
  | @ended left right after after' leftRuns rightRuns level finished =>
      have hnil : left.awaited = [] := (leftRuns.all_reported finished).2.2
      have hleft : first.collect ticket (left.ended after) = left.ended after := by
        simp [Engine.collect, Pass.ended, hnil]
      have hright : second.collect ticket (right.ended after') = right.ended after' := by
        simp [Engine.collect, Pass.ended, ← level.awaited_eq, hnil]
      rw [hleft, hright]
      exact .ended after after' leftRuns rightRuns level finished
  | underway leftRuns rightRuns level unfinished =>
      have hstay := Abreast.underway leftRuns rightRuns level unfinished
      unfold Engine.collect
      rw [← level.awaited_eq, ← level.reply?_eq]
      cases hfind : left.awaited.find? fun entry => entry.2 == ticket with
      | none => exact hstay
      | some found =>
          cases hreply : left.reply? ticket with
          | none => exact hstay
          | some reply =>
              obtain ⟨index, other⟩ := found
              obtain rfl : other = ticket := by simpa using List.find?_some hfind
              have hconcluded := h.conclude leftRuns rightRuns level unfinished
                (List.mem_of_find?_eq_some hfind) hreply
              rwa [← level.awaited_eq] at hconcluded

theorem collectAll (h : first.Alongside second)
    (habreast : Abreast first second host count left right) (tickets : List Ticket) :
    Abreast first second host count (first.collectAll tickets left)
      (second.collectAll tickets right) := by
  induction tickets generalizing left right with
  | nil => exact habreast
  | cons ticket tickets ih => exact ih (h.collect habreast ticket)

theorem Abreast.awaited_eq (habreast : Abreast first second host count left right) :
    left.awaited = right.awaited := by
  cases habreast with
  | underway _ _ level _ => exact level.awaited_eq
  | ended after after' _ _ level _ => exact level.awaited_eq

/-- Two passes wake in lockstep. -/
theorem wake (h : first.Alongside second)
    (habreast : Abreast first second host count left right) (hwaiting : left.awaited ≠ [])
    (turn : Turn Host) :
    Abreast first second host count (first.wake turn left) (second.wake turn right) := by
  cases habreast with
  | ended after after' leftRuns _ _ finished =>
      exact absurd (leftRuns.all_reported finished).2.2 hwaiting
  | underway leftRuns rightRuns level unfinished =>
      have hwoken := level.takeTurn turn
      have hreported : (left.takeTurn turn).reported = left.reported := by
        obtain ⟨_, htaken, _⟩ := left.exists_takeTurn turn
        rw [htaken]
      simp only [Engine.wake, ← hwoken.heard_eq, ← level.heard_eq]
      refine h.collectAll (.underway (leftRuns.takeTurn turn) (rightRuns.takeTurn turn) hwoken ?_) _
      rwa [hreported]

theorem sleep (h : first.Alongside second)
    (habreast : Abreast first second host count left right) (turns : List (Turn Host)) :
    Abreast first second host count (first.sleep turns left).1 (second.sleep turns right).1 := by
  induction turns generalizing left right with
  | nil => exact habreast
  | cons turn turns ih =>
      by_cases hempty : left.awaited = []
      · rw [first.sleep_of_settled hempty, second.sleep_of_settled (habreast.awaited_eq ▸ hempty)]
        exact habreast
      · rw [first.sleep_of_waiting hempty,
          second.sleep_of_waiting (habreast.awaited_eq ▸ hempty)]
        exact ih (h.wake habreast hempty turn)

theorem collected (h : first.Alongside second)
    (habreast : Abreast first second host first.rules.size left right)
    (hempty : first.rules.size = 0 → first.Running host 0 left ∧ second.Running host 0 right ∧
      left.Level right) :
    Abreast first second host first.rules.size (first.collected left)
      (second.collected right) := by
  by_cases hsize : first.rules.size = 0
  · obtain ⟨hleft, hright, hlevel⟩ := hempty hsize
    have hdone := h.concludeIfDone hleft hright hlevel
    simp only [Engine.collected, ← h.size_eq, hsize, ↓reduceIte, ← hdone.awaited_eq]
    exact h.collectAll hdone _
  · simp only [Engine.collected, ← h.size_eq, hsize, ↓reduceIte, ← habreast.awaited_eq]
    exact h.collectAll habreast _

/-- As long as no instance of the first engine has faulted, both hosts are in the same state at each
turn. -/
theorem host_eq (h : first.Alongside second) {index : Nat} (hsound : first.SoundBelow host index)
    (hindex : index < first.rules.size) :
    (first.atTurn host index).host = (second.atTurn host index).host :=
  ((h.atTurn (Nat.le_of_lt hindex) hsound).2.level_of_lt hindex).host_eq

/-- The passes of two engines that run alongside go on in lockstep until they end.  If no instance
of the first engine faults, none of the second does. -/
theorem passWith (h : first.Alongside second) (turns : List (Turn Host)) (host : Host)
    (hfine : ∀ fault, (first.exec turns host).ending ≠ .faulted fault) :
    (∀ fault, (second.exec turns host).ending ≠ .faulted fault) ∧
      Abreast first second host first.rules.size (first.passWith turns host).1
        (second.passWith turns host).1 := by
  rcases first.passWith_cases turns host with
    ⟨hpass, hsound, _⟩ | ⟨_, fault, _, _, _, hpass⟩
  · obtain ⟨hsound', habreast⟩ := h.atTurn (Nat.le_refl _) hsound
    rcases second.passWith_cases turns host with
      ⟨hpass', _, _⟩ | ⟨index, fault, hfault, _⟩
    · have hempty : first.rules.size = 0 →
          first.Running host 0 (first.atTurn host first.rules.size) ∧
            second.Running host 0 (second.atTurn host first.rules.size) ∧
            (first.atTurn host first.rules.size).Level (second.atTurn host first.rules.size) := by
        intro hsize
        have hleft := first.running_of_empty host hsize
        have hright := second.running_of_empty host (h.size_eq ▸ hsize)
        rw [← h.size_eq] at hright
        have hbegin : second.atTurn host 0 = first.atTurn host 0 :=
          congrFun h.begin_eq.symm host
        refine ⟨hleft, hright, ?_⟩
        rw [hsize, hbegin]
        exact .refl _
      rw [← h.size_eq] at hpass'
      constructor
      · intro fault hfault
        exact second.finish_ne_faulted turns _ fault ((congrArg Prod.snd hpass').symm.trans hfault)
      · rw [hpass, hpass']
        exact h.sleep (h.collected habreast hempty) turns
    · have hindex := hfault.lt_size
      rw [← h.size_eq] at hindex
      exact absurd hfault (hsound' index hindex fault)
  · exact absurd (congrArg Prod.snd hpass) (hfine fault)

end Alongside

/-- How a pass ends that has not stopped at a fault, once the host has nothing more to say: it is
abandoned unless everything is settled, incomplete if verdicts have been given up, and concludes as
there are failures or not otherwise. -/
def endingOf (settled : Bool) (dropped : Nat) (errors : ErrorStore) : Ending :=
  if settled then
    .returned (if dropped = 0 then .ofConclusion (conclusionOf errors) else .incomplete dropped)
  else .abandoned

theorem Fate.ending_eq {engine : Engine Host} {host : Host} {pass : Pass Host} {ending : Ending}
    (h : engine.Fate host pass ending) (hfine : ∀ fault, ending ≠ .faulted fault) :
    ending = endingOf pass.awaited.isEmpty pass.dropped pass.errors := by
  cases h with
  | faulted faults sound running => exact absurd rfl (hfine _)
  | @completed prior after sound running finished =>
      obtain ⟨_, hdropped, hawaited⟩ := running.all_reported finished
      simp [endingOf, Pass.ended, hdropped, hawaited]
  | incomplete sound running unfinished settled =>
      have hpos := running.dropped_pos unfinished settled
      simp [endingOf, settled, Nat.ne_of_gt hpos]
  | abandoned sound running waiting silent => simp [endingOf, waiting]

/-- The failures of a pass are those that its course leads to. -/
theorem Ledger.errors_eq_course {engine : Engine Host} {host : Host} {count : Nat}
    {pass : Pass Host} (h : engine.Ledger host count pass) :
    pass.errors = ErrorStore.empty.recordAll engine.settings.scope
      (pass.journal.course.flatMap (engine.failuresOf host)) := by
  rw [engine.flatMap_failuresOf_course, ← h.records_eq]
  exact h.errors_eq

theorem course_ended (pass : Pass Host) (after : Host) :
    (pass.ended after).journal.course = pass.journal.course := by
  simp [Pass.ended]

namespace Alongside

variable {first second : Engine Host} {host : Host} {count : Nat} {left right : Pass Host}

/-- Passes in lockstep have taken the same course, and either has recorded the failures that its own
engine makes of it. -/
theorem Abreast.spec (h : Abreast first second host count left right) :
    left.journal.course = right.journal.course ∧ left.dropped = right.dropped ∧
      left.errors = ErrorStore.empty.recordAll first.settings.scope
        (left.journal.course.flatMap (first.failuresOf host)) ∧
      right.errors = ErrorStore.empty.recordAll second.settings.scope
        (left.journal.course.flatMap (second.failuresOf host)) := by
  cases h with
  | underway leftRuns rightRuns level _ =>
      refine ⟨level.course_eq, level.dropped_eq, leftRuns.ledger.errors_eq_course, ?_⟩
      rw [level.course_eq]
      exact rightRuns.ledger.errors_eq_course
  | ended after after' leftRuns rightRuns level _ =>
      rw [course_ended, course_ended]
      refine ⟨level.course_eq, level.dropped_eq, leftRuns.ledger.errors_eq_course, ?_⟩
      rw [level.course_eq]
      exact rightRuns.ledger.errors_eq_course

/-- What two passes leave behind that take the same course.  Either records the failures that its
own engine makes of the course. -/
structure SameCourse (first second : Engine Host) (host : Host) (left right : Report Host) :
    Prop where
  course_eq : left.journal.course = right.journal.course
  leftErrors : left.engine.errors = ErrorStore.empty.recordAll first.settings.scope
    (left.journal.course.flatMap (first.failuresOf host))
  rightErrors : right.engine.errors = ErrorStore.empty.recordAll second.settings.scope
    (left.journal.course.flatMap (second.failuresOf host))

/-- Both passes have called the same custom rules with the same inputs, and have heard the same
replies. -/
theorem SameCourse.views_eq {left right : Report Host}
    (h : SameCourse first second host left right) :
    left.journal.calls = right.journal.calls ∧ left.journal.replies = right.journal.replies ∧
      left.journal.inputs = right.journal.inputs := by
  obtain ⟨hcalls, hreplies, hinputs⟩ := left.journal.views_course
  obtain ⟨hcalls', hreplies', hinputs'⟩ := right.journal.views_course
  rw [← hcalls, ← hreplies, ← hinputs, ← hcalls', ← hreplies', ← hinputs', h.course_eq]
  exact ⟨rfl, rfl, rfl⟩

/-- What the passes of two engines that run alongside leave behind.  Both take the same course and
end alike, up to the conclusion. -/
structure Ends (first second : Engine Host) (host : Host) (left right : Report Host) : Prop
    extends SameCourse first second host left right where
  endings : ∃ settled dropped, left.ending = endingOf settled dropped left.engine.errors ∧
    right.ending = endingOf settled dropped right.engine.errors

theorem exec (h : first.Alongside second) (turns : List (Turn Host)) (host : Host)
    (hfine : ∀ fault, (first.exec turns host).ending ≠ .faulted fault) :
    Ends first second host (first.exec turns host) (second.exec turns host) := by
  obtain ⟨hfine', habreast⟩ := h.passWith turns host hfine
  obtain ⟨hcourse, hdropped, hleft, hright⟩ := habreast.spec
  have hending := (first.passWith_fate turns host).ending_eq hfine
  have hending' := (second.passWith_fate turns host).ending_eq hfine'
  rw [← habreast.awaited_eq, ← hdropped] at hending'
  exact ⟨⟨hcourse, hleft, hright⟩, _, _, hending, hending'⟩

/-- If neither brings a fault into the other, both stop at the same fault, and have taken the same
course until then. -/
theorem exec_faulted (h : first.Alongside second) (h' : second.Alongside first)
    (turns : List (Turn Host)) (host : Host) {fault : Fault}
    (hfault : (first.exec turns host).ending = .faulted fault) :
    (second.exec turns host).ending = .faulted fault ∧
      SameCourse first second host (first.exec turns host) (second.exec turns host) := by
  rcases first.passWith_cases turns host with
    ⟨hpass, _⟩ | ⟨index, found, hfound, hsound, _, hpass⟩
  · exact absurd ((congrArg Prod.snd hpass).symm.trans hfault) (first.finish_ne_faulted turns _ _)
  · obtain rfl : found = fault := Ending.faulted.inj ((congrArg Prod.snd hpass).symm.trans hfault)
    have hindex := hfound.lt_size
    obtain ⟨hsound', habreast⟩ := h.atTurn (Nat.le_of_lt hindex) hsound
    have hlevel := habreast.level_of_lt hindex
    have hfound' := h'.faultsAt hlevel.host_eq hfound
    rcases second.passWith_cases turns host with
      ⟨_, hfine, _⟩ | ⟨other, found', hother, hbelow, _, hpass'⟩
    · exact absurd hfound' (hfine index hfound'.lt_size found)
    · obtain rfl : other = index :=
        Nat.le_antisymm (Nat.le_of_not_lt fun hlt => hbelow index hlt found hfound')
          (Nat.le_of_not_lt fun hlt => hsound' other hlt found' hother)
      obtain ⟨hcourse, _, hleft, hright⟩ := habreast.spec
      have hleftPass := congrArg Prod.fst hpass
      have hrightPass := congrArg Prod.fst hpass'
      refine ⟨(congrArg Prod.snd hpass').trans (congrArg _ (hother.unique hfound')), ?_⟩
      simp only [Engine.exec, hleftPass, hrightPass]
      exact ⟨hcourse, hleft, hright⟩

end Alongside

end Engine

end FormRules
