/-
How a pass can end.

A walk goes through the instances until one faults.  Without a fault the pass collects the replies
to awaited verdicts until none is awaited any more, or is abandoned when the host has nothing more
to say.
-/
import FormRules.Proofs.Pass.Course

namespace FormRules

variable {Host : Type}

namespace Engine

/-- No instance before an index faults. -/
def SoundBelow (engine : Engine Host) (host : Host) (index : Nat) : Prop :=
  ∀ earlier < index, ∀ fault, ¬ engine.FaultsAt host earlier fault

theorem SoundBelow.mono {engine : Engine Host} {host : Host} {first second : Nat}
    (h : engine.SoundBelow host second) (hle : first ≤ second) : engine.SoundBelow host first :=
  fun earlier hearlier => h earlier (Nat.lt_of_lt_of_le hearlier hle)

theorem FaultsAt.lt_size {engine : Engine Host} {host : Host} {index : Nat} {fault : Fault}
    (h : engine.FaultsAt host index fault) : index < engine.rules.size := by
  obtain ⟨inst, _, _, hinst, _⟩ := h
  exact (List.getElem?_eq_some_iff.mp hinst).1

/-- The turn of an instance that does not fault. -/
theorem run_phase (engine : Engine Host) (host : Host) {index : Nat} {inst : RuleInstance Host}
    (hinst : engine.rules.instances[index]? = some inst)
    (hrunning : engine.Running host index (engine.atTurn host index))
    (hsound : ∀ fault, ¬ engine.FaultsAt host index fault) :
    ∃ next, engine.run index inst (engine.atTurn host index) = .ok next ∧
      engine.Phase host (index + 1) next := by
  have hindex : index < engine.rules.size := (List.getElem?_eq_some_iff.mp hinst).1
  cases htask : inst.task with
  | registered name params =>
      have hregistered := (engine.rules.isRegistered_iff index).mpr
        ⟨inst, name, params, hinst, htask⟩
      exact ⟨_, engine.run_of_registered host hinst htask hsound,
        hrunning.check_phase hindex hregistered⟩
  | custom rule =>
      exact ⟨_, engine.run_of_custom index htask _, hrunning.call_phase hindex hinst htask⟩

/-- The walk over the first instances either comes to the next one or has stopped at the first
fault. -/
theorem walk_cases (engine : Engine Host) (host : Host) (count : Nat)
    (hcount : count ≤ engine.rules.size) :
    (engine.walk 0 (engine.rules.instances.take count) (engine.begin host) =
        (engine.atTurn host count, none) ∧
      engine.SoundBelow host count ∧ engine.Phase host count (engine.atTurn host count)) ∨
    ∃ index < count, ∃ fault, engine.FaultsAt host index fault ∧ engine.SoundBelow host index ∧
      engine.Running host index (engine.atTurn host index) ∧
      engine.walk 0 (engine.rules.instances.take count) (engine.begin host) =
        ({ engine.atTurn host index with state := .idle }, some fault) := by
  induction count with
  | zero =>
      refine Or.inl ⟨rfl, fun earlier h => absurd h (Nat.not_lt_zero _), ?_⟩
      have hrunning := engine.running_begin host
      have hnone : (engine.begin host).reported = 0 := by
        have := hrunning.ledger.counts_eq
        omega
      exact .underway hrunning fun hsize hall => hsize (hall.symm.trans hnone)
  | succ count ih =>
      have hinst : engine.rules.instances[count]? = some engine.rules.instances[count] :=
        List.getElem?_eq_getElem hcount
      rcases ih (Nat.le_of_lt hcount) with
        ⟨hwalk, hsound, hphase⟩ | ⟨index, hindex, fault, hfault, hsound, hrunning, hwalk⟩
      · have hrunning := hphase.running hcount
        have hnext := engine.walk_take_succ host hinst hwalk
        by_cases hfault : ∃ fault, engine.FaultsAt host count fault
        · obtain ⟨fault, hfault⟩ := hfault
          refine Or.inr ⟨count, Nat.lt_succ_self count, fault, hfault, hsound, hrunning, ?_⟩
          rw [hnext, engine.run_of_faultsAt host hinst hfault]
        · have hfine : ∀ fault, ¬ engine.FaultsAt host count fault :=
            fun fault h => hfault ⟨fault, h⟩
          obtain ⟨next, hrun, hphase⟩ := engine.run_phase host hinst hrunning hfine
          rw [hrun] at hnext
          have hat : engine.atTurn host (count + 1) = next := congrArg Prod.fst hnext
          refine Or.inl ⟨?_, ?_, ?_⟩
          · rw [hnext, hat]
          · intro earlier hearlier
            rcases Nat.lt_succ_iff_lt_or_eq.mp hearlier with hlt | rfl
            · exact hsound earlier hlt
            · exact hfine
          · rw [hat]
            exact hphase
      · refine Or.inr ⟨index, Nat.lt_succ_of_lt hindex, fault, hfault, hsound, hrunning, ?_⟩
        rw [List.take_add_one, walk_append, hwalk]

/-- From one turn to the next the instance runs, unless a fault has stopped the walk. -/
theorem atTurn_succ_cases (engine : Engine Host) (host : Host) {index : Nat}
    {inst : RuleInstance Host} (hinst : engine.rules.instances[index]? = some inst) :
    (engine.Running host index (engine.atTurn host index) ∧
      engine.run index inst (engine.atTurn host index) =
        .ok (engine.atTurn host (index + 1))) ∨
    ((∃ earlier ≤ index, ∃ fault, engine.FaultsAt host earlier fault) ∧
      engine.atTurn host (index + 1) = { engine.atTurn host index with state := .idle }) := by
  have hindex : index < engine.rules.size := (List.getElem?_eq_some_iff.mp hinst).1
  rcases engine.walk_cases host index (Nat.le_of_lt hindex) with
    ⟨hwalk, _, hphase⟩ | ⟨earlier, hearlier, fault, hfault, _, _, hwalk⟩
  · have hrunning := hphase.running hindex
    have hnext := engine.walk_take_succ host hinst hwalk
    by_cases hfault : ∃ fault, engine.FaultsAt host index fault
    · obtain ⟨fault, hfault⟩ := hfault
      rw [engine.run_of_faultsAt host hinst hfault] at hnext
      exact Or.inr ⟨⟨index, Nat.le_refl _, fault, hfault⟩, congrArg Prod.fst hnext⟩
    · obtain ⟨next, hrun, _⟩ := engine.run_phase host hinst hrunning
        fun fault h => hfault ⟨fault, h⟩
      rw [hrun] at hnext
      have hat : engine.atTurn host (index + 1) = next := congrArg Prod.fst hnext
      exact Or.inl ⟨hrunning, hat ▸ hrun⟩
  · refine Or.inr ⟨⟨earlier, Nat.le_of_lt hearlier, fault, hfault⟩, ?_⟩
    have hstopped : engine.atTurn host (index + 1) = engine.atTurn host index := by
      rw [atTurn, atTurn, List.take_add_one, walk_append, hwalk]
    have hidle : engine.atTurn host index = { engine.atTurn host earlier with state := .idle } :=
      congrArg Prod.fst hwalk
    rw [hstopped, hidle]

/-- As long as no instance faults the turn of one leads to that of the next. -/
theorem run_atTurn (engine : Engine Host) (host : Host) {index : Nat} {inst : RuleInstance Host}
    (hinst : engine.rules.instances[index]? = some inst)
    (hsound : engine.SoundBelow host (index + 1)) :
    engine.Running host index (engine.atTurn host index) ∧
      engine.run index inst (engine.atTurn host index) = .ok (engine.atTurn host (index + 1)) := by
  refine (engine.atTurn_succ_cases host hinst).resolve_right ?_
  rintro ⟨⟨earlier, hearlier, fault, hfault⟩, _⟩
  exact hsound earlier (Nat.lt_succ_of_le hearlier) fault hfault

/-- Collecting the reply to a ticket hears nothing new, and ends the wait for that ticket if there
is a reply. -/
theorem collect_spec (engine : Engine Host) {host : Host} {pass : Pass Host}
    (h : engine.Phase host engine.rules.size pass) (ticket : Ticket) :
    engine.Phase host engine.rules.size (engine.collect ticket pass) ∧
      (engine.collect ticket pass).journal.replies = pass.journal.replies ∧
      (engine.collect ticket pass).awaited = pass.awaited.filter fun entry =>
        !(entry.2 == ticket && (pass.reply? ticket).isSome) := by
  rcases engine.collect_cases ticket pass with
    ⟨index, reply, hmem, hreply, hcollect⟩ | ⟨hidle, hcollect⟩
  · obtain ⟨hrunning, hopen⟩ :=
      h.awaited_eq_nil_or_running.resolve_left (List.ne_nil_of_mem hmem)
    obtain ⟨hphase, hawaited, hreplies⟩ := hrunning.conclude_spec hopen hmem
      (Pass.mem_replies_of_reply? hreply)
    rw [hcollect]
    refine ⟨hphase, hreplies, hawaited.trans ?_⟩
    simp [hreply, bne]
  · have hothers : ∀ entry ∈ pass.awaited,
        (!(entry.2 == ticket && (pass.reply? ticket).isSome)) = true := by
      intro entry hentry
      rcases hidle with habsent | hsilent
      · have hother : entry.2 ≠ ticket := by
          rintro rfl
          exact habsent (List.mem_map_of_mem hentry)
        simp [hother]
      · simp [hsilent]
    rw [hcollect, List.filter_eq_self.mpr hothers]
    exact ⟨h, rfl, rfl⟩

theorem reply?_congr {first second : Pass Host}
    (h : first.journal.replies = second.journal.replies) (ticket : Ticket) :
    first.reply? ticket = second.reply? ticket := by
  simp only [Pass.reply?, Pass.heard, h]

theorem collectAll_spec (engine : Engine Host) {host : Host} {pass : Pass Host}
    (h : engine.Phase host engine.rules.size pass) (tickets : List Ticket) :
    engine.Phase host engine.rules.size (engine.collectAll tickets pass) ∧
      (engine.collectAll tickets pass).journal.replies = pass.journal.replies ∧
      ∀ entry, entry ∈ (engine.collectAll tickets pass).awaited ↔
        entry ∈ pass.awaited ∧ (entry.2 ∈ tickets → pass.reply? entry.2 = none) := by
  induction tickets generalizing pass with
  | nil => exact ⟨h, rfl, by simp [collectAll]⟩
  | cons ticket tickets ih =>
      obtain ⟨hphase, hreplies, hawaited⟩ := engine.collect_spec h ticket
      obtain ⟨hphase', hreplies', hawaited'⟩ := ih hphase
      refine ⟨hphase', hreplies'.trans hreplies, ?_⟩
      intro entry
      have hcons : engine.collectAll (ticket :: tickets) pass =
          engine.collectAll tickets (engine.collect ticket pass) := rfl
      have hwaits : (!(entry.2 == ticket && (pass.reply? ticket).isSome)) = true ↔
          (entry.2 = ticket → pass.reply? entry.2 = none) := by
        by_cases hticket : entry.2 = ticket <;> simp [hticket]
      rw [hcons, hawaited', hawaited, reply?_congr hreplies, List.mem_filter, List.mem_cons,
        hwaits, or_imp, and_assoc]

/-- None of the awaited verdicts has been concluded. -/
def Silent (pass : Pass Host) : Prop :=
  ∀ entry ∈ pass.awaited, pass.reply? entry.2 = none

theorem sleep_of_waiting (engine : Engine Host) {pass : Pass Host} (h : pass.awaited ≠ [])
    (turn : Turn Host) (turns : List (Turn Host)) :
    engine.sleep (turn :: turns) pass = engine.sleep turns (engine.wake turn pass) := by
  simp [sleep, h]

theorem sleep_of_settled (engine : Engine Host) {pass : Pass Host} (h : pass.awaited = [])
    (turns : List (Turn Host)) : engine.sleep turns pass = (pass, true) := by
  cases turns <;> simp [sleep, h]

/-- A turn of the host ends the wait for exactly those verdicts that it replies to. -/
theorem wake_spec (engine : Engine Host) {host : Host} {pass : Pass Host}
    (h : engine.Phase host engine.rules.size pass) (hsilent : Silent pass)
    (hwaiting : pass.awaited ≠ []) (turn : Turn Host) :
    engine.Phase host engine.rules.size (engine.wake turn pass) ∧
      Silent (engine.wake turn pass) ∧
      ∀ entry, entry ∈ (engine.wake turn pass).awaited ↔
        entry ∈ pass.awaited ∧ entry.2 ∉ (turn pass.host).2.map Prod.fst := by
  obtain ⟨hrunning, hopen⟩ := h.awaited_eq_nil_or_running.resolve_left hwaiting
  obtain ⟨news, htaken, hnews, hfind⟩ := pass.exists_takeTurn turn
  have hreplies : (pass.takeTurn turn).journal.replies = pass.journal.replies ++ news := by
    rw [htaken]
    simp
  have hwake : engine.wake turn pass =
      engine.collectAll (news.map Prod.fst) (pass.takeTurn turn) := by
    simp [wake, Pass.heard, hreplies]
  have hphase : engine.Phase host engine.rules.size (pass.takeTurn turn) := by
    rw [htaken]
    exact .underway (hrunning.hear hnews _) hopen
  obtain ⟨hcollected, hsame, hawaited⟩ := engine.collectAll_spec hphase (news.map Prod.fst)
  have hkept : (pass.takeTurn turn).awaited = pass.awaited := by rw [htaken]
  have hheard : ∀ ticket, (pass.takeTurn turn).reply? ticket = none ↔
      pass.reply? ticket = none ∧ ticket ∉ news.map Prod.fst := by
    intro ticket
    rw [Pass.reply?_eq_none_iff, Pass.reply?_eq_none_iff, hreplies, List.map_append,
      List.mem_append, not_or]
  have hstays : ∀ entry, entry ∈ (engine.wake turn pass).awaited ↔
      entry ∈ pass.awaited ∧ entry.2 ∉ news.map Prod.fst := by
    intro entry
    rw [hwake, hawaited, hkept, hheard]
    tauto
  refine ⟨hwake ▸ hcollected, ?_, ?_⟩
  · intro entry hentry
    obtain ⟨hwaits, hunsaid⟩ := (hstays entry).mp hentry
    rw [hwake, reply?_congr hsame, hheard]
    exact ⟨hsilent entry hwaits, hunsaid⟩
  · intro entry
    rw [hstays]
    apply and_congr_right
    intro hwaits
    have hticket := hrunning.ledger.isOpen_of_awaited hwaits (hsilent entry hwaits)
    rw [← Replies.find?_eq_none_iff, ← Replies.find?_eq_none_iff, hfind entry.2 hticket]

/-- A sleep ends with nothing awaited any more, or with verdicts that the host has not concluded. -/
theorem sleep_spec (engine : Engine Host) {host : Host} {pass : Pass Host}
    (h : engine.Phase host engine.rules.size pass) (hsilent : Silent pass)
    (turns : List (Turn Host)) :
    engine.Phase host engine.rules.size (engine.sleep turns pass).1 ∧
      Silent (engine.sleep turns pass).1 ∧
      (engine.sleep turns pass).2 = (engine.sleep turns pass).1.awaited.isEmpty := by
  induction turns generalizing pass with
  | nil => exact ⟨h, hsilent, rfl⟩
  | cons turn turns ih =>
      by_cases hempty : pass.awaited = []
      · rw [engine.sleep_of_settled hempty]
        exact ⟨h, hsilent, by simp [hempty]⟩
      · rw [engine.sleep_of_waiting hempty]
        obtain ⟨hwoken, hstill, _⟩ := engine.wake_spec h hsilent hempty turn
        exact ih hwoken hstill

/-- How a pass ends.  A fault leaves the pass as it was when the turn of the faulting instance came.
Otherwise it is complete, or verdicts have been given up, or some are still awaited. -/
inductive Fate (engine : Engine Host) (host : Host) : Pass Host → Ending → Prop
  | faulted {index : Nat} {fault : Fault} (faults : engine.FaultsAt host index fault)
      (sound : engine.SoundBelow host index)
      (running : engine.Running host index (engine.atTurn host index)) :
      Fate engine host { engine.atTurn host index with state := .idle } (.faulted fault)
  | completed {prior : Pass Host} (after : Host)
      (sound : engine.SoundBelow host engine.rules.size)
      (running : engine.Running host engine.rules.size prior)
      (finished : prior.reported = engine.rules.size) :
      Fate engine host (prior.ended after)
        (.returned (.ofConclusion (conclusionOf prior.errors)))
  | incomplete {pass : Pass Host} (sound : engine.SoundBelow host engine.rules.size)
      (running : engine.Running host engine.rules.size pass)
      (unfinished : pass.reported ≠ engine.rules.size) (settled : pass.awaited = []) :
      Fate engine host pass (.returned (.incomplete pass.dropped))
  | abandoned {pass : Pass Host} (sound : engine.SoundBelow host engine.rules.size)
      (running : engine.Running host engine.rules.size pass) (waiting : pass.awaited ≠ [])
      (silent : Silent pass) : Fate engine host pass .abandoned

/-- A form without instances is done at once. -/
theorem finish_of_empty (engine : Engine Host) {host : Host} {walked : Pass Host}
    (hsize : engine.rules.size = 0) (h : engine.Running host 0 walked) (turns : List (Turn Host)) :
    ∃ after, engine.finish turns walked =
        (walked.ended after, .returned (.ofConclusion (conclusionOf walked.errors))) ∧
      walked.reported = engine.rules.size := by
  rcases h.concludeIfDone_cases with ⟨hopen, _⟩ | ⟨hdone, _, after, heq⟩
  · have hcounts := h.ledger.counts_eq
    omega
  · obtain ⟨_, _, hawaited⟩ := h.all_reported hdone
    have hended : (walked.ended after).awaited = [] := hawaited
    have hcollected : engine.collected walked = walked.ended after := by
      simp [collected, hsize, heq, hended, collectAll]
    refine ⟨after, ?_, hdone⟩
    rw [finish, hcollected, engine.sleep_of_settled hended]
    rfl

/-- A pass that does not sleep any more returns if nothing is awaited, and is abandoned
otherwise. -/
theorem slept_fate (engine : Engine Host) {host : Host} {pass : Pass Host}
    (hsize : engine.rules.size ≠ 0) (hsound : engine.SoundBelow host engine.rules.size)
    (h : engine.Phase host engine.rules.size pass) (hsilent : Silent pass) :
    engine.Fate host pass
      (if pass.awaited.isEmpty then .returned (passState pass) else .abandoned) := by
  cases h with
  | underway running unfinished =>
      have hstate : passState pass = .incomplete pass.dropped := by
        simp [passState, running.state_eq]
      by_cases hnil : pass.awaited = []
      · rw [hstate, hnil]
        exact .incomplete hsound running (unfinished hsize) hnil
      · rw [if_neg (by simpa using hnil)]
        exact .abandoned hsound running hnil hsilent
  | @ended prior after running finished _ =>
      have hnil : (prior.ended after).awaited = [] := (running.all_reported finished).2.2
      rw [hnil]
      exact .completed after hsound running finished

theorem collected_spec (engine : Engine Host) {host : Host} {walked : Pass Host}
    (h : engine.Phase host engine.rules.size walked)
    (hempty : engine.rules.size = 0 → engine.Running host 0 walked) :
    engine.Phase host engine.rules.size (engine.collected walked) ∧
      Silent (engine.collected walked) ∧
      ∀ entry ∈ (engine.collected walked).awaited, entry ∈ walked.awaited := by
  have hstart : ∃ start, engine.collected walked =
        engine.collectAll (start.awaited.map Prod.snd) start ∧
      engine.Phase host engine.rules.size start ∧ start.awaited = walked.awaited := by
    by_cases hsize : engine.rules.size = 0
    · refine ⟨engine.concludeIfDone walked, by simp [collected, hsize], ?_,
        (hempty hsize).concludeIfDone_frame.1⟩
      rw [hsize]
      exact (hempty hsize).concludeIfDone_phase
    · exact ⟨walked, by simp [collected, hsize], h, rfl⟩
  obtain ⟨start, hcollected, hphase, hsame⟩ := hstart
  obtain ⟨hphase, hreplies, hawaited⟩ :=
    engine.collectAll_spec hphase (start.awaited.map Prod.snd)
  rw [hcollected]
  refine ⟨hphase, ?_, fun entry hentry => hsame ▸ ((hawaited entry).mp hentry).1⟩
  intro entry hentry
  obtain ⟨hwaits, hsoon⟩ := (hawaited entry).mp hentry
  rw [reply?_congr hreplies]
  exact hsoon (List.mem_map_of_mem hwaits)

/-- A walk without a fault leads to an end that is no fault. -/
theorem finish_fate (engine : Engine Host) {host : Host} {walked : Pass Host}
    (hsound : engine.SoundBelow host engine.rules.size)
    (h : engine.Phase host engine.rules.size walked)
    (hempty : engine.rules.size = 0 → engine.Running host 0 walked) (turns : List (Turn Host)) :
    engine.Fate host (engine.finish turns walked).1 (engine.finish turns walked).2 := by
  by_cases hsize : engine.rules.size = 0
  · obtain ⟨after, heq, hdone⟩ := engine.finish_of_empty hsize (hempty hsize) turns
    rw [heq]
    exact .completed after hsound (hsize ▸ hempty hsize) hdone
  · obtain ⟨hcollected, hsilent, _⟩ := engine.collected_spec h hempty
    obtain ⟨hphase, hstill, hdone⟩ := engine.sleep_spec hcollected hsilent turns
    simp only [finish, hdone]
    exact engine.slept_fate hsize hsound hphase hstill

/-- A pass comes through all instances and is finished, or stops at the first fault. -/
theorem passWith_cases (engine : Engine Host) (turns : List (Turn Host)) (host : Host) :
    (engine.passWith turns host = engine.finish turns (engine.atTurn host engine.rules.size) ∧
      engine.SoundBelow host engine.rules.size ∧
      engine.Phase host engine.rules.size (engine.atTurn host engine.rules.size)) ∨
    ∃ index fault, engine.FaultsAt host index fault ∧ engine.SoundBelow host index ∧
      engine.Running host index (engine.atTurn host index) ∧
      engine.passWith turns host =
        ({ engine.atTurn host index with state := .idle }, .faulted fault) := by
  have hall : engine.rules.instances.take engine.rules.size = engine.rules.instances :=
    List.take_length
  rcases engine.walk_cases host engine.rules.size (Nat.le_refl _) with
    ⟨hwalk, hsound, hphase⟩ | ⟨index, _, fault, hfault, hsound, hrunning, hwalk⟩
  · rw [hall] at hwalk
    exact Or.inl ⟨by simp [passWith, hwalk], hsound, hphase⟩
  · rw [hall] at hwalk
    exact Or.inr ⟨index, fault, hfault, hsound, hrunning, by simp [passWith, hwalk]⟩

/-- Without instances the walk has only announced the start. -/
theorem running_of_empty (engine : Engine Host) (host : Host) (hsize : engine.rules.size = 0) :
    engine.Running host 0 (engine.atTurn host engine.rules.size) := by
  rw [hsize]
  exact engine.running_begin host

theorem passWith_fate (engine : Engine Host) (turns : List (Turn Host)) (host : Host) :
    engine.Fate host (engine.passWith turns host).1 (engine.passWith turns host).2 := by
  rcases engine.passWith_cases turns host with
    ⟨hpass, hsound, hphase⟩ | ⟨index, fault, hfault, hsound, hrunning, hpass⟩
  · rw [hpass]
    exact engine.finish_fate hsound hphase (engine.running_of_empty host) turns
  · rw [hpass]
    exact .faulted hfault hsound hrunning

/-- What a pass leaves behind is what its last state holds. -/
theorem exec_fate (engine : Engine Host) (turns : List (Turn Host)) (host : Host) :
    ∃ pass, engine.Fate host pass (engine.exec turns host).ending ∧
      (engine.exec turns host).journal = pass.journal ∧
      (engine.exec turns host).engine =
        { engine with errors := pass.errors, state := pass.state, issued := pass.issued } :=
  ⟨(engine.passWith turns host).1, engine.passWith_fate turns host, rfl, rfl⟩

/-- An instance has one fault at most. -/
theorem FaultsAt.unique {engine : Engine Host} {host : Host} {index : Nat} {first second : Fault}
    (hfirst : engine.FaultsAt host index first) (hsecond : engine.FaultsAt host index second) :
    first = second := by
  obtain ⟨inst, name, params, hinst, htask, _⟩ := id hfirst
  have hrun := engine.run_of_faultsAt host hinst hfirst
  rw [engine.run_of_faultsAt host hinst hsecond] at hrun
  injection hrun with hsame
  exact hsame.symm

/-- Where instances fault alike in two passes the first to fault is the same in both. -/
theorem first_fault_unique {Other : Type} {first : Engine Host} {second : Engine Other}
    {host : Host} {other : Other}
    (hsame : ∀ index fault, first.FaultsAt host index fault ↔ second.FaultsAt other index fault)
    {left right : Nat} {found found' : Fault} (hleft : first.FaultsAt host left found)
    (hsound : first.SoundBelow host left) (hright : second.FaultsAt other right found')
    (hsound' : second.SoundBelow other right) : left = right ∧ found = found' := by
  rcases Nat.lt_trichotomy left right with hlt | rfl | hgt
  · exact absurd ((hsame left found).mp hleft) (hsound' left hlt found)
  · exact ⟨rfl, ((hsame left found).mp hleft).unique hright⟩
  · exact absurd ((hsame right found').mpr hright) (hsound right hgt found')

/-- A fault that ends a pass is that of an instance. -/
theorem Fate.exists_faultsAt {engine : Engine Host} {host : Host} {pass : Pass Host}
    {fault : Fault} (h : engine.Fate host pass (.faulted fault)) :
    ∃ index, engine.FaultsAt host index fault := by
  cases h with
  | faulted faults sound running => exact ⟨_, faults⟩

/-- If an instance faults the pass stops at the first that does. -/
theorem Fate.of_faultsAt {engine : Engine Host} {host : Host} {pass : Pass Host} {ending : Ending}
    (h : engine.Fate host pass ending) {index : Nat} {fault : Fault}
    (hfault : engine.FaultsAt host index fault) :
    ∃ first fault, engine.FaultsAt host first fault ∧ engine.SoundBelow host first ∧
      engine.Running host first (engine.atTurn host first) ∧
      pass = { engine.atTurn host first with state := .idle } ∧ ending = .faulted fault := by
  cases h with
  | faulted faults sound running => exact ⟨_, _, faults, sound, running, rfl, rfl⟩
  | completed after sound running finished => exact absurd hfault (sound index hfault.lt_size fault)
  | incomplete sound running unfinished settled =>
      exact absurd hfault (sound index hfault.lt_size fault)
  | abandoned sound running waiting silent => exact absurd hfault (sound index hfault.lt_size fault)

/-- The accounts before the end of a pass tell all of its journal but the announcements. -/
theorem Fate.exists_ledger {engine : Engine Host} {host : Host} {pass : Pass Host}
    {ending : Ending} (h : engine.Fate host pass ending) :
    ∃ count prior, engine.Ledger host count prior ∧ pass.issued = prior.issued ∧
      pass.journal.calls = prior.journal.calls ∧
      pass.journal.replies = prior.journal.replies ∧ engine.SoundBelow host count ∧
      pass.errors = prior.errors ∧ pass.journal.checks = prior.journal.checks ∧
      pass.journal.takings = prior.journal.takings ∧
      pass.journal.records = prior.journal.records := by
  cases h with
  | faulted faults sound running =>
      exact ⟨_, _, running.ledger, rfl, rfl, rfl, sound, rfl, rfl, rfl, rfl⟩
  | completed after sound running finished =>
      exact ⟨_, _, running.ledger, rfl, by simp [Pass.ended], by simp [Pass.ended], sound, rfl,
        by simp [Pass.ended]⟩
  | incomplete sound running unfinished settled =>
      exact ⟨_, _, running.ledger, rfl, rfl, rfl, sound, rfl, rfl, rfl, rfl⟩
  | abandoned sound running waiting silent =>
      exact ⟨_, _, running.ledger, rfl, rfl, rfl, sound, rfl, rfl, rfl, rfl⟩

/-- An instance that has been checked in a pass has come to its turn without a fault before. -/
theorem Fate.soundBelow_of_checked {engine : Engine Host} {host : Host} {pass : Pass Host}
    {ending : Ending} (h : engine.Fate host pass ending) {index : Nat}
    (hchecked : index ∈ pass.journal.checks) :
    index < engine.rules.size ∧ engine.SoundBelow host index := by
  obtain ⟨count, prior, hledger, _, _, _, hsound, _, hchecks, _⟩ := h.exists_ledger
  rw [hchecks, hledger.mem_checks_iff] at hchecked
  have hlt := hchecked.1
  exact ⟨Nat.lt_of_lt_of_le hlt hledger.count_le, hsound.mono (Nat.le_of_lt hlt)⟩

end Engine

namespace Ending

/-- The state of an engine after a pass. -/
def state : Ending → EngineState
  | .returned .passed => .completed .passed
  | .returned .failed => .completed .failed
  | .faulted _ => .idle
  | .returned (.incomplete _) | .abandoned => .running

/-- The events that a pass announces. -/
def events : Ending → List Event
  | .returned .passed => [.started, .ended, .passes]
  | .returned .failed => [.started, .ended, .fails]
  | _ => [.started]

end Ending

/-- How a pass ends tells which events it has announced, and in which state it leaves the engine. -/
theorem Engine.Fate.state_events_eq {engine : Engine Host} {host : Host} {pass : Pass Host}
    {ending : Ending} (h : engine.Fate host pass ending) :
    pass.state = ending.state ∧ pass.journal.events = ending.events := by
  cases h with
  | faulted faults sound running => exact ⟨rfl, running.events_eq⟩
  | @completed prior after sound running finished =>
      have hevents := running.events_eq
      cases hconclusion : conclusionOf prior.errors <;>
        simp [Pass.ended, hconclusion, hevents, Ending.state, Ending.events,
          PassState.ofConclusion, Conclusion.event]
  | incomplete sound running unfinished settled => exact ⟨running.state_eq, running.events_eq⟩
  | abandoned sound running waiting silent => exact ⟨running.state_eq, running.events_eq⟩

theorem Engine.state_events_exec (engine : Engine Host) (turns : List (Turn Host)) (host : Host) :
    let report := engine.exec turns host
    report.engine.state = report.ending.state ∧ report.journal.events = report.ending.events := by
  obtain ⟨pass, hfate, hjournal, hengine⟩ := engine.exec_fate turns host
  intro report
  simp only [report, hjournal, hengine]
  exact hfate.state_events_eq

end FormRules
