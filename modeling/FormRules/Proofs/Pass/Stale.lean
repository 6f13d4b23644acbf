/-
Replies that come too late.

In its further life an engine never gives a ticket out again.  So replies to the tickets of a pass
that is over do not change any later pass.
-/
import FormRules.Proofs.Pass.Renumber

namespace FormRules

variable {Host : Type}

/-- A turn that leaves out its replies to some tickets. -/
def muteTurn (lost : Ticket → Bool) (turn : Turn Host) : Turn Host :=
  fun host => ((turn host).1, (turn host).2.filter fun entry => !lost entry.1)

/-- An instance whose custom rule leaves out its replies to some tickets. -/
def RuleInstance.mute (lost : Ticket → Bool) : RuleInstance Host → RuleInstance Host
  | ⟨field, .registered name params, message⟩ => ⟨field, .registered name params, message⟩
  | ⟨field, .custom rule, message⟩ =>
      ⟨field, .custom fun input ticket => muteTurn lost (rule input ticket), message⟩

namespace Engine

/-- An engine whose listeners and custom rules leave out their replies to some tickets. -/
def mute (engine : Engine Host) (lost : Ticket → Bool) : Engine Host :=
  { engine with
    rules := { engine.rules with instances := engine.rules.instances.map (RuleInstance.mute lost) }
    listener := fun event => (engine.listener event).map (muteTurn lost) }

/-- What an engine may become in its further life: the host edits its rules, sets listeners, gives
it another registry, and runs passes. -/
inductive Becomes (engine : Engine Host) : Engine Host → Prop
  | refl : Becomes engine engine
  | edit {later : Engine Host} (h : Becomes engine later) (edit : Edit Host) :
      Becomes engine (later.edit edit)
  | on {later : Engine Host} (h : Becomes engine later) (event : Event) (listener : Turn Host) :
      Becomes engine (later.on event listener)
  | register {later : Engine Host} (h : Becomes engine later) (registry : Registry) :
      Becomes engine { later with registry := registry }
  | exec {later : Engine Host} (h : Becomes engine later) (turns : List (Turn Host))
      (host : Host) : Becomes engine (later.exec turns host).engine

theorem issued_le_exec (engine : Engine Host) (turns : List (Turn Host)) (host : Host) :
    engine.issued ≤ (engine.exec turns host).engine.issued := by
  obtain ⟨pass, hfate, _, hengine⟩ := engine.exec_fate turns host
  obtain ⟨_, prior, hledger, hissued, _⟩ := hfate.exists_ledger
  rw [hengine]
  calc engine.issued = prior.firstTicket := hledger.firstTicket_eq.symm
    _ ≤ prior.firstTicket + prior.journal.calls.length := Nat.le_add_right _ _
    _ = pass.issued := by rw [hissued, hledger.issued_eq]

/-- Tickets are never taken back. -/
theorem Becomes.issued_le {engine later : Engine Host} (h : engine.Becomes later) :
    engine.issued ≤ later.issued := by
  induction h with
  | refl => exact Nat.le_refl _
  | edit _ _ ih => exact ih
  | on _ _ _ ih => exact ih
  | register _ _ ih => exact ih
  | exec _ turns host ih => exact Nat.le_trans ih (issued_le_exec _ turns host)

/-- The tickets of a pass are those that its engine has given out meanwhile. -/
theorem mem_tickets_exec_iff (engine : Engine Host) (turns : List (Turn Host)) (host : Host)
    (ticket : Ticket) :
    ticket ∈ (engine.exec turns host).journal.calls.map Prod.snd ↔
      engine.issued ≤ ticket ∧ ticket < (engine.exec turns host).engine.issued := by
  obtain ⟨pass, hfate, hjournal, hengine⟩ := engine.exec_fate turns host
  obtain ⟨_, prior, hledger, hissued, hcalls, _⟩ := hfate.exists_ledger
  rw [hjournal, hcalls, hledger.mem_tickets_iff, hledger.firstTicket_eq, hengine, hissued]

theorem lt_issued_of_called (engine : Engine Host) (turns : List (Turn Host)) (host : Host)
    {ticket : Ticket} (h : ticket ∈ (engine.exec turns host).journal.calls.map Prod.snd) :
    ticket < (engine.exec turns host).engine.issued :=
  ((engine.mem_tickets_exec_iff turns host ticket).mp h).2

variable {lost : Ticket → Bool} {first : Ticket}

theorem sameTurn_mute (hlost : ∀ ticket, lost ticket = true → ticket < first)
    (turn : Turn Host) : SameTurn Eq first 0 turn (muteTurn lost turn) := by
  rintro host _ rfl
  refine ⟨rfl, ?_⟩
  have hlive : ∀ entry ∈ (turn host).2,
      (decide (first ≤ entry.1) && !lost entry.1) = decide (first ≤ entry.1) := by
    intro entry _
    by_cases hfirst : first ≤ entry.1
    · have hkept : lost entry.1 = false := by
        rw [← Bool.not_eq_true]
        exact fun hmuted => absurd (hlost entry.1 hmuted) (Nat.not_lt.mpr hfirst)
      simp [hkept]
    · simp [hfirst]
  simp only [muteTurn, Replies.since, Replies.shift, Nat.add_zero, List.filter_filter]
  rw [List.filter_congr hlive]
  simp

theorem mirrors_mute (engine : Engine Host)
    (hlost : ∀ ticket, lost ticket = true → ticket < engine.issued) :
    Mirrors Eq 0 engine (engine.mute lost) where
  settings_eq := rfl
  registry_eq := rfl
  source_eq := by
    rintro host _ rfl
    rfl
  overrides_eq := rfl
  combined_eq := rfl
  instances := by
    simp only [mute, List.forall₂_map_right_iff]
    rw [List.forall₂_same]
    intro inst _
    rcases inst with ⟨field, task, message⟩
    cases task with
    | registered name params => exact .registered field name params message
    | custom rule =>
        exact .custom field message fun input ticket => sameTurn_mute hlost (rule input ticket)
  listeners := by
    intro event
    simp only [mute]
    cases engine.listener event with
    | none => exact .none
    | some listener => exact .some (sameTurn_mute hlost listener)
  issued_eq := rfl

/-- Replies to tickets of earlier passes may be left out. -/
theorem exec_mute (engine : Engine Host)
    (hlost : ∀ ticket, lost ticket = true → ticket < engine.issued) (turns : List (Turn Host))
    (host : Host) :
    let loud := engine.exec turns host
    let quiet := (engine.mute lost).exec (turns.map (muteTurn lost)) host
    quiet.ending = loud.ending ∧ quiet.journal = loud.journal ∧ quiet.host = loud.host ∧
      quiet.engine.errors = loud.engine.errors ∧ quiet.engine.state = loud.engine.state := by
  have hturns : List.Forall₂ (SameTurn Eq engine.issued 0) turns (turns.map (muteTurn lost)) := by
    rw [List.forall₂_map_right_iff, List.forall₂_same]
    exact fun turn _ => sameTurn_mute hlost turn
  obtain ⟨hending, hjournal, hhost, herrors, hstate, _⟩ :=
    (engine.mirrors_mute hlost).exec hturns (Eq.refl host)
  rw [Journal.shift_zero] at hjournal
  exact ⟨hending, hjournal, hhost.symm, herrors, hstate⟩

end Engine

end FormRules
