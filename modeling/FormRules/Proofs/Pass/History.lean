/-
A pass does not depend on the past of its engine.

An engine may have been edited and run any number of times, and its host may still hold verdicts of
earlier passes.  The next pass is that of a new engine for the same form, whatever the host replies
to those verdicts and whenever it does.
-/
import FormRules.Proofs.Pass.Result
import FormRules.Proofs.Pass.Stale

namespace FormRules

variable {Host Other : Type}

namespace Journal

/-- The instances whose custom rule was called, with what it was called with. -/
def inputs (journal : Journal) : List (Nat × CustomInput) :=
  journal.filterMap fun
    | .called index input _ => some (index, input)
    | _ => none

/-- Custom rules are called with the same inputs when tickets are renumbered. -/
theorem inputs_shift (offset : Nat) (journal : Journal) :
    (journal.shift offset).inputs = journal.inputs := by
  rw [inputs, inputs, shift, List.filterMap_map]
  congr 1
  funext entry
  cases entry <;> rfl

end Journal

namespace Engine

/-- An engine that may have been edited and run since it was made, with the journals of its passes
in their order.  A pass may have ended in any way. -/
inductive Reached : Engine Host → List Journal → Prop
  | new (source : Host → Source) (settings : Settings) (registry : Registry) :
      Reached (new source settings registry) []
  | edit {engine : Engine Host} {past : List Journal} (h : Reached engine past)
      (edit : Edit Host) : Reached (engine.edit edit) past
  | on {engine : Engine Host} {past : List Journal} (h : Reached engine past) (event : Event)
      (listener : Turn Host) : Reached (engine.on event listener) past
  | register {engine : Engine Host} {past : List Journal} (h : Reached engine past)
      (registry : Registry) : Reached { engine with registry := registry } past
  | exec {engine : Engine Host} {past : List Journal} (h : Reached engine past)
      (turns : List (Turn Host)) (host : Host) :
      Reached (engine.exec turns host).engine (past ++ [(engine.exec turns host).journal])

/-- The tickets that an engine has given out are those of its passes. -/
theorem Reached.lt_issued_iff {engine : Engine Host} {past : List Journal}
    (h : Reached engine past) (ticket : Ticket) :
    ticket < engine.issued ↔ ∃ journal ∈ past, ticket ∈ journal.calls.map Prod.snd := by
  induction h with
  | new source settings registry => simp [Engine.new]
  | edit _ _ ih => exact ih
  | on _ _ _ ih => exact ih
  | register _ _ ih => exact ih
  | @exec engine past _ turns host ih =>
      -- A ticket is older than the last pass, or one of the tickets of that pass.
      have hsplit : ticket < (engine.exec turns host).engine.issued ↔
          ticket < engine.issued ∨
            ticket ∈ (engine.exec turns host).journal.calls.map Prod.snd := by
        rw [engine.mem_tickets_exec_iff]
        constructor
        · intro hissued
          rcases Nat.lt_or_ge ticket engine.issued with hold | hnew
          · exact Or.inl hold
          · exact Or.inr ⟨hnew, hissued⟩
        · rintro (hold | ⟨_, hissued⟩)
          · exact Nat.lt_of_lt_of_le hold (engine.issued_le_exec turns host)
          · exact hissued
      rw [hsplit, ih]
      simp only [List.mem_append, List.mem_singleton, or_and_right, exists_or, exists_eq_left]

/-- An engine that has not run has given no ticket out. -/
theorem Reached.issued_eq_zero {engine : Engine Host} (h : Reached engine []) :
    engine.issued = 0 := by
  rcases Nat.eq_zero_or_pos engine.issued with hzero | hpos
  · exact hzero
  · obtain ⟨_, hjournal, _⟩ := (h.lt_issued_iff 0).mp hpos
    cases hjournal

/-- The next pass of an engine with any past, and the first pass of an engine without one.  Both are
engines for the same form, and their hosts do the same but for replies to the tickets of earlier
passes.  The custom rules are called with the same inputs, the same events are announced, and the
pass ends in the same way, with the same failures in the same order.  The journals only differ in
the numbers of the tickets. -/
theorem exec_of_reached {related : Host → Other → Prop} {fresh : Engine Host}
    {used : Engine Other} {past : List Journal} (hfresh : Reached fresh [])
    (hused : Reached used past) (hsame : Mirrors related used.issued fresh used)
    {turns : List (Turn Host)} {others : List (Turn Other)}
    (hturns : List.Forall₂ (SameTurn related 0 used.issued) turns others) {host : Host}
    {other : Other} (hhost : related host other) :
    let first := fresh.exec turns host
    let next := used.exec others other
    (∀ ticket, ticket < used.issued ↔ ∃ journal ∈ past, ticket ∈ journal.calls.map Prod.snd) ∧
    next.journal.inputs = first.journal.inputs ∧ next.journal.events = first.journal.events ∧
    next.ending = first.ending ∧ next.engine.state = first.engine.state ∧
    next.engine.errors = first.engine.errors ∧
    next.journal = first.journal.shift used.issued ∧ related first.host next.host := by
  intro first next
  rw [← hfresh.issued_eq_zero] at hturns
  obtain ⟨hending, hjournal, hrelated, herrors, hstate, _⟩ := hsame.exec hturns hhost
  refine ⟨hused.lt_issued_iff, ?_, ?_, hending, hstate, herrors, hjournal, hrelated⟩
  · rw [hjournal, Journal.inputs_shift]
  · rw [hjournal]
    exact (Journal.views_shift used.issued first.journal).1

/-- The host rejects all that it has kept. -/
def rejectKept : Turn (List Ticket) := fun kept =>
  ([], kept.map fun ticket => (ticket, .answered .fail))

/-- A form with a custom rule whose verdict is left open. -/
def keptVerdict : Engine (List Ticket) :=
  (new (fun _ => Fields.empty.toSource) {} .empty).edit
    (.extend ["name"] keepTicket (some "taken"))

/-- The form after a pass that was abandoned while its verdict was open. -/
def usedVerdict : Engine (List Ticket) := (keptVerdict.exec [] []).engine

/-- Of the tickets that a host has kept those of the next pass are the same, with numbers one
higher. -/
def KeptAlike (kept others : List Ticket) : Prop :=
  others.filter (fun ticket => decide (1 ≤ ticket)) = kept.map (· + 1)

theorem sameTurn_keepTicket (input : CustomInput) (ticket : Ticket) :
    SameTurn KeptAlike 0 1 (keepTicket input ticket) (keepTicket input (ticket + 1)) := by
  intro kept others hkept
  have hkept : others.filter (fun ticket => decide (1 ≤ ticket)) = kept.map (· + 1) := hkept
  refine ⟨?_, rfl⟩
  simp [KeptAlike, keepTicket, hkept]

theorem sameTurn_rejectKept : SameTurn KeptAlike 0 1 rejectKept rejectKept := by
  intro kept others hkept
  have hkept : others.filter (fun ticket => decide (1 ≤ ticket)) = kept.map (· + 1) := hkept
  refine ⟨rfl, ?_⟩
  have hnew : (rejectKept others).2.since (0 + 1) =
      (others.filter fun ticket => decide (1 ≤ ticket)).map
        fun ticket => (ticket, .answered .fail) := by
    simp [rejectKept, Replies.since, List.filter_map, Function.comp_def]
  rw [hnew, hkept]
  simp [rejectKept, Replies.since, Replies.shift]

theorem mirrors_usedVerdict : Mirrors KeptAlike 1 keptVerdict usedVerdict where
  settings_eq := rfl
  registry_eq := rfl
  source_eq := fun _ _ _ => rfl
  overrides_eq := rfl
  combined_eq := rfl
  instances := .cons (.custom "name" (some "taken") sameTurn_keepTicket) .nil
  listeners := fun _ => .none
  issued_eq := rfl

/-- The host answers the verdict of the abandoned pass too, in the middle of the next one. -/
theorem exec_of_usedVerdict :
    (keptVerdict.exec [] []).ending = .abandoned ∧ keptVerdict.Reached [] ∧
    usedVerdict.Reached [(keptVerdict.exec [] []).journal] ∧ KeptAlike [] [0] ∧
    (usedVerdict.exec [rejectKept] [0]).ending = .returned .failed ∧
    (usedVerdict.exec [rejectKept] [0]).journal =
      (keptVerdict.exec [rejectKept] []).journal.shift 1 := by
  have hfresh : keptVerdict.Reached [] := .edit (.new _ _ _) _
  have hused : usedVerdict.Reached [(keptVerdict.exec [] []).journal] := hfresh.exec [] []
  have hkept : KeptAlike [] [0] := rfl
  have hturns : List.Forall₂ (SameTurn KeptAlike 0 1) [rejectKept] [rejectKept] :=
    .cons sameTurn_rejectKept .nil
  obtain ⟨_, _, _, hending, _, _, hjournal, _⟩ :=
    exec_of_reached hfresh hused mirrors_usedVerdict hturns hkept
  have hfailed : (keptVerdict.exec [rejectKept] []).ending = .returned .failed := by rfl
  exact ⟨rfl, hfresh, hused, hkept, hending.trans hfailed, hjournal⟩

end Engine

end FormRules
