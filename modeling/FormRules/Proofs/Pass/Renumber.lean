/-
Passes with renumbered tickets.

A pass never looks at the number of a ticket, and a reply to a ticket of an earlier pass does not
count.  So two passes run alike if their hosts do the same, up to the number of the first ticket and
up to replies to tickets of earlier passes.  The hosts need not be the same: a host may keep tickets
that it has still to answer, and those differ.
-/
import FormRules.Proofs.Pass.SameForm

namespace FormRules

variable {Host Other : Type}

/-- The replies to the tickets from a first one on. -/
def Replies.since (first : Ticket) (given : Replies) : Replies :=
  given.filter fun entry => decide (first ≤ entry.1)

/-- Replies with renumbered tickets. -/
def Replies.shift (offset : Nat) (given : Replies) : Replies :=
  given.map fun entry => (entry.1 + offset, entry.2)

/-- An entry with its ticket renumbered. -/
def Entry.shift (offset : Nat) : Entry → Entry
  | .called index input ticket => .called index input (ticket + offset)
  | .heard ticket reply => .heard (ticket + offset) reply
  | .fired event => .fired event
  | .checked index => .checked index
  | .taken index reply => .taken index reply
  | .recorded field message => .recorded field message

namespace Journal

/-- A journal with renumbered tickets. -/
def shift (offset : Nat) (journal : Journal) : Journal := journal.map (Entry.shift offset)

@[simp] theorem shift_append (offset : Nat) (first second : Journal) :
    shift offset (first ++ second) = shift offset first ++ shift offset second :=
  List.map_append

@[simp] theorem shift_ofRecords (offset : Nat) (failures : List (String × String)) :
    shift offset (ofRecords failures) = ofRecords failures := by
  simp [shift, ofRecords, Entry.shift]

theorem replies_shift (offset : Nat) (journal : Journal) :
    (journal.shift offset).replies = journal.replies.shift offset := by
  induction journal with
  | nil => rfl
  | cons entry rest ih =>
      simp only [shift] at ih
      cases entry <;> simp [shift, Entry.shift, Replies.shift, ih]

theorem shift_zero (journal : Journal) : journal.shift 0 = journal := by
  have hentry : Entry.shift 0 = id := by
    funext entry
    cases entry <;> rfl
  rw [shift, hentry, List.map_id]

/-- Renumbering changes nothing but tickets. -/
theorem views_shift (offset : Nat) (journal : Journal) :
    (journal.shift offset).events = journal.events ∧
      (journal.shift offset).checks = journal.checks ∧
      (journal.shift offset).takings = journal.takings ∧
      (journal.shift offset).records = journal.records := by
  induction journal with
  | nil => exact ⟨rfl, rfl, rfl, rfl⟩
  | cons entry rest ih =>
      obtain ⟨hevents, hchecks, htakings, hrecords⟩ := ih
      simp only [shift] at hevents hchecks htakings hrecords
      cases entry <;> simp [shift, Entry.shift, hevents, hchecks, htakings, hrecords]

end Journal

/-- Two turns that do the same on related hosts, up to the number of the first ticket and to replies
to tickets before it. -/
def SameTurn (related : Host → Other → Prop) (first : Ticket) (offset : Nat) (left : Turn Host)
    (right : Turn Other) : Prop :=
  ∀ host other, related host other → related (left host).1 (right other).1 ∧
    (right other).2.since (first + offset) = ((left host).2.since first).shift offset

/-- Two instances that are the same, up to what their custom rules reply to tickets before a first
one and to the number of that ticket. -/
inductive SameInstance (related : Host → Other → Prop) (first : Ticket) (offset : Nat) :
    RuleInstance Host → RuleInstance Other → Prop
  | registered (field name : String) (params : List Param) (message : Option String) :
      SameInstance related first offset ⟨field, .registered name params, message⟩
        ⟨field, .registered name params, message⟩
  | custom (field : String) (message : Option String) {left : CustomRule Host}
      {right : CustomRule Other}
      (same : ∀ input ticket,
        SameTurn related first offset (left input ticket) (right input (ticket + offset))) :
      SameInstance related first offset ⟨field, .custom left, message⟩
        ⟨field, .custom right, message⟩

namespace Pass

/-- Two passes that have come to the same point, over related hosts and with renumbered tickets. -/
structure Parallel (related : Host → Other → Prop) (first : Ticket) (offset : Nat)
    (pass : Pass Host) (twin : Pass Other) : Prop where
  host : related pass.host twin.host
  errors_eq : twin.errors = pass.errors
  state_eq : twin.state = pass.state
  firstTicket_eq : pass.firstTicket = first
  twin_firstTicket_eq : twin.firstTicket = first + offset
  issued_eq : twin.issued = pass.issued + offset
  reported_eq : twin.reported = pass.reported
  dropped_eq : twin.dropped = pass.dropped
  awaited_eq : twin.awaited = pass.awaited.map fun entry => (entry.1, entry.2 + offset)
  journal_eq : twin.journal = pass.journal.shift offset

theorem hear_firstTicket (pass : Pass Host) (ticket : Ticket) (reply : Reply) :
    (pass.hear ticket reply).firstTicket = pass.firstTicket := by
  unfold hear
  split <;> rfl

/-- Replies to tickets of earlier passes do not count. -/
theorem hearAll_since (pass : Pass Host) (given : Replies) :
    pass.hearAll (given.since pass.firstTicket) = pass.hearAll given := by
  induction given generalizing pass with
  | nil => rfl
  | cons entry rest ih =>
      have hrest := ih (pass.hear entry.1 entry.2)
      rw [hear_firstTicket] at hrest
      by_cases hlive : pass.firstTicket ≤ entry.1
      · simpa [hearAll, Replies.since, hlive] using hrest
      · have hclosed : pass.isOpen entry.1 = false := by simp [isOpen, hlive]
        have hsame : pass.hear entry.1 entry.2 = pass := by simp [hear, hclosed]
        rw [hsame] at hrest
        simpa [hearAll, Replies.since, hlive, hsame] using hrest

namespace Parallel

variable {related : Host → Other → Prop} {first : Ticket} {offset : Nat} {pass : Pass Host}
  {twin : Pass Other}

theorem heard_eq (h : Parallel related first offset pass twin) :
    twin.heard = pass.heard.shift offset := by
  rw [heard, h.journal_eq, Journal.replies_shift]
  rfl

theorem reply?_eq (h : Parallel related first offset pass twin) (ticket : Ticket) :
    twin.reply? (ticket + offset) = pass.reply? ticket := by
  simp only [reply?, h.heard_eq, Replies.shift, List.find?_map, Option.map_map]
  have hticket : ((fun entry : Ticket × Reply => entry.1 == ticket + offset) ∘
      fun entry : Ticket × Reply => (entry.1 + offset, entry.2)) =
        fun entry => entry.1 == ticket := by
    funext entry
    simp
  rw [hticket]
  rfl

theorem isOpen_eq (h : Parallel related first offset pass twin) (ticket : Ticket) :
    twin.isOpen (ticket + offset) = pass.isOpen ticket := by
  simp only [isOpen, h.reply?_eq, h.firstTicket_eq, h.twin_firstTicket_eq, h.issued_eq]
  simp

theorem note (h : Parallel related first offset pass twin) (entry : Entry) :
    Parallel related first offset (pass.note entry) (twin.note (entry.shift offset)) :=
  { h with journal_eq := by simp [Pass.note, Journal.shift, h.journal_eq] }

theorem hear (h : Parallel related first offset pass twin) (ticket : Ticket) (reply : Reply) :
    Parallel related first offset (pass.hear ticket reply) (twin.hear (ticket + offset) reply) := by
  unfold Pass.hear
  rw [h.isOpen_eq]
  split
  · exact h.note (.heard ticket reply)
  · exact h

theorem hearAll (h : Parallel related first offset pass twin) (given : Replies) :
    Parallel related first offset (pass.hearAll given) (twin.hearAll (given.shift offset)) := by
  induction given generalizing pass twin with
  | nil => exact h
  | cons entry rest ih => exact ih (h.hear entry.1 entry.2)

theorem takeTurn (h : Parallel related first offset pass twin) {left : Turn Host}
    {right : Turn Other} (hturn : SameTurn related first offset left right) :
    Parallel related first offset (pass.takeTurn left) (twin.takeTurn right) := by
  obtain ⟨hhost, hreplies⟩ := hturn pass.host twin.host h.host
  let turned : Pass Host := { pass with host := (left pass.host).1 }
  let other : Pass Other := { twin with host := (right twin.host).1 }
  have hturned : Parallel related first offset turned other := { h with host := hhost }
  -- Neither pass counts replies to tickets before its first one, so the others decide.
  have hpass : turned.hearAll ((left pass.host).2.since first) = pass.takeTurn left := by
    rw [← hturned.firstTicket_eq]
    exact turned.hearAll_since _
  have htwin : other.hearAll ((right twin.host).2.since (first + offset)) =
      twin.takeTurn right := by
    rw [← hturned.twin_firstTicket_eq]
    exact other.hearAll_since _
  have hheard := hturned.hearAll ((left pass.host).2.since first)
  rw [← hreplies, hpass, htwin] at hheard
  exact hheard

end Parallel

end Pass

namespace Engine

/-- Two engines whose next passes run alike over related hosts, up to the number of the first
ticket. -/
structure Mirrors (related : Host → Other → Prop) (offset : Nat) (left : Engine Host)
    (right : Engine Other) : Prop where
  settings_eq : left.settings = right.settings
  registry_eq : left.registry = right.registry
  source_eq : ∀ host other, related host other → left.source host = right.source other
  overrides_eq : left.rules.overrides = right.rules.overrides
  combined_eq : left.rules.combined = right.rules.combined
  instances : List.Forall₂ (SameInstance related left.issued offset) left.rules.instances
    right.rules.instances
  listeners : ∀ event, Option.Rel (SameTurn related left.issued offset) (left.listener event)
    (right.listener event)
  issued_eq : right.issued = left.issued + offset

namespace Mirrors

open Pass (Parallel)

variable {related : Host → Other → Prop} {offset : Nat} {left : Engine Host} {right : Engine Other}
  {pass : Pass Host} {twin : Pass Other}

theorem sameForm (h : Mirrors related offset left right) : left.SameForm right := by
  refine ⟨h.settings_eq, h.registry_eq, h.overrides_eq, h.combined_eq, ?_⟩
  have hall := h.instances
  generalize left.rules.instances = instances at hall
  generalize right.rules.instances = others at hall
  induction hall with
  | nil => rfl
  | cons hsame _ ih =>
      rw [List.map_cons, List.map_cons, ih]
      cases hsame <;> rfl

theorem fire (h : Mirrors related offset left right)
    (hpass : Parallel related left.issued offset pass twin) (event : Event) :
    Parallel related left.issued offset (left.fire event pass) (right.fire event twin) := by
  have hnote := hpass.note (.fired event)
  have hlistener := h.listeners event
  unfold Engine.fire
  generalize left.listener event = listener at hlistener
  generalize right.listener event = other at hlistener
  cases hlistener with
  | none => exact hnote
  | some hsame => exact hnote.takeTurn hsame

theorem recordAll (h : Mirrors related offset left right)
    (hpass : Parallel related left.issued offset pass twin) (failures : List (String × String)) :
    Parallel related left.issued offset (left.recordAll failures pass)
      (right.recordAll failures twin) :=
  { hpass with
    errors_eq := by simp only [Engine.recordAll, hpass.errors_eq, h.settings_eq]
    journal_eq := by
      simp only [Engine.recordAll, hpass.journal_eq, Journal.shift_append,
        Journal.shift_ofRecords] }

theorem concludeIfDone (h : Mirrors related offset left right)
    (hpass : Parallel related left.issued offset pass twin) :
    Parallel related left.issued offset (left.concludeIfDone pass) (right.concludeIfDone twin) := by
  have hsettled : Parallel related left.issued offset
      { pass with state := .completed (conclusionOf pass.errors) }
      { twin with state := .completed (conclusionOf pass.errors) } :=
    { hpass with state_eq := rfl }
  have hdone : twin.reported = right.rules.size ↔ pass.reported = left.rules.size := by
    rw [hpass.reported_eq, h.sameForm.size_eq]
  have hconclusion : conclusionOf twin.errors = conclusionOf pass.errors :=
    congrArg conclusionOf hpass.errors_eq
  simp only [Engine.concludeIfDone, hdone, hconclusion]
  split
  · exact h.fire (h.fire hsettled .ended) _
  · exact hpass

theorem report (h : Mirrors related offset left right)
    (hpass : Parallel related left.issued offset pass twin) :
    Parallel related left.issued offset (left.report pass) (right.report twin) :=
  h.concludeIfDone { hpass with reported_eq := congrArg (· + 1) hpass.reported_eq }

theorem conclude (h : Mirrors related offset left right)
    (hpass : Parallel related left.issued offset pass twin) (index : Nat) (reply : Reply) :
    Parallel related left.issued offset (left.conclude index reply pass)
      (right.conclude index reply twin) := by
  have hrecorded := h.recordAll (hpass.note (.taken index reply))
    (left.verdictFailures index reply)
  unfold Engine.conclude
  rw [← h.sameForm.verdictFailures_eq]
  cases reply with
  | answered outcome => exact h.report hrecorded
  | dropped => exact { hrecorded with dropped_eq := congrArg (· + 1) hrecorded.dropped_eq }

theorem call (h : Mirrors related offset left right)
    (hpass : Parallel related left.issued offset pass twin) (index : Nat) (field : String)
    {rule : CustomRule Host} {other : CustomRule Other}
    (hturn : ∀ input ticket,
      SameTurn related left.issued offset (rule input ticket) (other input (ticket + offset))) :
    Parallel related left.issued offset (left.call index field rule pass)
      (right.call index field other twin) := by
  let input := left.customInput pass.host field
  have hinput : right.customInput twin.host field = input :=
    (h.sameForm.customInput_eq (h.source_eq _ _ hpass.host) field).symm
  have hissued : Parallel related left.issued offset { pass with issued := pass.issued + 1 }
      { twin with issued := pass.issued + offset + 1 } :=
    { hpass with issued_eq := Nat.add_right_comm _ _ _ }
  have hcalled := hissued.note (.called index input pass.issued)
  unfold Engine.call
  rw [hinput, hpass.issued_eq]
  exact hcalled.takeTurn (hturn input pass.issued)

theorem settle (h : Mirrors related offset left right)
    (hpass : Parallel related left.issued offset pass twin) (index : Nat) (ticket : Ticket) :
    Parallel related left.issued offset (left.settle index ticket pass)
      (right.settle index (ticket + offset) twin) := by
  unfold Engine.settle
  rw [hpass.reply?_eq]
  cases pass.reply? ticket with
  | some reply => exact h.conclude hpass index reply
  | none => exact { hpass with awaited_eq := by simp [hpass.awaited_eq] }

theorem runCustom (h : Mirrors related offset left right)
    (hpass : Parallel related left.issued offset pass twin) (index : Nat) (field : String)
    (message : Option String) {rule : CustomRule Host} {other : CustomRule Other}
    (hturn : ∀ input ticket,
      SameTurn related left.issued offset (rule input ticket) (other input (ticket + offset))) :
    Parallel related left.issued offset
      (left.runCustom index ⟨field, .custom rule, message⟩ rule pass)
      (right.runCustom index ⟨field, .custom other, message⟩ other twin) := by
  unfold Engine.runCustom
  rw [hpass.issued_eq]
  exact h.settle (h.call hpass index field hturn) index pass.issued

theorem runRegistered (h : Mirrors related offset left right)
    (hpass : Parallel related left.issued offset pass twin) (index : Nat) (field name : String)
    (params : List Param) (message : Option String) :
    (∃ fault, left.runRegistered index ⟨field, .registered name params, message⟩ name params pass =
        .error fault ∧
      right.runRegistered index ⟨field, .registered name params, message⟩ name params twin =
        .error fault) ∨
    ∃ next other,
      left.runRegistered index ⟨field, .registered name params, message⟩ name params pass =
        .ok next ∧
      right.runRegistered index ⟨field, .registered name params, message⟩ name params twin =
        .ok other ∧ Parallel related left.issued offset next other := by
  have hdecide := h.sameForm.decideInstance_eq (h.source_eq _ _ hpass.host) field name params
    message
  unfold Engine.runRegistered
  rw [← hdecide]
  cases left.decideInstance pass.host ⟨field, .registered name params, message⟩ name params with
  | error fault => exact Or.inl ⟨fault, rfl, rfl⟩
  | ok decision =>
      obtain ⟨passed, rule⟩ := decision
      refine Or.inr ⟨_, _, rfl, rfl, ?_⟩
      rw [← h.sameForm.ruleFailures_eq]
      exact h.report (h.recordAll (hpass.note (.checked index)) _)

/-- The turns of two instances that are the same end with the same fault, or go on alike. -/
theorem run (h : Mirrors related offset left right)
    (hpass : Parallel related left.issued offset pass twin) (index : Nat)
    {inst : RuleInstance Host} {like : RuleInstance Other}
    (hsame : SameInstance related left.issued offset inst like) :
    (∃ fault, left.run index inst pass = .error fault ∧
      right.run index like twin = .error fault) ∨
    ∃ next other, left.run index inst pass = .ok next ∧ right.run index like twin = .ok other ∧
      Parallel related left.issued offset next other := by
  cases hsame with
  | registered field name params message =>
      exact h.runRegistered hpass index field name params message
  | custom field message hturn =>
      exact Or.inr ⟨_, _, rfl, rfl, h.runCustom hpass index field message hturn⟩

theorem walk (h : Mirrors related offset left right)
    (hpass : Parallel related left.issued offset pass twin) (index : Nat)
    {instances : List (RuleInstance Host)} {others : List (RuleInstance Other)}
    (hsame : List.Forall₂ (SameInstance related left.issued offset) instances others) :
    Parallel related left.issued offset (left.walk index instances pass).1
        (right.walk index others twin).1 ∧
      (right.walk index others twin).2 = (left.walk index instances pass).2 := by
  induction hsame generalizing index pass twin with
  | nil => exact ⟨hpass, rfl⟩
  | cons hhead _ ih =>
      unfold Engine.walk
      rcases h.run hpass index hhead with
        ⟨fault, hleft, hright⟩ | ⟨next, other, hleft, hright, hnext⟩
      · -- A fault stops both walks at the same instance.
        rw [hleft, hright]
        exact ⟨{ hpass with state_eq := rfl }, rfl⟩
      · rw [hleft, hright]
        exact ih hnext (index + 1)

theorem begin_parallel (h : Mirrors related offset left right) {host : Host} {other : Other}
    (hhost : related host other) :
    Parallel related left.issued offset (left.begin host) (right.begin other) := by
  apply h.fire
  exact ⟨hhost, rfl, rfl, rfl, h.issued_eq, h.issued_eq, rfl, rfl, rfl, rfl⟩

theorem collect (h : Mirrors related offset left right)
    (hpass : Parallel related left.issued offset pass twin) (ticket : Ticket) :
    Parallel related left.issued offset (left.collect ticket pass)
      (right.collect (ticket + offset) twin) := by
  have hticket : ∀ other : Ticket, (other + offset == ticket + offset) = (other == ticket) := by
    simp
  have hfind : twin.awaited.find? (fun entry => entry.2 == ticket + offset) =
      (pass.awaited.find? fun entry => entry.2 == ticket).map
        fun entry => (entry.1, entry.2 + offset) := by
    simp only [hpass.awaited_eq, List.find?_map, Function.comp_def, hticket]
  have hrest : Parallel related left.issued offset
      { pass with awaited := pass.awaited.filter fun entry => entry.2 != ticket }
      { twin with awaited := twin.awaited.filter fun entry => entry.2 != ticket + offset } :=
    { hpass with
      awaited_eq := by
        simp only [hpass.awaited_eq, List.filter_map, Function.comp_def, bne, hticket] }
  unfold Engine.collect
  rw [hfind, hpass.reply?_eq]
  cases pass.awaited.find? fun entry => entry.2 == ticket with
  | none => exact hpass
  | some found =>
      cases pass.reply? ticket with
      | none => exact hpass
      | some reply => exact h.conclude hrest found.1 reply

theorem collectAll (h : Mirrors related offset left right)
    (hpass : Parallel related left.issued offset pass twin) (tickets : List Ticket) :
    Parallel related left.issued offset (left.collectAll tickets pass)
      (right.collectAll (tickets.map (· + offset)) twin) := by
  induction tickets generalizing pass twin with
  | nil => exact hpass
  | cons ticket tickets ih => exact ih (h.collect hpass ticket)

theorem wake (h : Mirrors related offset left right)
    (hpass : Parallel related left.issued offset pass twin) {turn : Turn Host} {other : Turn Other}
    (hturn : SameTurn related left.issued offset turn other) :
    Parallel related left.issued offset (left.wake turn pass) (right.wake other twin) := by
  have hwoken := hpass.takeTurn hturn
  have hfresh : ((twin.takeTurn other).heard.drop twin.heard.length).map Prod.fst =
      (((pass.takeTurn turn).heard.drop pass.heard.length).map Prod.fst).map (· + offset) := by
    rw [hwoken.heard_eq, hpass.heard_eq, Replies.shift, Replies.shift, List.length_map,
      ← List.map_drop, List.map_map, List.map_map]
    rfl
  simp only [Engine.wake, hfresh]
  exact h.collectAll hwoken _

theorem sleep (h : Mirrors related offset left right)
    (hpass : Parallel related left.issued offset pass twin) {turns : List (Turn Host)}
    {others : List (Turn Other)}
    (hturns : List.Forall₂ (SameTurn related left.issued offset) turns others) :
    Parallel related left.issued offset (left.sleep turns pass).1 (right.sleep others twin).1 ∧
      (right.sleep others twin).2 = (left.sleep turns pass).2 := by
  have hempty : ∀ {pass twin}, Parallel related left.issued offset pass twin →
      twin.awaited.isEmpty = pass.awaited.isEmpty := by
    intro pass twin hpass
    rw [hpass.awaited_eq, List.isEmpty_map]
  induction hturns generalizing pass twin with
  | nil => exact ⟨hpass, hempty hpass⟩
  | cons hturn _ ih =>
      unfold Engine.sleep
      rw [hempty hpass]
      split
      · exact ⟨hpass, rfl⟩
      · exact ih (h.wake hpass hturn)

theorem collected (h : Mirrors related offset left right)
    (hpass : Parallel related left.issued offset pass twin) :
    Parallel related left.issued offset (left.collected pass) (right.collected twin) := by
  have hall : ∀ {pass twin}, Parallel related left.issued offset pass twin →
      Parallel related left.issued offset (left.collectAll (pass.awaited.map Prod.snd) pass)
        (right.collectAll (twin.awaited.map Prod.snd) twin) := by
    intro pass twin hpass
    have htickets : twin.awaited.map Prod.snd = (pass.awaited.map Prod.snd).map (· + offset) := by
      simp [hpass.awaited_eq, Function.comp_def]
    rw [htickets]
    exact h.collectAll hpass _
  unfold Engine.collected
  rw [← h.sameForm.size_eq]
  split
  · exact hall (h.concludeIfDone hpass)
  · exact hall hpass

theorem finish (h : Mirrors related offset left right)
    (hpass : Parallel related left.issued offset pass twin) {turns : List (Turn Host)}
    {others : List (Turn Other)}
    (hturns : List.Forall₂ (SameTurn related left.issued offset) turns others) :
    Parallel related left.issued offset (left.finish turns pass).1 (right.finish others twin).1 ∧
      (right.finish others twin).2 = (left.finish turns pass).2 := by
  obtain ⟨hslept, hdone⟩ := h.sleep (h.collected hpass) hturns
  refine ⟨hslept, ?_⟩
  simp only [Engine.finish, hdone, passState, hslept.state_eq, hslept.dropped_eq]

theorem passWith (h : Mirrors related offset left right) {turns : List (Turn Host)}
    {others : List (Turn Other)}
    (hturns : List.Forall₂ (SameTurn related left.issued offset) turns others) {host : Host}
    {other : Other} (hhost : related host other) :
    Parallel related left.issued offset (left.passWith turns host).1
        (right.passWith others other).1 ∧
      (right.passWith others other).2 = (left.passWith turns host).2 := by
  obtain ⟨hwalked, hstop⟩ := h.walk (h.begin_parallel hhost) 0 h.instances
  unfold Engine.passWith
  generalize left.walk 0 left.rules.instances (left.begin host) = walk at hwalked hstop
  generalize right.walk 0 right.rules.instances (right.begin other) = walk' at hwalked hstop
  obtain ⟨pass, stop⟩ := walk
  obtain ⟨twin, stop'⟩ := walk'
  obtain rfl : stop' = stop := hstop
  cases stop' with
  | some fault => exact ⟨hwalked, rfl⟩
  | none => exact h.finish hwalked hturns

/-- The next passes of two engines whose hosts do the same run alike.  Only the tickets differ, by
the same offset throughout. -/
theorem exec (h : Mirrors related offset left right) {turns : List (Turn Host)}
    {others : List (Turn Other)}
    (hturns : List.Forall₂ (SameTurn related left.issued offset) turns others) {host : Host}
    {other : Other} (hhost : related host other) :
    let report := left.exec turns host
    let like := right.exec others other
    like.ending = report.ending ∧ like.journal = report.journal.shift offset ∧
      related report.host like.host ∧ like.engine.errors = report.engine.errors ∧
      like.engine.state = report.engine.state ∧
      like.engine.issued = report.engine.issued + offset := by
  obtain ⟨hpass, hending⟩ := h.passWith hturns hhost
  exact ⟨hending, hpass.journal_eq, hpass.host, hpass.errors_eq, hpass.state_eq, hpass.issued_eq⟩

end Mirrors

end Engine

end FormRules
