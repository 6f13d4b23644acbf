/-
The journal of a pass.

A journal tells in order all that happened in a pass: the events, the decisions of registered
rules, the calls of custom rules, the conclusions that the host gave to verdicts, those that the
pass has taken over, and the recorded failures.
-/
import FormRules.Engine.Custom
import FormRules.Engine.Event

namespace FormRules

/-- What happened in a pass. -/
inductive Entry where
  | fired (event : Event)
  /-- A registered rule decided the instance at an index. -/
  | checked (index : Nat)
  /-- A custom rule was called for the instance at an index. -/
  | called (index : Nat) (input : CustomInput) (ticket : Ticket)
  /-- The host concluded the verdict of a ticket. -/
  | heard (ticket : Ticket) (reply : Reply)
  /-- The pass took over the conclusion of the verdict of the instance at an index. -/
  | taken (index : Nat) (reply : Reply)
  /-- A failure was recorded. -/
  | recorded (field message : String)

abbrev Journal := List Entry

namespace Journal

/-- The events that were announced. -/
def events (journal : Journal) : List Event :=
  journal.filterMap fun
    | .fired event => some event
    | _ => none

/-- The instances that registered rules decided. -/
def checks (journal : Journal) : List Nat :=
  journal.filterMap fun
    | .checked index => some index
    | _ => none

/-- The instances whose custom rule was called, with the tickets of their verdicts. -/
def calls (journal : Journal) : List (Nat × Ticket) :=
  journal.filterMap fun
    | .called index _ ticket => some (index, ticket)
    | _ => none

/-- The replies of the host that counted. -/
def replies (journal : Journal) : Replies :=
  journal.filterMap fun
    | .heard ticket reply => some (ticket, reply)
    | _ => none

/-- The conclusions that the pass has taken over, by instance. -/
def takings (journal : Journal) : List (Nat × Reply) :=
  journal.filterMap fun
    | .taken index reply => some (index, reply)
    | _ => none

/-- The recorded failures, by field. -/
def records (journal : Journal) : List (String × String) :=
  journal.filterMap fun
    | .recorded field message => some (field, message)
    | _ => none

/-- The journal of some replies of the host. -/
def ofReplies (replies : Replies) : Journal :=
  replies.map fun entry => .heard entry.1 entry.2

/-- The journal of some recorded failures. -/
def ofRecords (records : List (String × String)) : Journal :=
  records.map fun entry => .recorded entry.1 entry.2

variable (entry : Entry) (first second : Journal)

@[simp] theorem events_nil : events [] = [] := rfl

@[simp] theorem events_cons : events (entry :: second) =
    (match entry with | .fired event => [event] | _ => []) ++ events second := by
  cases entry <;> rfl

@[simp] theorem events_append : events (first ++ second) = events first ++ events second :=
  List.filterMap_append

@[simp] theorem checks_nil : checks [] = [] := rfl

@[simp] theorem checks_cons : checks (entry :: second) =
    (match entry with | .checked index => [index] | _ => []) ++ checks second := by
  cases entry <;> rfl

@[simp] theorem checks_append : checks (first ++ second) = checks first ++ checks second :=
  List.filterMap_append

@[simp] theorem calls_nil : calls [] = [] := rfl

@[simp] theorem calls_cons : calls (entry :: second) =
    (match entry with | .called index _ ticket => [(index, ticket)] | _ => []) ++ calls second := by
  cases entry <;> rfl

@[simp] theorem calls_append : calls (first ++ second) = calls first ++ calls second :=
  List.filterMap_append

@[simp] theorem replies_nil : replies [] = [] := rfl

@[simp] theorem replies_cons : replies (entry :: second) =
    (match entry with | .heard ticket reply => [(ticket, reply)] | _ => []) ++ replies second := by
  cases entry <;> rfl

@[simp] theorem replies_append : replies (first ++ second) = replies first ++ replies second :=
  List.filterMap_append

@[simp] theorem takings_nil : takings [] = [] := rfl

@[simp] theorem takings_cons : takings (entry :: second) =
    (match entry with | .taken index reply => [(index, reply)] | _ => []) ++ takings second := by
  cases entry <;> rfl

@[simp] theorem takings_append : takings (first ++ second) = takings first ++ takings second :=
  List.filterMap_append

@[simp] theorem records_nil : records [] = [] := rfl

@[simp] theorem records_cons : records (entry :: second) =
    (match entry with | .recorded field message => [(field, message)] | _ => []) ++
      records second := by
  cases entry <;> rfl

@[simp] theorem records_append : records (first ++ second) = records first ++ records second :=
  List.filterMap_append

/-- Replies show in a journal as replies only. -/
@[simp] theorem views_ofReplies (given : Replies) :
    replies (ofReplies given) = given ∧ events (ofReplies given) = [] ∧
      checks (ofReplies given) = [] ∧ calls (ofReplies given) = [] ∧
      takings (ofReplies given) = [] ∧ records (ofReplies given) = [] := by
  induction given with
  | nil => simp [ofReplies]
  | cons entry rest ih =>
      simp only [ofReplies] at ih
      simp [ofReplies, ih]

/-- Recorded failures show in a journal as failures only. -/
@[simp] theorem views_ofRecords (failures : List (String × String)) :
    records (ofRecords failures) = failures ∧ events (ofRecords failures) = [] ∧
      checks (ofRecords failures) = [] ∧ calls (ofRecords failures) = [] ∧
      replies (ofRecords failures) = [] ∧ takings (ofRecords failures) = [] := by
  induction failures with
  | nil => simp [ofRecords]
  | cons entry rest ih =>
      simp only [ofRecords] at ih
      simp [ofRecords, ih]

theorem mem_events_iff (journal : Journal) (event : Event) :
    event ∈ journal.events ↔ .fired event ∈ journal := by
  induction journal with
  | nil => simp
  | cons entry rest ih => cases entry <;> simp [ih]

theorem mem_checks_iff (journal : Journal) (index : Nat) :
    index ∈ journal.checks ↔ .checked index ∈ journal := by
  induction journal with
  | nil => simp
  | cons entry rest ih => cases entry <;> simp [ih]

theorem mem_takings_iff (journal : Journal) (index : Nat) (reply : Reply) :
    (index, reply) ∈ journal.takings ↔ .taken index reply ∈ journal := by
  induction journal with
  | nil => simp
  | cons entry rest ih => cases entry <;> simp [ih]

end Journal

end FormRules
