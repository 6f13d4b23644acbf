/-
One pass over a rule set.

The instances are walked in order.  Registered rules decide at once.  A custom rule may reply to
its verdict during the call; otherwise its verdict is awaited.  After the walk the replies that
have come in meanwhile are collected in the order of the instances.  Then the pass sleeps until the
host takes a turn, and collects the replies of each turn in the order given.  The terminal events
come once every instance has reported; a verdict that was given up never reports.
-/
import FormRules.Engine.Basic
import FormRules.Engine.Journal

namespace FormRules

/-- A pass under way. -/
structure Pass (Host : Type) where
  host : Host
  errors : ErrorStore
  state : EngineState
  /-- The first ticket of this pass; earlier ones belong to passes that are over. -/
  firstTicket : Ticket
  issued : Nat
  /-- How many instances have reported, and how many have given their verdict up. -/
  reported : Nat
  dropped : Nat
  /-- The custom instances whose verdict is awaited with their tickets, in the order of the rule
  set. -/
  awaited : List (Nat × Ticket)
  journal : Journal

namespace Pass

variable {Host : Type}

def note (pass : Pass Host) (entry : Entry) : Pass Host :=
  { pass with journal := pass.journal ++ [entry] }

/-- Every reply to a ticket of this pass, the first for each ticket. -/
def heard (pass : Pass Host) : Replies := pass.journal.replies

/-- The reply to a ticket. -/
def reply? (pass : Pass Host) (ticket : Ticket) : Option Reply :=
  (pass.heard.find? fun entry => entry.1 == ticket).map Prod.snd

/-- Whether a reply to a ticket counts: the ticket has been given out in this pass, and nothing has
been replied to it. -/
def isOpen (pass : Pass Host) (ticket : Ticket) : Bool :=
  decide (pass.firstTicket ≤ ticket ∧ ticket < pass.issued) && (pass.reply? ticket).isNone

/-- Takes in one reply if it counts. -/
def hear (pass : Pass Host) (ticket : Ticket) (reply : Reply) : Pass Host :=
  if pass.isOpen ticket then pass.note (.heard ticket reply) else pass

/-- Takes in replies in the order given. -/
def hearAll (pass : Pass Host) (replies : Replies) : Pass Host :=
  replies.foldl (fun pass entry => pass.hear entry.1 entry.2) pass

/-- Lets the host take a turn, and takes in the replies. -/
def takeTurn (pass : Pass Host) (turn : Turn Host) : Pass Host :=
  let (host, replies) := turn pass.host
  { pass with host := host }.hearAll replies

end Pass

namespace Engine

variable {Host : Type}

/-- Announces an event to its listener. -/
def fire (engine : Engine Host) (event : Event) (pass : Pass Host) : Pass Host :=
  let pass := pass.note (.fired event)
  match engine.listener event with
  | some listener => pass.takeTurn listener
  | none => pass

/-- Records failures under fields of the form. -/
def recordAll (engine : Engine Host) (failures : List (String × String)) (pass : Pass Host) :
    Pass Host :=
  { pass with
    errors := pass.errors.recordAll engine.settings.scope failures
    journal := pass.journal ++ Journal.ofRecords failures }

/-- The conclusion that the recorded failures lead to. -/
def conclusionOf (errors : ErrorStore) : Conclusion :=
  if errors.isEmpty then .passed else .failed

/-- Ends the pass once every instance has reported: the state is settled, and the terminal events
are announced. -/
def concludeIfDone (engine : Engine Host) (pass : Pass Host) : Pass Host :=
  if pass.reported = engine.rules.size then
    let conclusion := conclusionOf pass.errors
    engine.fire conclusion.event
      (engine.fire .ended { pass with state := .completed conclusion })
  else pass

/-- Counts a report. -/
def report (engine : Engine Host) (pass : Pass Host) : Pass Host :=
  engine.concludeIfDone { pass with reported := pass.reported + 1 }

/-- The failures that the conclusion of the verdict at an index leads to.  A failing custom rule
marks the field itself only, with the instance's message as it stands. -/
def verdictFailures (engine : Engine Host) (index : Nat) (reply : Reply) :
    List (String × String) :=
  match reply, engine.rules.instances[index]? with
  | .answered .fail, some inst => [(inst.field, inst.message.getD "")]
  | _, _ => []

/-- Takes over the conclusion of the verdict of the custom rule at an index. -/
def conclude (engine : Engine Host) (index : Nat) (reply : Reply) (pass : Pass Host) : Pass Host :=
  let settled := engine.recordAll (engine.verdictFailures index reply)
    (pass.note (.taken index reply))
  match reply with
  | .answered _ => engine.report settled
  | .dropped => { settled with dropped := settled.dropped + 1 }

/-- The fields that a failure on a field marks: the field, and the sources of the combined field of
that name. -/
def markedFields (engine : Engine Host) (field : String) : List String :=
  field :: match Combined.find? engine.rules.combined field with
    | some combined => combined.sources
    | none => []

/-- Whether an instance is left out, because its field is optional and has been left empty. -/
def isSkipped (engine : Engine Host) (field : String) (value : Option Value) : Bool :=
  engine.rules.required? field == some false && isBlankValue value

/-- The context in which a registered rule decides an instance. -/
def contextOf (engine : Engine Host) (host : Host) (inst : RuleInstance Host)
    (params : List Param) : Context :=
  ⟨inst.field, engine.settings.scope, params, inst.message, engine.value host inst.field,
    (engine.view host).toSurroundings⟩

/-- The message of a failing registered rule. -/
def failureMessage (inst : RuleInstance Host) (rule : Rule) (params : List Param) : String :=
  Template.fill (inst.message.getD rule.message) (params.map Param.toText)

/-- The failures that a failing registered rule leads to, on the field and on all that it marks. -/
def ruleFailures (engine : Engine Host) (inst : RuleInstance Host) (rule : Rule)
    (params : List Param) : List (String × String) :=
  (engine.markedFields inst.field).map fun field => (field, failureMessage inst rule params)

/-- Decides an instance of a registered rule: whether it passes, with the rule to blame if it does
not. -/
def decideInstance (engine : Engine Host) (host : Host) (inst : RuleInstance Host)
    (name : String) (params : List Param) : Except Fault (Bool × Rule) := do
  let rule ← engine.registry.lookup name
  if engine.isSkipped inst.field (engine.value host inst.field) then pure (true, rule)
  else
    let passed ← rule.check (engine.contextOf host inst params)
    pure (passed, rule)

/-- The turn of an instance of a registered rule. -/
def runRegistered (engine : Engine Host) (index : Nat) (inst : RuleInstance Host)
    (name : String) (params : List Param) (pass : Pass Host) : Except Fault (Pass Host) := do
  let (passed, rule) ← engine.decideInstance pass.host inst name params
  let failures := if passed then [] else engine.ruleFailures inst rule params
  pure (engine.report (engine.recordAll failures (pass.note (.checked index))))

/-- What a custom rule is called with. -/
def customInput (engine : Engine Host) (host : Host) (field : String) : CustomInput :=
  ⟨field, engine.settings.scope, engine.value host field,
    (engine.source host).handle field engine.settings.scope⟩

/-- The call of a custom rule on a field, which gives out the next ticket. -/
def call (engine : Engine Host) (index : Nat) (field : String) (rule : CustomRule Host)
    (pass : Pass Host) : Pass Host :=
  let ticket := pass.issued
  let input := engine.customInput pass.host field
  ({ pass with issued := ticket + 1 }.note (.called index input ticket)).takeTurn
    (rule input ticket)

/-- Takes over the conclusion of a verdict after the call.  A verdict without a reply is awaited. -/
def settle (engine : Engine Host) (index : Nat) (ticket : Ticket) (called : Pass Host) :
    Pass Host :=
  match called.reply? ticket with
  | some reply => engine.conclude index reply called
  | none => { called with awaited := called.awaited ++ [(index, ticket)] }

/-- The turn of an instance of a custom rule. -/
def runCustom (engine : Engine Host) (index : Nat) (inst : RuleInstance Host)
    (rule : CustomRule Host) (pass : Pass Host) : Pass Host :=
  engine.settle index pass.issued (engine.call index inst.field rule pass)

/-- The turn of one instance. -/
def run (engine : Engine Host) (index : Nat) (inst : RuleInstance Host) (pass : Pass Host) :
    Except Fault (Pass Host) :=
  match inst.task with
  | .registered name params => engine.runRegistered index inst name params pass
  | .custom rule => .ok (engine.runCustom index inst rule pass)

/-- Walks instances in order from an index on.  A fault ends the walk and leaves the engine idle. -/
def walk (engine : Engine Host) : Nat → List (RuleInstance Host) → Pass Host →
    Pass Host × Option Fault
  | _, [], pass => (pass, none)
  | index, inst :: rest, pass =>
      match engine.run index inst pass with
      | .ok next => engine.walk (index + 1) rest next
      | .error fault => ({ pass with state := .idle }, some fault)

/-- Collects the reply to an awaited verdict, if it has one. -/
def collect (engine : Engine Host) (ticket : Ticket) (pass : Pass Host) : Pass Host :=
  match pass.awaited.find? fun entry => entry.2 == ticket, pass.reply? ticket with
  | some (index, _), some reply =>
      engine.conclude index reply
        { pass with awaited := pass.awaited.filter fun entry => entry.2 != ticket }
  | _, _ => pass

def collectAll (engine : Engine Host) (tickets : List Ticket) (pass : Pass Host) : Pass Host :=
  tickets.foldl (fun pass ticket => engine.collect ticket pass) pass

/-- Takes a turn of the host while the pass sleeps, and collects the replies that it brings. -/
def wake (engine : Engine Host) (turn : Turn Host) (pass : Pass Host) : Pass Host :=
  let woken := pass.takeTurn turn
  engine.collectAll ((woken.heard.drop pass.heard.length).map Prod.fst) woken

/-- Sleeps until no verdict is awaited any more, with a turn of the host at each sleep.  Tells
whether the turns were enough. -/
def sleep (engine : Engine Host) : List (Turn Host) → Pass Host → Pass Host × Bool
  | [], pass => (pass, pass.awaited.isEmpty)
  | turn :: turns, pass =>
      if pass.awaited.isEmpty then (pass, true) else engine.sleep turns (engine.wake turn pass)

/-- The beginning of a pass: earlier failures are forgotten, and the start is announced. -/
def begin (engine : Engine Host) (host : Host) : Pass Host :=
  engine.fire .started ⟨host, .empty, .running, engine.issued, engine.issued, 0, 0, [], []⟩

/-- What a pass reports that is not waiting any more. -/
def passState (pass : Pass Host) : PassState :=
  match pass.state with
  | .completed conclusion => .ofConclusion conclusion
  | _ => .incomplete pass.dropped

/-- Collects what can be collected after a walk without a fault.  Without instances the pass is
done at once. -/
def collected (engine : Engine Host) (walked : Pass Host) : Pass Host :=
  let walked := if engine.rules.size = 0 then engine.concludeIfDone walked else walked
  engine.collectAll (walked.awaited.map Prod.snd) walked

/-- Ends a pass after a walk without a fault. -/
def finish (engine : Engine Host) (turns : List (Turn Host)) (walked : Pass Host) :
    Pass Host × Ending :=
  let (pass, done) := engine.sleep turns (engine.collected walked)
  (pass, if done then .returned (passState pass) else .abandoned)

/-- A pass from beginning to end. -/
def passWith (engine : Engine Host) (turns : List (Turn Host)) (host : Host) :
    Pass Host × Ending :=
  match engine.walk 0 engine.rules.instances (engine.begin host) with
  | (pass, some fault) => (pass, .faulted fault)
  | (pass, none) => engine.finish turns pass

/-- What a pass leaves behind. -/
structure Report (Host : Type) where
  engine : Engine Host
  host : Host
  ending : Ending
  journal : Journal

/-- Runs one pass.  The host takes one of the given turns each time the pass sleeps; when no turn
is left the pass is abandoned. -/
def exec (engine : Engine Host) (turns : List (Turn Host)) (host : Host) : Report Host :=
  let (pass, ending) := engine.passWith turns host
  ⟨{ engine with errors := pass.errors, state := pass.state, issued := pass.issued },
    pass.host, ending, pass.journal⟩

end Engine

end FormRules
