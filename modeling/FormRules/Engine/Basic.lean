/-
Engines.

An engine holds the rule set of one form, the listeners of its events, and the outcome of the last
pass.  The state of the host program, which holds the form's data, is kept outside; the engine only
knows how to look at it.
-/
import FormRules.Engine.Event
import FormRules.Engine.RuleSet
import FormRules.Engine.View
import FormRules.ErrorStore
import FormRules.Rule.Catalog
import FormRules.Settings

namespace FormRules

/-- A validation engine for a form of a host program. -/
structure Engine (Host : Type) where
  settings : Settings
  registry : Registry
  /-- The source of field values in a state of the host. -/
  source : Host → Source
  rules : RuleSet Host
  /-- The listener of an event. -/
  listener : Event → Option (Turn Host)
  errors : ErrorStore
  state : EngineState
  /-- How many tickets have been given out, over all passes. -/
  issued : Nat

namespace Engine

variable {Host : Type}

/-- An engine without rules that has not run. -/
def new (source : Host → Source) (settings : Settings) (registry : Registry) : Engine Host :=
  ⟨settings, registry, source, .empty, fun _ => none, .empty, .idle, 0⟩

/-- Changes the rule set. -/
def edit (engine : Engine Host) (edit : Edit Host) : Engine Host :=
  { engine with rules := engine.rules.apply engine.registry edit }

/-- Sets the listener of an event in place of the one before. -/
def on (engine : Engine Host) (event : Event) (listener : Turn Host) : Engine Host :=
  { engine with
    listener := fun other => if other = event then some listener else engine.listener other }

/-- The fields of the form in a state of the host. -/
def view (engine : Engine Host) (host : Host) : FieldView :=
  ⟨engine.source host, engine.rules.combined, engine.settings.scope⟩

/-- The current value of a field as rules see it. -/
def value (engine : Engine Host) (host : Host) (field : String) : Option Value :=
  (engine.view host).value field

/-- The failure message of a field in the last pass. -/
def message? (engine : Engine Host) (field : String) : Option String :=
  engine.errors.message? field

end Engine

end FormRules
