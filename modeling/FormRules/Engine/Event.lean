/-
The life of an engine: events, states, and how a pass ends.
-/
import FormRules.Rule.Fault

namespace FormRules

/-- Points in the life of a pass that may be listened to. -/
inductive Event where
  /-- A pass begins, before any rule runs. -/
  | started
  /-- Every rule instance has reported. -/
  | ended
  /-- Comes after the end when no rule failed. -/
  | passes
  /-- Comes after the end when a rule failed. -/
  | fails
deriving DecidableEq, Repr

namespace Event

/-- The name of an event. -/
def name : Event → String
  | started => "start"
  | ended => "end"
  | passes => "passes"
  | fails => "fails"

def all : List Event := [started, ended, passes, fails]

/-- The event of a name. -/
def ofName? (name : String) : Option Event := all.find? fun event => event.name == name

/-- The explanation for a name that is no event's. -/
def unknownMessage (name : String) : String :=
  "unknown event \"" ++ name ++ "\", expected start, end, passes or fails"

theorem ofName?_name (event : Event) : ofName? event.name = some event := by
  cases event <;> decide

end Event

/-- How a completed pass ended. -/
inductive Conclusion where
  | passed
  | failed
deriving DecidableEq, Repr

/-- The event that announces a conclusion. -/
def Conclusion.event : Conclusion → Event
  | passed => .passes
  | failed => .fails

/-- Where an engine is in its life. -/
inductive EngineState where
  /-- No pass has run, or the last one ended with a fault. -/
  | idle
  /-- A pass has begun and not every instance has reported. -/
  | running
  | completed (conclusion : Conclusion)
deriving DecidableEq, Repr

/-- What a pass that came to its end reports. -/
inductive PassState where
  | passed
  | failed
  /-- So many custom rules gave their verdict up without an answer. -/
  | incomplete (pending : Nat)
deriving DecidableEq, Repr

namespace PassState

def ofConclusion : Conclusion → PassState
  | .passed => passed
  | .failed => failed

def isPassed (state : PassState) : Bool := state == passed

def isComplete : PassState → Bool
  | incomplete _ => false
  | _ => true

end PassState

/-- How a pass ended. -/
inductive Ending where
  | returned (state : PassState)
  | faulted (fault : Fault)
  /-- The pass was given up while verdicts were still awaited. -/
  | abandoned
deriving DecidableEq, Repr

end FormRules
