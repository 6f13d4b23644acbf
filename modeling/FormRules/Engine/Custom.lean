/-
Custom rules and their verdicts.

A custom rule is a piece of the host program.  It is called with the field's input and a ticket
for its verdict, may change the state of the host, and may reply to tickets: to its own at once,
or to earlier ones.  Listeners, and the turns that the host takes while a pass sleeps, may do the
same.
-/
import FormRules.Value

namespace FormRules

/-- What a custom rule decides. -/
inductive Outcome where
  | pass
  | fail
deriving DecidableEq, Repr

/-- The number of a verdict; tickets are given out in order and never twice. -/
abbrev Ticket := Nat

/-- How a verdict is concluded: by an answer, or by giving it up. -/
inductive Reply where
  | answered (outcome : Outcome)
  | dropped
deriving DecidableEq, Repr

/-- Replies to tickets in the order in which they were given. -/
abbrev Replies := List (Ticket × Reply)

/-- A turn of the host program: it changes the host's state and may give replies. -/
abbrev Turn (Host : Type) := Host → Host × Replies

/-- What a custom rule gets to look at. -/
structure CustomInput where
  /-- The name of the field without its scope. -/
  field : String
  scope : Option String
  value : Option Value
  /-- The handle of the form element, if the source has one. -/
  handle : Option String

/-- The text of the input's value, if it is a text. -/
def CustomInput.text? (input : CustomInput) : Option String := textOf input.value

/-- A custom rule. -/
abbrev CustomRule (Host : Type) := CustomInput → Ticket → Turn Host

end FormRules
