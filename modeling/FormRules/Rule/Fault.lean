/-
Faults of a rule set.

A field that fails its rule is no fault.  A fault means that a rule has been set up wrongly, and it
ends the pass in which it is found.
-/
import FormRules.Pattern

namespace FormRules

/-- What is wrong with an argument. -/
inductive ArgumentProblem where
  /-- Neither a list nor a text; shown is its text. -/
  | notListOrText (shown : String)
  /-- Neither a pattern nor the source of one; shown is its text. -/
  | notPattern (shown : String)
  | refusedSource (refusal : Pattern.Refusal)
deriving DecidableEq, Repr

/-- Why a rule cannot be applied. -/
inductive Fault where
  | unknownRule (name : String)
  /-- A required argument is missing; positions count from one. -/
  | missingArgument (rule : String) (position : Nat)
  | invalidArgument (rule : String) (problem : ArgumentProblem)
deriving DecidableEq, Repr

def ArgumentProblem.message : ArgumentProblem → String
  | notListOrText shown => "expected a list or a string, got `" ++ shown ++ "`"
  | notPattern shown => "expected a pattern, got `" ++ shown ++ "`"
  | refusedSource refusal => refusal.message

/-- The explanation of a fault. -/
def Fault.message : Fault → String
  | unknownRule name => "Unknown validation rule \"" ++ name ++ "\""
  | missingArgument rule position =>
      "Missing argument " ++ toString position ++ " for \"" ++ rule ++ "\" rule"
  | invalidArgument rule problem =>
      "Argument for \"" ++ rule ++ "\" rule is invalid: " ++ problem.message

end FormRules
