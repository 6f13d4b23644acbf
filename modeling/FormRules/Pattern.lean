/-
Search patterns: a source text with the expression it denotes.
-/
import FormRules.Pattern.Footprint
import FormRules.Pattern.Search
import FormRules.Pattern.Syntax

namespace FormRules

/-- A pattern that can be searched for. -/
structure Pattern where
  source : String
  expr : Pattern.Expr

namespace Pattern

/-- Why a source is not a pattern. -/
inductive Refusal where
  | malformed
  | tooLarge
deriving DecidableEq, Repr

/-- The explanation for a refused source.  For a malformed one it is only the heading. -/
def Refusal.message : Refusal → String
  | malformed => "regex parse error:"
  | tooLarge =>
      "Compiled regex exceeds size limit of " ++ toString Footprint.Tally.limit ++ " bytes."

/-- The pattern of a source text. -/
def compile (source : String) : Except Refusal Pattern :=
  match parse? source.toList with
  | some expr => if expr.fitsLimit then .ok ⟨source, expr⟩ else .error .tooLarge
  | none => .error .malformed

end Pattern

end FormRules
