/-
Rules on the characters of a text.
-/
import FormRules.Address.Mailbox
import FormRules.Address.Web
import FormRules.Json.Reader
import FormRules.Rule.Registry

namespace FormRules.Rule

open Text

/-- A text of at least one character, all of one class. -/
def isMadeOf (holds : Char → Bool) (text : List Char) : Bool := !text.isEmpty && text.all holds

/-- Only ASCII letters, at least one. -/
def alpha : Rule :=
  onText "alpha" "Only letters allowed (a-z)" (isMadeOf Char.isAlpha)

/-- ASCII letters, digits, dashes and underscores, at least one. -/
def alphaDash : Rule :=
  onText "alphadash" "Only letters a-z, digits 0-9, dashes and underscores allowed"
    (isMadeOf fun c => c.isAlphanum || c == '_' || c == '-')

/-- ASCII letters and digits, at least one. -/
def alphaNumeric : Rule :=
  onText "alphanumeric" "Only letters and numbers allowed (a-z, 0-9)" (isMadeOf Char.isAlphanum)

/-- The pattern of a source text given to a rule. -/
def compileFor (rule source : String) : Except Fault Pattern :=
  match Pattern.compile source with
  | .ok pattern => .ok pattern
  | .error refusal => .error (.invalidArgument rule (.refusedSource refusal))

/-- A parameter as a pattern to search for: any but a pattern is read by its text. -/
def searchPattern (rule : String) (param : Param) : Except Fault Pattern :=
  match param with
  | .pattern pattern => .ok pattern
  | _ => compileFor rule param.toText

/-- The pattern in parameter 1 is found in the text. -/
def contains : Rule :=
  configured "contains" "Must contain \"%s\"" fun params => do
    let pattern ← searchPattern "contains" (← argument "contains" params 0)
    pure fun context => context.holdsText pattern.expr.occursIn

/-- The pattern in parameter 1 is not found in the text. -/
def notContains : Rule :=
  configured "notcontains" "May not contain \"%s\"" fun params => do
    let pattern ← searchPattern "notcontains" (← argument "notcontains" params 0)
    pure fun context => context.holdsText fun text => !pattern.expr.occursIn text

/-- A parameter that is a pattern or the source of one. -/
def patternOrSource (rule : String) (param : Param) : Except Fault Pattern :=
  match param with
  | .pattern pattern => .ok pattern
  | .text source => compileFor rule source
  | _ => .error (.invalidArgument rule (.notPattern param.toText))

/-- The pattern in parameter 1, or the one with that source, is found in the text. -/
def regex : Rule :=
  configured "regex" "Invalid value" fun params => do
    let pattern ← patternOrSource "regex" (← argument "regex" params 0)
    pure fun context => context.holdsText pattern.expr.occursIn

/-- A mailbox address. -/
def email : Rule :=
  onText "email" "Should be a valid email address" Address.isMailbox

/-- A web address of a public host. -/
def url : Rule :=
  onText "url" "No valid URL" Address.isWebAddress

/-- A JSON text.  Values that are no texts have been read from one and pass. -/
def json : Rule :=
  plain "json" "Invalid JSON string" fun context =>
    match context.givenValue with
    | some (.text s) => (Json.read? s.toList).isSome
    | some _ => true
    | none => false

end FormRules.Rule
