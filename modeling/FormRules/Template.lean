/-
Message templates.

A template is a text with placeholders `%s`.  Filling it replaces placeholders by texts from left
to right; text put in is not looked at again.
-/
namespace FormRules.Template

/-- Replaces each placeholder by the next argument.  Placeholders beyond the arguments stay, and
arguments beyond the placeholders are left out. -/
def fillChars : List Char → List (List Char) → List Char
  | [], _ => []
  | '%' :: 's' :: rest, argument :: arguments => argument ++ fillChars rest arguments
  | c :: rest, arguments => c :: fillChars rest arguments

/-- The text of a template with its placeholders filled. -/
def fill (template : String) (arguments : List String) : String :=
  String.ofList (fillChars template.toList (arguments.map String.toList))

/-- Without arguments a template is its own text. -/
theorem fillChars_nil (template : List Char) : fillChars template [] = template := by
  induction template with
  | nil => simp [fillChars]
  | cons c rest ih =>
      cases rest with
      | nil => simp [fillChars]
      | cons d rest => simp [fillChars, ih]

end FormRules.Template
