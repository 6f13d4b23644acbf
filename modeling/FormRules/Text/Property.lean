/-
Character properties by name.
-/
import FormRules.Text.Age
import FormRules.Text.Boundary

namespace FormRules.Text

/-- A name without case, blanks, dashes and underscores, and without a leading `is`. -/
def plainName (name : List Char) : String :=
  let body := match name with
    | i :: s :: rest => if i.toLower = 'i' ∧ s.toLower = 's' then rest else name
    | _ => name
  let kept := body.filter fun c =>
    c != ' ' && c != '-' && c != '_' && decide (c.toNat < 0x80)
  let lower := kept.map Char.toLower
  -- the category of controls and the like keeps its one-letter name
  String.ofList (if lower = ['c'] ∧ body ≠ name then 'i' :: 's' :: lower else lower)

/-- A property given by a single name: a trait, a category or a script. -/
def namedProperty? (name : String) : Option CharSet :=
  (trait? name).or ((category? name).or (script? name))

/-- A property given by its name and its value. -/
def valuedProperty? (property value : String) : Option CharSet :=
  match property with
  | "gc" | "generalcategory" => category? value
  | "sc" | "script" => script? value
  | "scx" | "scriptextensions" => scriptExtension? value
  | "age" => age? value
  | "gcb" | "graphemeclusterbreak" => graphemePart? value
  | "wb" | "wordbreak" => wordPart? value
  | "sb" | "sentencebreak" => sentencePart? value
  | _ => none

/-- Splits a text around the first occurrence of a mark. -/
def splitAround (mark : List Char) : List Char → Option (List Char × List Char)
  | [] => none
  | c :: rest =>
      if mark.isPrefixOf (c :: rest) then some ([], (c :: rest).drop mark.length)
      else (splitAround mark rest).map fun (before, after) => (c :: before, after)

/-- The set of a property as written in a pattern, and whether its complement is meant. -/
def property? (text : List Char) : Option (CharSet × Bool) :=
  match splitAround ['!', '='] text with
  | some (property, value) =>
      (valuedProperty? (plainName property) (plainName value)).map (·, true)
  | none =>
      match (splitAround [':'] text).or (splitAround ['='] text) with
      | some (property, value) =>
          (valuedProperty? (plainName property) (plainName value)).map (·, false)
      | none => (namedProperty? (plainName text)).map (·, false)

end FormRules.Text
