/-
Settings of an engine, and their JSON text.
-/
import FormRules.Field.Qualified
import FormRules.Json.Printer
import FormRules.Json.Tree

namespace FormRules

/-- What is settled when an engine is made. -/
structure Settings where
  /-- The scope that wraps the names of all fields. -/
  scope : Option String := none
deriving DecidableEq, Repr

namespace Settings

/-- The JSON text of settings. -/
def print (settings : Settings) : String :=
  let scope := match settings.scope with
    | some scope => Json.quote scope
    | none => "null"
  "\x7b" ++ Json.quote "prefix" ++ ":" ++ scope ++ "\x7d"

/-- The scope named by a JSON value: a text, or null for none. -/
def scopeOf? : Json.Tree → Option (Option String)
  | .null => some none
  | .text (some scope) => some (some scope)
  | _ => none

/-- Settings from the members of a record.  Unknown members count for nothing, whatever they hold,
but every name has to be a proper text and the scope may be given once only. -/
def ofMembers? (members : List (Option String × Json.Tree)) : Option Settings :=
  if members.any fun member => member.1.isNone then none
  else
    match members.filter fun member => member.1 == some "prefix" with
    | [] => some {}
    | [(_, tree)] => (scopeOf? tree).map fun scope => ⟨scope⟩
    | _ => none

/-- Settings from the tree of a JSON text: a record, or a list of at most one item, the scope. -/
def ofTree? : Json.Tree → Option Settings
  | .record members => ofMembers? members
  | .list [] => some {}
  | .list [tree] => (scopeOf? tree).map fun scope => ⟨scope⟩
  | _ => none

/-- Settings from a JSON text. -/
def read? (text : String) : Option Settings :=
  (Json.Tree.parse? text.toList).bind ofTree?

end Settings

end FormRules
