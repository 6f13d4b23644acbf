/-
The tree of a JSON text, before its texts and numbers are given a value.

Tokens are read one by one; what is still open is kept on a stack, so that the depth of a text is
not limited here.
-/
import FormRules.Json.Token

namespace FormRules.Json

/-- A JSON text by its structure: members in the order written, repeated names kept. -/
inductive Tree where
  | null
  | flag (b : Bool)
  | number (n : NumberText)
  | text (content : Option String)
  | list (items : List Tree)
  | record (members : List (Option String × Tree))

namespace Tree

/-- A list or record whose end has not been read, with what it holds so far in reverse. -/
inductive Open where
  | list (items : List Tree)
  | record (members : List (Option String × Tree))
  /-- A record of which a name has been read but not yet its value. -/
  | named (members : List (Option String × Tree)) (name : Option String)

/-- What may come next. -/
inductive Expected where
  | value
  | valueOrClose
  | name
  | nameOrClose
  | colon
  | separator
  | finished (tree : Tree)

structure Building where
  stack : List Open
  expected : Expected

namespace Building

/-- Puts a complete tree where it belongs. -/
def complete (stack : List Open) (tree : Tree) : Option Building :=
  match stack with
  | [] => some ⟨[], .finished tree⟩
  | .list items :: outer => some ⟨.list (tree :: items) :: outer, .separator⟩
  | .named members name :: outer => some ⟨.record ((name, tree) :: members) :: outer, .separator⟩
  | .record _ :: _ => none

/-- Closes the innermost list or record. -/
def close (stack : List Open) (token : Token) : Option Building :=
  match stack, token with
  | .list items :: outer, .closeList => complete outer (.list items.reverse)
  | .record members :: outer, .closeRecord => complete outer (.record members.reverse)
  | _, _ => none

/-- Reads a token where a value is expected. -/
def startValue (stack : List Open) : Token → Option Building
  | .null => complete stack .null
  | .flag b => complete stack (.flag b)
  | .number n => complete stack (.number n)
  | .text content => complete stack (.text content)
  | .openList => some ⟨.list [] :: stack, .valueOrClose⟩
  | .openRecord => some ⟨.record [] :: stack, .nameOrClose⟩
  | _ => none

/-- Reads a token where the name of a member is expected. -/
def startMember (stack : List Open) : Token → Option Building
  | .text name =>
      match stack with
      | .record members :: outer => some ⟨.named members name :: outer, .colon⟩
      | _ => none
  | _ => none

/-- Reads one token. -/
def read (building : Building) (token : Token) : Option Building :=
  match building.expected with
  | .value => startValue building.stack token
  | .valueOrClose =>
      if token = .closeList then close building.stack token else startValue building.stack token
  | .name => startMember building.stack token
  | .nameOrClose =>
      if token = .closeRecord then close building.stack token
      else startMember building.stack token
  | .colon => if token = .colon then some ⟨building.stack, .value⟩ else none
  | .separator =>
      if token = .comma then
        match building.stack with
        | .list _ :: _ => some ⟨building.stack, .value⟩
        | _ => some ⟨building.stack, .name⟩
      else close building.stack token
  | .finished _ => none

end Building

/-- The tree of a text, if the text is exactly one value. -/
def parse? (text : List Char) : Option Tree := do
  let tokens ← tokens? text
  let building ← tokens.foldlM Building.read ⟨[], .value⟩
  match building.expected with
  | .finished tree => some tree
  | _ => none

end Tree

end FormRules.Json
