/-
Field values.

A form field holds a value of the usual data-exchange kinds.  Whole and real numbers are different
kinds: a whole number never equals a real one, while real numbers compare numerically.
-/
import FormRules.Number.Shortest
import FormRules.Text.Blank

namespace FormRules

/-- What a form field may hold. -/
inductive Value where
  | null
  | flag (b : Bool)
  | whole (n : Int)
  | real (x : Double)
  | text (s : String)
  | list (items : List Value)
  /-- Members in ascending order of their names, each name once. -/
  | record (members : List (String × Value))
deriving Repr

namespace Value

/-- Puts a member into its place by name; a member of that name is replaced. -/
def insertMember (name : String) (value : Value) :
    List (String × Value) → List (String × Value)
  | [] => [(name, value)]
  | (other, held) :: rest =>
      if name < other then (name, value) :: (other, held) :: rest
      else if name = other then (name, value) :: rest
      else (other, held) :: insertMember name value rest

/-- A record of members given in any order; the last of several with one name is kept. -/
def ofMembers (members : List (String × Value)) : Value :=
  .record (members.foldl (fun sorted member => insertMember member.1 member.2 sorted) [])

mutual

/-- Equality of values: numbers only within their kind, real numbers numerically. -/
def same : Value → Value → Bool
  | null, null => true
  | flag a, flag b => a == b
  | whole a, whole b => a == b
  | real a, real b => a.numEq b
  | text a, text b => a == b
  | list a, list b => sameItems a b
  | record a, record b => sameMembers a b
  | _, _ => false

def sameItems : List Value → List Value → Bool
  | [], [] => true
  | a :: restA, b :: restB => same a b && sameItems restA restB
  | _, _ => false

def sameMembers : List (String × Value) → List (String × Value) → Bool
  | [], [] => true
  | (nameA, a) :: restA, (nameB, b) :: restB =>
      nameA == nameB && same a b && sameMembers restA restB
  | _, _ => false

end

def isNull : Value → Bool
  | null => true
  | _ => false

/-- The text of a value that is a text. -/
def text? : Value → Option String
  | text s => some s
  | _ => none

/-- The number of a value that is a number, rounded to a double. -/
def number? : Value → Option Double
  | whole n => some (.ofInt n)
  | real x => some x
  | _ => none

end Value

/-- A possibly absent value without null: an absent value and null mean the same to a rule. -/
def given (value : Option Value) : Option Value :=
  value.filter fun v => !v.isNull

/-- Whether two possibly absent values are equal. -/
def sameGiven : Option Value → Option Value → Bool
  | none, none => true
  | some a, some b => a.same b
  | _, _ => false

/-- The text of a possibly absent value that is a text. -/
def textOf (value : Option Value) : Option String :=
  value.bind Value.text?

/-- Whether a field counts as left empty: absent, null, or nothing but blanks. -/
def isBlankValue : Option Value → Bool
  | none => true
  | some .null => true
  | some (.text s) => Text.allBlank s.toList
  | some _ => false

end FormRules
