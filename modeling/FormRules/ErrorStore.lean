/-
The failures of one pass.

Every failure is kept under two names, that of the field and its qualified name.  A later failure
of the same field replaces the message and keeps the place of the earlier one.
-/
import FormRules.Field.Qualified

namespace FormRules

/-- Messages by name, in the order in which the names first came. -/
structure MessageMap where
  entries : List (String × String)
deriving DecidableEq, Repr

namespace MessageMap

def empty : MessageMap := ⟨[]⟩

/-- Puts a message under a name: in the place of an older one, or else at the end. -/
def put (name message : String) : List (String × String) → List (String × String)
  | [] => [(name, message)]
  | (other, held) :: rest =>
      if other = name then (other, message) :: rest
      else (other, held) :: put name message rest

def insert (map : MessageMap) (name message : String) : MessageMap :=
  ⟨put name message map.entries⟩

def get? (map : MessageMap) (name : String) : Option String :=
  (map.entries.find? fun entry => entry.1 == name).map Prod.snd

def names (map : MessageMap) : List String := map.entries.map Prod.fst

def size (map : MessageMap) : Nat := map.entries.length

def isEmpty (map : MessageMap) : Bool := map.entries.isEmpty

theorem get?_insert_self (map : MessageMap) (name message : String) :
    (map.insert name message).get? name = some message := by
  obtain ⟨entries⟩ := map
  simp only [insert, get?]
  induction entries with
  | nil => simp [put]
  | cons entry rest ih =>
      by_cases h : entry.1 = name
      · simp [put, h]
      · simpa [put, h] using ih

theorem get?_insert_of_ne (map : MessageMap) {name other : String} (message : String)
    (h : other ≠ name) : (map.insert name message).get? other = map.get? other := by
  obtain ⟨entries⟩ := map
  simp only [insert, get?]
  induction entries with
  | nil => simp [put, h.symm]
  | cons entry rest ih =>
      by_cases hname : entry.1 = name
      · have hother : ¬ name = other := h.symm
        simp [put, hname, hother]
      · by_cases hfound : entry.1 = other
        · simp [put, hfound, h]
        · simpa [put, hname, hfound] using ih

/-- A name already there keeps its place, a new one comes last. -/
theorem names_insert (map : MessageMap) (name message : String) :
    (map.insert name message).names =
      if name ∈ map.names then map.names else map.names ++ [name] := by
  obtain ⟨entries⟩ := map
  simp only [insert, names]
  induction entries with
  | nil => simp [put]
  | cons entry rest ih =>
      by_cases hname : entry.1 = name
      · simp [put, hname]
      · have hne : ¬ name = entry.1 := fun h => hname h.symm
        simp only [put, hname, ↓reduceIte, List.map_cons, ih, List.mem_cons, hne, false_or]
        split <;> simp_all

end MessageMap

/-- The failures recorded so far, by field name and by qualified name. -/
structure ErrorStore where
  short : MessageMap
  full : MessageMap
deriving DecidableEq, Repr

namespace ErrorStore

def empty : ErrorStore := ⟨.empty, .empty⟩

/-- Records the message of a failing field. -/
def record (store : ErrorStore) (field : String) (scope : Option String) (message : String) :
    ErrorStore :=
  ⟨store.short.insert field message, store.full.insert (qualify scope field) message⟩

/-- Records failures one after the other. -/
def recordAll (store : ErrorStore) (scope : Option String) (failures : List (String × String)) :
    ErrorStore :=
  failures.foldl (fun store failure => store.record failure.1 scope failure.2) store

/-- Forgets all failures. -/
def clear (_ : ErrorStore) : ErrorStore := empty

def isEmpty (store : ErrorStore) : Bool := store.short.isEmpty

/-- The number of failing fields. -/
def size (store : ErrorStore) : Nat := store.short.size

/-- The message under a name, looked up as a field name first and then as a qualified one. -/
def message? (store : ErrorStore) (name : String) : Option String :=
  (store.short.get? name).or (store.full.get? name)

end ErrorStore

end FormRules
