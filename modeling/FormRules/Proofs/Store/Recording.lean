/-
What a store of failures holds after recording.

Of the messages recorded under one name the last is kept.  A store holds exactly the names that
have been recorded, in both of its maps.
-/
import FormRules.ErrorStore

namespace FormRules

namespace MessageMap

/-- Puts messages under names one after the other. -/
def insertAll (map : MessageMap) (entries : List (String × String)) : MessageMap :=
  entries.foldl (fun map entry => map.insert entry.1 entry.2) map

theorem insertAll_cons (map : MessageMap) (entry : String × String)
    (rest : List (String × String)) :
    map.insertAll (entry :: rest) = (map.insert entry.1 entry.2).insertAll rest := rfl

theorem mem_names_insertAll (map : MessageMap) (entries : List (String × String)) (name : String) :
    name ∈ (map.insertAll entries).names ↔ name ∈ map.names ∨ name ∈ entries.map Prod.fst := by
  induction entries generalizing map with
  | nil => simp [insertAll]
  | cons entry rest ih =>
      have hinsert : name ∈ (map.insert entry.1 entry.2).names ↔
          name ∈ map.names ∨ name = entry.1 := by
        rw [names_insert]
        split
        · rename_i hold
          constructor
          · exact Or.inl
          · rintro (hname | rfl)
            · exact hname
            · exact hold
        · simp
      rw [insertAll_cons, ih, hinsert, List.map_cons, List.mem_cons, or_assoc]

/-- The message kept under a name is the last one that was put there. -/
theorem get?_insertAll (map : MessageMap) (entries : List (String × String)) (name : String) :
    (map.insertAll entries).get? name =
      ((entries.reverse.find? fun entry => entry.1 == name).map Prod.snd).or (map.get? name) := by
  induction entries generalizing map with
  | nil => simp [insertAll]
  | cons entry rest ih =>
      rw [insertAll_cons, ih, List.reverse_cons, List.find?_append]
      by_cases hname : entry.1 = name
      · rw [← hname, get?_insert_self]
        cases hfind : rest.reverse.find? fun other => other.1 == entry.1 <;> simp
      · rw [get?_insert_of_ne map entry.2 fun h => hname h.symm]
        simp [hname]

/-- A name under which one message only has been put holds that message. -/
theorem get?_insertAll_of_forall (map : MessageMap) {entries : List (String × String)}
    {name message : String} (hmem : (name, message) ∈ entries)
    (hall : ∀ other, (name, other) ∈ entries → other = message) :
    (map.insertAll entries).get? name = some message := by
  rw [get?_insertAll]
  cases hfind : entries.reverse.find? fun entry => entry.1 == name with
  | none =>
      have hnot := List.find?_eq_none.mp hfind (name, message) (List.mem_reverse.mpr hmem)
      simp at hnot
  | some found =>
      obtain ⟨field, other⟩ := found
      obtain rfl : field = name := by simpa using List.find?_some hfind
      have hother := hall other (List.mem_reverse.mp (List.mem_of_find?_eq_some hfind))
      simp [hother]

/-- A name under which nothing is put keeps its message. -/
theorem get?_insertAll_of_notMem (map : MessageMap) {entries : List (String × String)}
    {name : String} (h : name ∉ entries.map Prod.fst) :
    (map.insertAll entries).get? name = map.get? name := by
  have hnone : (entries.reverse.find? fun entry => entry.1 == name) = none := by
    rw [List.find?_eq_none]
    intro entry hentry hname
    exact h (List.mem_map.mpr ⟨entry, List.mem_reverse.mp hentry, by simpa using hname⟩)
  rw [get?_insertAll, hnone, Option.map_none, Option.none_or]

/-- A name holds the one message that some entries put under it if no later one does. -/
theorem get?_insertAll_of_last (map : MessageMap) {before entries after : List (String × String)}
    {name message : String} (hmem : (name, message) ∈ entries)
    (hall : ∀ other, (name, other) ∈ entries → other = message)
    (hafter : name ∉ after.map Prod.fst) :
    (map.insertAll (before ++ (entries ++ after))).get? name = some message := by
  have hsplit : map.insertAll (before ++ (entries ++ after)) =
      ((map.insertAll before).insertAll entries).insertAll after := by
    simp only [insertAll, List.foldl_append]
  rw [hsplit, get?_insertAll_of_notMem _ hafter]
  exact get?_insertAll_of_forall _ hmem hall

theorem entries_eq_nil_iff (map : MessageMap) : map.entries = [] ↔ ∀ name, name ∉ map.names := by
  rw [← List.eq_nil_iff_forall_not_mem, names, List.map_eq_nil_iff]

end MessageMap

namespace ErrorStore

theorem short_recordAll (store : ErrorStore) (scope : Option String)
    (failures : List (String × String)) :
    (store.recordAll scope failures).short = store.short.insertAll failures := by
  induction failures generalizing store with
  | nil => rfl
  | cons failure rest ih => exact ih (store.record failure.1 scope failure.2)

theorem full_recordAll (store : ErrorStore) (scope : Option String)
    (failures : List (String × String)) :
    (store.recordAll scope failures).full =
      store.full.insertAll (failures.map fun failure => (qualify scope failure.1, failure.2)) := by
  induction failures generalizing store with
  | nil => rfl
  | cons failure rest ih => exact ih (store.record failure.1 scope failure.2)

variable (scope : Option String) (failures : List (String × String))

theorem mem_names_short_recordAll (name : String) :
    name ∈ (empty.recordAll scope failures).short.names ↔ name ∈ failures.map Prod.fst := by
  rw [short_recordAll, MessageMap.mem_names_insertAll]
  simp [empty, MessageMap.empty, MessageMap.names]

theorem mem_names_full_recordAll (name : String) :
    name ∈ (empty.recordAll scope failures).full.names ↔
      ∃ field ∈ failures.map Prod.fst, qualify scope field = name := by
  rw [full_recordAll, MessageMap.mem_names_insertAll]
  simp [empty, MessageMap.empty, MessageMap.names]

/-- Both maps of a store are empty exactly if nothing has been recorded. -/
theorem entries_recordAll_eq_nil_iff :
    ((empty.recordAll scope failures).short.entries = [] ↔ failures = []) ∧
      ((empty.recordAll scope failures).full.entries = [] ↔ failures = []) := by
  constructor
  · rw [MessageMap.entries_eq_nil_iff]
    simp only [mem_names_short_recordAll]
    rw [← List.eq_nil_iff_forall_not_mem, List.map_eq_nil_iff]
  · rw [MessageMap.entries_eq_nil_iff]
    simp only [mem_names_full_recordAll]
    constructor
    · intro hnone
      rw [← List.map_eq_nil_iff (f := Prod.fst), List.eq_nil_iff_forall_not_mem]
      exact fun field hfield => hnone (qualify scope field) ⟨field, hfield, rfl⟩
    · rintro rfl
      simp

end ErrorStore

end FormRules
