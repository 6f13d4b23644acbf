/-
The order of names in a store of failures.

A name stands where it was first recorded.  The map by qualified names is the map by field names
with each name qualified.
-/
import FormRules.Proofs.Store.Recording
import Mathlib.Data.List.Induction
import Mathlib.Data.List.Nodup

namespace FormRules

namespace MessageMap

/-- The map with each of its names qualified. -/
def qualified (scope : Option String) (map : MessageMap) : MessageMap :=
  ⟨map.entries.map fun entry => (qualify scope entry.1, entry.2)⟩

theorem names_qualified (scope : Option String) (map : MessageMap) :
    (map.qualified scope).names = map.names.map (qualify scope) := by
  simp [qualified, names, Function.comp_def]

/-- A name leads to the same message after it has been qualified. -/
theorem get?_qualified (scope : Option String) (map : MessageMap) (name : String) :
    (map.qualified scope).get? (qualify scope name) = map.get? name := by
  obtain ⟨entries⟩ := map
  simp only [qualified, get?]
  induction entries with
  | nil => rfl
  | cons entry rest ih =>
      by_cases hname : entry.1 = name
      · simp [hname]
      · have hother : ¬ qualify scope entry.1 = qualify scope name :=
          fun h => hname (qualify_injective h)
        simpa [hname, hother] using ih

theorem insertAll_append (map : MessageMap) (first second : List (String × String)) :
    map.insertAll (first ++ second) = (map.insertAll first).insertAll second :=
  List.foldl_append

/-- Names stand in the order in which messages were first put under them. -/
theorem names_insertAll (entries : List (String × String)) :
    (empty.insertAll entries).names = (entries.map Prod.fst).eraseDups := by
  induction entries using List.reverseRecOn with
  | nil => rfl
  | append_singleton entries entry ih =>
      have hlast : (empty.insertAll (entries ++ [entry])).names =
          ((empty.insertAll entries).insert entry.1 entry.2).names := by
        rw [insertAll_append]
        rfl
      rw [hlast, names_insert, ih, List.map_append, List.map_singleton, List.eraseDups_append]
      -- A name that has been there before keeps its place, and is a duplicate at the end.
      by_cases hold : entry.1 ∈ entries.map Prod.fst
      · simp [List.removeAll, hold]
      · simp [List.removeAll, hold, List.eraseDups_cons]

/-- No name comes twice. -/
theorem names_nodup_insertAll (entries : List (String × String)) :
    (empty.insertAll entries).names.Nodup := by
  have hstart : empty.names.Nodup := List.nodup_nil
  generalize empty = map at hstart
  induction entries generalizing map with
  | nil => exact hstart
  | cons entry rest ih =>
      apply ih
      rw [names_insert]
      split
      · exact hstart
      · rename_i hnew
        rw [← List.concat_eq_append]
        exact hstart.concat hnew

/-- Where no name comes twice the entries are the messages that names lead to. -/
theorem mem_entries_iff {map : MessageMap} (h : map.names.Nodup) (name message : String) :
    (name, message) ∈ map.entries ↔ map.get? name = some message := by
  constructor
  · intro hmem
    cases hfind : map.entries.find? fun entry => entry.1 == name with
    | none => simpa using List.find?_eq_none.mp hfind _ hmem
    | some other =>
        have hname : other.1 = name := by simpa using List.find?_some hfind
        obtain rfl : other = (name, message) :=
          List.inj_on_of_nodup_map h (List.mem_of_find?_eq_some hfind) hmem hname
        simp [get?, hfind]
  · intro hget
    obtain ⟨⟨other, held⟩, hfind, rfl⟩ := Option.map_eq_some_iff.mp hget
    obtain rfl : other = name := by simpa using List.find?_some hfind
    exact List.mem_of_find?_eq_some hfind

/-- Maps in which names lead to the same messages have the same entries in some order. -/
theorem entries_perm {first second : MessageMap} (hfirst : first.names.Nodup)
    (hsecond : second.names.Nodup) (h : ∀ name, first.get? name = second.get? name) :
    first.entries.Perm second.entries := by
  apply (List.perm_ext_iff_of_nodup (.of_map Prod.fst hfirst) (.of_map Prod.fst hsecond)).mpr
  rintro ⟨name, message⟩
  rw [mem_entries_iff hfirst, mem_entries_iff hsecond, h]

/-- The order of messages under different names matters for the order of entries only. -/
theorem insertAll_perm {first second : List (String × String)}
    (h : ∀ name, first.filter (·.1 == name) = second.filter (·.1 == name)) :
    (empty.insertAll first).entries.Perm (empty.insertAll second).entries := by
  apply entries_perm
  · exact names_nodup_insertAll first
  · exact names_nodup_insertAll second
  · intro name
    rw [get?_insertAll, get?_insertAll, ← List.head?_filter, ← List.head?_filter,
      List.filter_reverse, List.filter_reverse, h]

/-- No two names of one scope are qualified alike, so a message is put in the same place in the map
by qualified names. -/
theorem put_qualified (scope : Option String) (name message : String)
    (entries : List (String × String)) :
    put (qualify scope name) message
        (entries.map fun entry => (qualify scope entry.1, entry.2)) =
      (put name message entries).map fun entry => (qualify scope entry.1, entry.2) := by
  induction entries with
  | nil => rfl
  | cons entry rest ih =>
      by_cases hname : entry.1 = name
      · simp [put, hname]
      · have hother : ¬ qualify scope entry.1 = qualify scope name :=
          fun h => hname (qualify_injective h)
        simp [put, hname, hother, ih]

end MessageMap

namespace ErrorStore

/-- Recording keeps the map by qualified names in step with the map by field names. -/
theorem full_record {store : ErrorStore} {scope : Option String}
    (h : store.full = store.short.qualified scope) (field message : String) :
    (store.record field scope message).full =
      (store.record field scope message).short.qualified scope := by
  simp only [record, h, MessageMap.qualified, MessageMap.insert, MessageMap.put_qualified]

/-- The map by qualified names is the map by field names with each name qualified. -/
theorem full_recordAll_eq (scope : Option String) (failures : List (String × String)) :
    (empty.recordAll scope failures).full =
      (empty.recordAll scope failures).short.qualified scope := by
  have hstart : empty.full = empty.short.qualified scope := rfl
  generalize empty = store at hstart
  induction failures generalizing store with
  | nil => exact hstart
  | cons failure rest ih => exact ih _ (full_record hstart failure.1 failure.2)

/-- The names of failing fields stand in the order in which they were first recorded. -/
theorem names_short_recordAll (scope : Option String) (failures : List (String × String)) :
    (empty.recordAll scope failures).short.names = (failures.map Prod.fst).eraseDups := by
  rw [short_recordAll]
  exact MessageMap.names_insertAll failures

/-- The order of failures on different fields matters for the order of names only. -/
theorem recordAll_perm (scope : Option String) {first second : List (String × String)}
    (h : ∀ name, first.filter (·.1 == name) = second.filter (·.1 == name)) :
    (empty.recordAll scope first).short.entries.Perm (empty.recordAll scope second).short.entries ∧
      (empty.recordAll scope first).full.entries.Perm
        (empty.recordAll scope second).full.entries := by
  have hshort : (empty.recordAll scope first).short.entries.Perm
      (empty.recordAll scope second).short.entries := by
    rw [short_recordAll, short_recordAll]
    exact MessageMap.insertAll_perm h
  refine ⟨hshort, ?_⟩
  rw [full_recordAll_eq, full_recordAll_eq]
  exact hshort.map _

end ErrorStore

end FormRules
