/-
A store of failures under calls.

After records and clearings in one scope a store is as if it were new and only what came after the last
clearing had been recorded.  So each field stands in the place of its first record since then, with the
message of its last one, and the two maps differ in the names only.
-/
import FormRules.Proofs.Store.Order
import Mathlib.Data.List.DropRight

namespace FormRules

/-- A call that changes a store of failures. -/
inductive StoreCall where
  | record (field message : String)
  | clear
deriving DecidableEq, Repr

namespace StoreCall

/-- The field and the message that a call records. -/
def failure? : StoreCall → Option (String × String)
  | record field message => some (field, message)
  | clear => none

/-- The failures that have been recorded since the last clearing. -/
def recorded (calls : List StoreCall) : List (String × String) :=
  (calls.rtakeWhile (· != clear)).filterMap failure?

theorem recorded_concat_record (calls : List StoreCall) (field message : String) :
    recorded (calls ++ [record field message]) = recorded calls ++ [(field, message)] := by
  rw [recorded, List.rtakeWhile_concat_pos _ _ _ (by simp), List.filterMap_append]
  rfl

theorem recorded_concat_clear (calls : List StoreCall) : recorded (calls ++ [clear]) = [] := by
  rw [recorded, List.rtakeWhile_concat_neg _ _ _ (by decide)]
  rfl

end StoreCall

namespace ErrorStore

/-- The store after a call in a scope. -/
def after (scope : Option String) (store : ErrorStore) : StoreCall → ErrorStore
  | .record field message => store.record field scope message
  | .clear => store.clear

/-- The store after some calls in a scope. -/
def afterAll (scope : Option String) (store : ErrorStore) (calls : List StoreCall) : ErrorStore :=
  calls.foldl (after scope) store

theorem afterAll_concat (scope : Option String) (store : ErrorStore) (calls : List StoreCall)
    (call : StoreCall) :
    store.afterAll scope (calls ++ [call]) = (store.afterAll scope calls).after scope call := by
  rw [afterAll, afterAll, List.foldl_append]
  rfl

theorem recordAll_concat (store : ErrorStore) (scope : Option String)
    (failures : List (String × String)) (failure : String × String) :
    store.recordAll scope (failures ++ [failure]) =
      (store.recordAll scope failures).record failure.1 scope failure.2 := by
  rw [recordAll, recordAll, List.foldl_append]
  rfl

/-- Only what has been recorded since the last clearing counts. -/
theorem afterAll_empty (scope : Option String) (calls : List StoreCall) :
    empty.afterAll scope calls = empty.recordAll scope (StoreCall.recorded calls) := by
  induction calls using List.reverseRecOn with
  | nil => rfl
  | append_singleton calls call ih =>
      rw [afterAll_concat, ih]
      cases call with
      | record field message =>
          rw [StoreCall.recorded_concat_record, recordAll_concat]
          rfl
      | clear =>
          rw [StoreCall.recorded_concat_clear]
          rfl

theorem names_full_recordAll_nodup (scope : Option String) (failures : List (String × String)) :
    (empty.recordAll scope failures).full.names.Nodup := by
  rw [full_recordAll]
  exact MessageMap.names_nodup_insertAll _

section Lookup

variable {scope : Option String} {failures earlier later : List (String × String)}
  {field message : String}

/-- The message of the last record of a field is kept under its name. -/
theorem short_get?_of_last_record (hsplit : failures = earlier ++ (field, message) :: later)
    (hlast : field ∉ later.map Prod.fst) :
    (empty.recordAll scope failures).short.get? field = some message := by
  have hmem : (field, message) ∈ [(field, message)] := List.mem_singleton_self _
  have hall : ∀ other, (field, other) ∈ [(field, message)] → other = message := by simp
  rw [short_recordAll, hsplit, List.append_cons, List.append_assoc]
  exact MessageMap.get?_insertAll_of_last _ hmem hall hlast

/-- A name that is no field is looked up among the qualified names. -/
theorem message?_qualified {store : ErrorStore} (hfull : store.full = store.short.qualified scope)
    (hnew : store.short.get? (qualify scope field) = none) :
    store.message? (qualify scope field) = store.short.get? field := by
  rw [message?, hnew, Option.none_or, hfull, MessageMap.get?_qualified]

theorem short_get?_of_notMem {name : String} (h : name ∉ failures.map Prod.fst) :
    (empty.recordAll scope failures).short.get? name = none := by
  rw [short_recordAll]
  exact MessageMap.get?_insertAll_of_notMem _ h

end Lookup

/-- After any calls in one scope the map by qualified names is the map by field names with each name
qualified, and no name comes twice in it.  The fields are those recorded since the last clearing, in the
order of their first records.  A field leads to the message of its last record, and so does its qualified
name unless this has been recorded as a field itself. -/
theorem holds_of_calls (scope : Option String) (calls : List StoreCall) :
    let store := empty.afterAll scope calls
    let recorded := StoreCall.recorded calls
    store.full = store.short.qualified scope ∧ store.full.size = store.short.size ∧
      store.full.names.Nodup ∧ store.short.names = (recorded.map Prod.fst).eraseDups ∧
      ∀ earlier field message later, recorded = earlier ++ (field, message) :: later →
        field ∉ later.map Prod.fst →
        store.short.get? field = some message ∧ store.message? field = some message ∧
        (qualify scope field ∉ recorded.map Prod.fst →
          store.message? (qualify scope field) = some message) := by
  intro store recorded
  have hstore : store = empty.recordAll scope recorded := afterAll_empty scope calls
  have hfull : store.full = store.short.qualified scope := hstore ▸ full_recordAll_eq scope recorded
  refine ⟨hfull, ?_, ?_, ?_, ?_⟩
  · rw [hfull, MessageMap.size, MessageMap.size, MessageMap.qualified, List.length_map]
  · rw [hstore]
    exact names_full_recordAll_nodup scope recorded
  · rw [hstore]
    exact names_short_recordAll scope recorded
  · intro earlier field message later hsplit hlast
    have hshort : store.short.get? field = some message :=
      hstore ▸ short_get?_of_last_record hsplit hlast
    refine ⟨hshort, ?_, fun hnew => ?_⟩
    · rw [message?, hshort, Option.some_or]
    · have hnone : store.short.get? (qualify scope field) = none := by
        rw [hstore]
        exact short_get?_of_notMem hnew
      rw [message?_qualified hfull hnone, hshort]

/-- A qualified name that is recorded as a field leads to its own message. -/
theorem holds_of_nestedName :
    let calls : List StoreCall := [.record "city" "Required", .clear, .record "zip" "Too short",
      .record "home[zip]" "Unknown", .record "zip" "No number"]
    let store := empty.afterAll (some "home") calls
    StoreCall.recorded calls =
        [("zip", "Too short"), ("home[zip]", "Unknown"), ("zip", "No number")] ∧
      qualify (some "home") "zip" = "home[zip]" ∧ store.short.names = ["zip", "home[zip]"] ∧
      store.message? "zip" = some "No number" ∧ store.message? "home[zip]" = some "Unknown" ∧
      store.message? "home[home[zip]]" = some "Unknown" := by
  intro calls store
  have hcalls := holds_of_calls (some "home") calls
  have hrecorded : StoreCall.recorded calls =
      [("zip", "Too short"), ("home[zip]", "Unknown"), ("zip", "No number")] := by decide
  obtain ⟨_, _, _, hnames, hmessages⟩ := hcalls
  have hzip := hmessages [("zip", "Too short"), ("home[zip]", "Unknown")] "zip" "No number" []
    hrecorded (by decide)
  have hnested := hmessages [("zip", "Too short")] "home[zip]" "Unknown" [("zip", "No number")]
    hrecorded (by decide)
  refine ⟨hrecorded, by decide, ?_, hzip.2.1, hnested.2.1, ?_⟩
  · rw [hrecorded] at hnames
    exact hnames.trans (by decide)
  · exact hnested.2.2 (by decide)

end ErrorStore

end FormRules
