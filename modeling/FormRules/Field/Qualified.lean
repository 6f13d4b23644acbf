/-
Names of fields inside a scope.
-/
namespace FormRules

/-- The name of a field as the source of values knows it: wrapped as `scope[field]` when there is
a scope. -/
def qualify (scope : Option String) (field : String) : String :=
  match scope with
  | some scope => scope ++ "[" ++ field ++ "]"
  | none => field

theorem qualify_none (field : String) : qualify none field = field := rfl

/-- Different fields of one scope have different qualified names. -/
theorem qualify_injective {scope : Option String} {a b : String}
    (h : qualify scope a = qualify scope b) : a = b := by
  cases scope with
  | none => exact h
  | some scope =>
      have hchars := congrArg String.toList h
      simp only [qualify, String.toList_append, List.append_assoc,
        List.append_cancel_left_eq, List.append_cancel_right_eq] at hchars
      exact String.toList_inj.mp hchars

end FormRules
