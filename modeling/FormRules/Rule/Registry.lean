/-
Rules, and registries that find them by name.
-/
import FormRules.Rule.Context

namespace FormRules

/-- A named test of a field with a message for its failure.  The message is a template for the
parameters of the rule. -/
structure Rule where
  name : String
  message : String
  check : Context → Except Fault Bool

namespace Rule

/-- A rule in two steps: its parameters are prepared first, which may find a fault, and what they
give then decides the field.  So a fault never depends on the field. -/
def configured (name message : String)
    (prepare : List Param → Except Fault (Context → Bool)) : Rule :=
  ⟨name, message, fun context => (prepare context.params).map fun decide => decide context⟩

/-- A rule without parameters. -/
def plain (name message : String) (decide : Context → Bool) : Rule :=
  configured name message fun _ => .ok decide

/-- A rule on the text of a field; a field without a text fails. -/
def onText (name message : String) (property : List Char → Bool) : Rule :=
  plain name message fun context => context.holdsText property

theorem check_configured (name message : String)
    (prepare : List Param → Except Fault (Context → Bool)) (context : Context) :
    (configured name message prepare).check context =
      (prepare context.params).map fun decide => decide context := rfl

end Rule

/-- Rules in ascending order of their names, each name once. -/
structure Registry where
  rules : List Rule

namespace Registry

def empty : Registry := ⟨[]⟩

/-- Puts a rule into its place by name; a rule of that name is replaced. -/
def insertRule (rule : Rule) : List Rule → List Rule
  | [] => [rule]
  | other :: rest =>
      if rule.name < other.name then rule :: other :: rest
      else if rule.name = other.name then rule :: rest
      else other :: insertRule rule rest

def register (registry : Registry) (rule : Rule) : Registry := ⟨insertRule rule registry.rules⟩

def ofList (rules : List Rule) : Registry := rules.foldl register empty

def find? (registry : Registry) (name : String) : Option Rule :=
  registry.rules.find? fun rule => rule.name == name

/-- The rule of a name; an unknown name is a fault. -/
def lookup (registry : Registry) (name : String) : Except Fault Rule :=
  match registry.find? name with
  | some rule => .ok rule
  | none => .error (.unknownRule name)

def contains (registry : Registry) (name : String) : Bool := (registry.find? name).isSome

def names (registry : Registry) : List String := registry.rules.map Rule.name

def size (registry : Registry) : Nat := registry.rules.length

theorem lookup_eq_ok_iff (registry : Registry) (name : String) (rule : Rule) :
    registry.lookup name = .ok rule ↔ registry.find? name = some rule := by
  unfold lookup
  cases registry.find? name <;> simp

theorem mem_of_lookup {registry : Registry} {name : String} {rule : Rule}
    (h : registry.lookup name = .ok rule) : rule ∈ registry.rules :=
  List.mem_of_find?_eq_some ((registry.lookup_eq_ok_iff name rule).mp h)

theorem mem_insertRule {rule other : Rule} {rules : List Rule} (h : other ∈ insertRule rule rules) :
    other = rule ∨ other ∈ rules := by
  induction rules with
  | nil => exact List.mem_cons.mp h
  | cons head rest ih =>
      unfold insertRule at h
      split at h
      · exact List.mem_cons.mp h
      · split at h
        · exact (List.mem_cons.mp h).imp_right (List.mem_cons_of_mem head)
        · rcases List.mem_cons.mp h with rfl | hrest
          · exact Or.inr List.mem_cons_self
          · exact (ih hrest).imp_right (List.mem_cons_of_mem head)

theorem mem_foldl_register {rule : Rule} {rules : List Rule} {registry : Registry}
    (h : rule ∈ (rules.foldl register registry).rules) : rule ∈ registry.rules ∨ rule ∈ rules := by
  induction rules generalizing registry with
  | nil => exact Or.inl h
  | cons head rest ih =>
      rcases ih h with hold | hrest
      · rcases mem_insertRule hold with rfl | hold
        · exact Or.inr List.mem_cons_self
        · exact Or.inl hold
      · exact Or.inr (List.mem_cons_of_mem head hrest)

/-- A registry holds no rules but those put into it. -/
theorem mem_of_mem_ofList {rules : List Rule} {rule : Rule} (h : rule ∈ (ofList rules).rules) :
    rule ∈ rules := by
  rcases mem_foldl_register h with hempty | hmem
  · cases hempty
  · exact hmem

end Registry

end FormRules
