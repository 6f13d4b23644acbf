/-
What a history of edits makes of a rule set.

An edit makes new instances at the end of a rule set, and may override messages of those that are
there.  So an instance of a registered rule bears the message of the last override that has come
after it and applies to it, and an instance of a custom rule keeps the message it was made with.
-/
import FormRules.Engine.Basic

namespace FormRules

variable {Host : Type}

namespace Edit

/-- The instances that an edit makes. -/
def made : Edit Host → List (RuleInstance Host)
  | .attach fields rule params => fields.map fun field => ⟨field, .registered rule params, none⟩
  | .extend fields rule message => fields.map fun field => ⟨field, .custom rule, message⟩
  | .require _ _ | .combine _ | .override _ _ _ => []

/-- The required overrides that an edit makes. -/
def demands : Edit Host → List (String × Bool)
  | .require fields required => fields.map fun field => (field, required)
  | .attach _ _ _ | .extend _ _ _ | .combine _ | .override _ _ _ => []

/-- The combined fields that an edit makes. -/
def combinations : Edit Host → List Combined
  | .combine field => [field]
  | .attach _ _ _ | .require _ _ | .extend _ _ _ | .override _ _ _ => []

/-- The message that an edit gives to the instances of a registered rule on a field.  Only an
override gives one, if it names the rule, the rule is registered, and the override is for the field
or for all. -/
def messageFor? (registry : Registry) (rule field : String) : Edit Host → Option String
  | .override fields name message =>
      if name = rule ∧ registry.contains name = true ∧ (fields = [] ∨ field ∈ fields) then
        some message
      else none
  | .attach _ _ _ | .require _ _ | .extend _ _ _ | .combine _ => none

/-- Whether an edit overrides messages. -/
def isOverride : Edit Host → Bool
  | .override _ _ _ => true
  | .attach _ _ _ | .require _ _ | .extend _ _ _ | .combine _ => false

theorem made_of_isOverride {edit : Edit Host} (h : edit.isOverride = true) : edit.made = [] := by
  cases edit with
  | override => rfl
  | attach | require | extend | combine => cases h

end Edit

/-- The message of the last override in a history that applies to a registered rule on a field. -/
def lastMessage? (registry : Registry) (rule field : String) (history : List (Edit Host)) :
    Option String :=
  history.reverse.findSome? (Edit.messageFor? registry rule field)

theorem lastMessage?_cons (registry : Registry) (rule field : String) (edit : Edit Host)
    (later : List (Edit Host)) :
    lastMessage? registry rule field (edit :: later) =
      (lastMessage? registry rule field later).or (edit.messageFor? registry rule field) := by
  rw [lastMessage?, List.reverse_cons, List.findSome?_append]
  cases h : edit.messageFor? registry rule field <;> simp [lastMessage?, h]

namespace RuleInstance

/-- What later edits make of an instance. -/
def after (registry : Registry) (later : List (Edit Host)) (inst : RuleInstance Host) :
    RuleInstance Host :=
  match inst.task with
  | .registered rule _ =>
      { inst with message := (lastMessage? registry rule inst.field later).or inst.message }
  | .custom _ => inst

@[simp] theorem after_nil (registry : Registry) (inst : RuleInstance Host) :
    inst.after registry [] = inst := by
  obtain ⟨field, task, message⟩ := inst
  cases task <;> rfl

theorem after_after (registry : Registry) (edit : Edit Host) (later : List (Edit Host))
    (inst : RuleInstance Host) :
    (inst.after registry [edit]).after registry later = inst.after registry (edit :: later) := by
  obtain ⟨field, task, message⟩ := inst
  cases task with
  | custom rule => rfl
  | registered rule params =>
      simp only [after, lastMessage?_cons, Option.or_assoc]
      rfl

/-- Edits leave what an instance runs and where. -/
theorem after_task (registry : Registry) (later : List (Edit Host)) (inst : RuleInstance Host) :
    (inst.after registry later).field = inst.field ∧
      (inst.after registry later).task = inst.task := by
  obtain ⟨field, task, message⟩ := inst
  cases task <;> exact ⟨rfl, rfl⟩

theorem after_of_not_isOverride (registry : Registry) {edit : Edit Host}
    (h : edit.isOverride = false) (inst : RuleInstance Host) :
    inst.after registry [edit] = inst := by
  obtain ⟨field, task, message⟩ := inst
  cases task with
  | custom rule => rfl
  | registered rule params =>
      cases edit with
      | override => cases h
      | attach | require | extend | combine => rfl

/-- An override gives its message to the instances that it is for. -/
theorem after_override (registry : Registry) (fields : List String) (name message : String)
    (inst : RuleInstance Host) :
    inst.after registry [.override fields name message] =
      if registry.contains name = true ∧ RuleSet.isOverridden fields name inst = true then
        { inst with message := some message }
      else inst := by
  obtain ⟨field, task, old⟩ := inst
  cases task with
  | custom rule => simp [after, RuleSet.isOverridden, ruleName?]
  | registered rule params =>
      let inst : RuleInstance Host := ⟨field, .registered rule params, old⟩
      have happlies : RuleSet.isOverridden fields name inst = true ↔
          name = rule ∧ (fields = [] ∨ field ∈ fields) := by
        rw [eq_comm (a := name)]
        simp [inst, RuleSet.isOverridden, ruleName?]
      have hgiven : lastMessage? registry rule field [(.override fields name message : Edit Host)] =
            if registry.contains name = true ∧ RuleSet.isOverridden fields name inst = true then
              some message
            else none := by
        simp only [lastMessage?, Edit.messageFor?, List.reverse_singleton,
          List.findSome?_singleton, happlies, and_left_comm]
      simp only [after, hgiven]
      split <;> rfl

end RuleInstance

namespace RuleSet

/-- One edit overrides messages of the instances that are there, and makes new ones after them. -/
theorem instances_apply (registry : Registry) (rules : RuleSet Host) (edit : Edit Host) :
    (rules.apply registry edit).instances =
      rules.instances.map (RuleInstance.after registry [edit]) ++ edit.made := by
  cases hedit : edit.isOverride with
  | false =>
      have hsame : rules.instances.map (RuleInstance.after registry [edit]) = rules.instances :=
        List.map_id'' (RuleInstance.after_of_not_isOverride registry hedit) _
      rw [hsame]
      cases edit with
      | override => cases hedit
      | attach | extend => rfl
      | require | combine => exact (List.append_nil _).symm
  | true =>
      rw [Edit.made_of_isOverride hedit, List.append_nil]
      cases edit with
      | attach | require | extend | combine => cases hedit
      | override fields name message =>
          rw [funext (RuleInstance.after_override registry fields name message)]
          by_cases hregistered : registry.contains name = true
          · simp only [apply, overrideMessage, hregistered, ↓reduceIte, true_and]
          · simp [apply, hregistered]

theorem overrides_apply (registry : Registry) (rules : RuleSet Host) (edit : Edit Host) :
    (rules.apply registry edit).overrides = edit.demands ++ rules.overrides := by
  cases edit with
  | attach | require | extend | combine => rfl
  | override fields rule message =>
      by_cases hregistered : registry.contains rule = true <;>
        simp [apply, hregistered, Edit.demands]

theorem combined_apply (registry : Registry) (rules : RuleSet Host) (edit : Edit Host) :
    (rules.apply registry edit).combined = rules.combined ++ edit.combinations := by
  cases edit with
  | combine => rfl
  | attach | require | extend => exact (List.append_nil _).symm
  | override fields rule message =>
      by_cases hregistered : registry.contains rule = true <;>
        simp [apply, hregistered, Edit.combinations]

theorem size_apply (registry : Registry) (rules : RuleSet Host) (edit : Edit Host) :
    (rules.apply registry edit).size = rules.size + edit.made.length := by
  rw [size, instances_apply, List.length_append, List.length_map, size]

/-- The rule set after a history of edits. -/
def applyAll (registry : Registry) (rules : RuleSet Host) (history : List (Edit Host)) :
    RuleSet Host :=
  history.foldl (apply registry) rules

/-- Attachments put the instances that they make after those that are there, and change nothing
else. -/
theorem applyAll_attach (registry : Registry) (rules : RuleSet Host) {history : List (Edit Host)}
    (h : ∀ edit ∈ history, ∃ fields rule params, edit = .attach fields rule params) :
    rules.applyAll registry history =
      { rules with instances := rules.instances ++ history.flatMap Edit.made } := by
  induction history generalizing rules with
  | nil => simp [applyAll]
  | cons edit history ih =>
      obtain ⟨fields, rule, params, rfl⟩ := h edit List.mem_cons_self
      have hrest := ih (rules.apply registry (.attach fields rule params))
        fun later hlater => h later (List.mem_cons_of_mem _ hlater)
      refine hrest.trans ?_
      simp [apply, Edit.made]

/-- An instance that is there stays where it is, and takes the message of the last override that
applies to it. -/
theorem getElem?_applyAll (registry : Registry) {rules : RuleSet Host} {index : Nat}
    {inst : RuleInstance Host} (h : rules.instances[index]? = some inst)
    (later : List (Edit Host)) :
    (rules.applyAll registry later).instances[index]? = some (inst.after registry later) := by
  induction later generalizing rules inst with
  | nil => rw [RuleInstance.after_nil]; exact h
  | cons edit later ih =>
      have hnext : (rules.apply registry edit).instances[index]? =
          some (inst.after registry [edit]) := by
        have hindex := (List.getElem?_eq_some_iff.mp h).1
        rw [instances_apply, List.getElem?_append_left (by simpa using hindex),
          List.getElem?_map, h]
        rfl
      rw [← RuleInstance.after_after]
      exact ih hnext

/-- The instance at an index of a rule set has been made, as it is given here, by an edit of the
history that has led to the rule set from an earlier one. -/
def MadeAt (registry : Registry) (rules : RuleSet Host) (history : List (Edit Host)) (index : Nat)
    (edit : Edit Host) (later : List (Edit Host)) (inst : RuleInstance Host) : Prop :=
  ∃ earlier position, history = earlier ++ edit :: later ∧ edit.made[position]? = some inst ∧
    index = (rules.applyAll registry earlier).size + position

/-- An instance is what the edits after the one that has made it leave of it. -/
theorem MadeAt.getElem?_eq {registry : Registry} {rules : RuleSet Host}
    {history later : List (Edit Host)} {index : Nat} {edit : Edit Host} {inst : RuleInstance Host}
    (h : rules.MadeAt registry history index edit later inst) :
    (rules.applyAll registry history).instances[index]? = some (inst.after registry later) := by
  obtain ⟨earlier, position, rfl, hmade, rfl⟩ := h
  have hfirst : ((rules.applyAll registry earlier).apply registry edit).instances[
      (rules.applyAll registry earlier).size + position]? = some inst := by
    rw [instances_apply, List.getElem?_append_right (by simp [size])]
    simpa [size] using hmade
  have hsplit : rules.applyAll registry (earlier ++ edit :: later) =
      ((rules.applyAll registry earlier).apply registry edit).applyAll registry later := by
    simp [applyAll]
  rw [hsplit]
  exact getElem?_applyAll registry hfirst later

/-- Only attachments make instances: of a registered rule without a message of its own, or of a
custom rule with the message given. -/
theorem MadeAt.cases {registry : Registry} {rules : RuleSet Host} {history later : List (Edit Host)}
    {index : Nat} {edit : Edit Host} {inst : RuleInstance Host}
    (h : rules.MadeAt registry history index edit later inst) :
    (∃ fields rule params field, edit = .attach fields rule params ∧
      inst = ⟨field, .registered rule params, none⟩) ∨
    ∃ fields rule message field, edit = .extend fields rule message ∧
      inst = ⟨field, .custom rule, message⟩ := by
  obtain ⟨_, _, _, hmade, _⟩ := h
  have hmem := List.mem_of_getElem? hmade
  cases edit with
  | attach fields rule params =>
      obtain ⟨field, _, rfl⟩ := List.mem_map.mp hmem
      exact Or.inl ⟨fields, rule, params, field, rfl, rfl⟩
  | extend fields rule message =>
      obtain ⟨field, _, rfl⟩ := List.mem_map.mp hmem
      exact Or.inr ⟨fields, rule, message, field, rfl, rfl⟩
  | require | combine | override => exact absurd hmem List.not_mem_nil

/-- Every instance that has not been there has been made by an edit. -/
theorem exists_madeAt (registry : Registry) {rules : RuleSet Host} {history : List (Edit Host)}
    {index : Nat} (hindex : index < (rules.applyAll registry history).size) :
    index < rules.size ∨
      ∃ edit later inst, rules.MadeAt registry history index edit later inst := by
  induction history generalizing rules with
  | nil => exact Or.inl hindex
  | cons edit history ih =>
      rcases ih hindex with hold | ⟨later, rest, inst, earlier, position, rfl, hmade, rfl⟩
      · rw [size_apply] at hold
        rcases Nat.lt_or_ge index rules.size with hlt | hge
        · exact Or.inl hlt
        · obtain ⟨position, rfl⟩ := Nat.exists_eq_add_of_le hge
          have hposition : position < edit.made.length := Nat.lt_of_add_lt_add_left hold
          have hmade := List.getElem?_eq_getElem hposition
          exact Or.inr ⟨edit, history, _, [], position, rfl, hmade, rfl⟩
      · exact Or.inr ⟨later, rest, inst, edit :: earlier, position, rfl, hmade, rfl⟩

/-- Gives a message to the instances from an index on. -/
def giveMessage (start : Nat) (rules : RuleSet Host) (message : String) : RuleSet Host :=
  { rules with
    instances := rules.instances.take start ++
      (rules.instances.drop start).map fun inst => { inst with message := some message } }

/-- A message given to the instances of a custom rule that has just been attached replaces the one
that they were made with. -/
theorem giveMessage_extend (registry : Registry) (rules : RuleSet Host) (fields : List String)
    (rule : CustomRule Host) (old : Option String) (message : String) :
    (rules.apply registry (.extend fields rule old)).giveMessage rules.size message =
      rules.apply registry (.extend fields rule (some message)) := by
  simp [giveMessage, apply, size, Function.comp_def]

/-- Of the messages given to the instances of a custom rule the last one stays. -/
theorem foldl_giveMessage_extend (registry : Registry) (rules : RuleSet Host)
    (fields : List String) (rule : CustomRule Host) (old : Option String)
    (messages : List String) :
    messages.foldl (giveMessage rules.size) (rules.apply registry (.extend fields rule old)) =
      rules.apply registry (.extend fields rule (messages.getLast?.or old)) := by
  induction messages generalizing old with
  | nil => rfl
  | cons message messages ih =>
      rw [List.foldl_cons, giveMessage_extend, ih (some message), List.getLast?_cons]
      cases messages.getLast? <;> rfl

end RuleSet

/-- Edits change the rule set of an engine only. -/
theorem Engine.foldl_edit (engine : Engine Host) (history : List (Edit Host)) :
    history.foldl Engine.edit engine =
      { engine with rules := engine.rules.applyAll engine.registry history } := by
  induction history generalizing engine with
  | nil => rfl
  | cons edit history ih => exact ih (engine.edit edit)

end FormRules
