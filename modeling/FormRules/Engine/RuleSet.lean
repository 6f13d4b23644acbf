/-
The rule set of a form.

A rule set grows by edits: rules are attached to fields, fields are combined, fields are made
optional, and messages are overridden.  Every attachment makes one instance per field, in order.
-/
import FormRules.Engine.Custom
import FormRules.Field.Combined
import FormRules.Rule.Registry

namespace FormRules

/-- What an instance runs: a rule of the registry by its name, or a custom rule. -/
inductive Task (Host : Type) where
  | registered (rule : String) (params : List Param)
  | custom (rule : CustomRule Host)

/-- One rule attached to one field. -/
structure RuleInstance (Host : Type) where
  field : String
  task : Task Host
  /-- The message that replaces the rule's own. -/
  message : Option String

/-- The name of the registered rule that an instance runs. -/
def RuleInstance.ruleName? {Host : Type} (inst : RuleInstance Host) : Option String :=
  match inst.task with
  | .registered rule _ => some rule
  | .custom _ => none

/-- All rule instances of a form, its required overrides with the latest first, and its combined
fields. -/
structure RuleSet (Host : Type) where
  instances : List (RuleInstance Host)
  overrides : List (String × Bool)
  combined : List Combined

/-- A change to a rule set. -/
inductive Edit (Host : Type) where
  /-- Attaches a registered rule to each of some fields. -/
  | attach (fields : List String) (rule : String) (params : List Param)
  /-- Makes each of some fields required or optional. -/
  | require (fields : List String) (required : Bool)
  /-- Attaches a custom rule to each of some fields, with the message of its failures. -/
  | extend (fields : List String) (rule : CustomRule Host) (message : Option String)
  | combine (field : Combined)
  /-- Overrides the message of a registered rule on some fields, or on all if none is named. -/
  | override (fields : List String) (rule message : String)

namespace RuleSet

variable {Host : Type}

def empty : RuleSet Host := ⟨[], [], []⟩

/-- Whether a message override for a rule on some fields applies to an instance. -/
def isOverridden (fields : List String) (rule : String) (inst : RuleInstance Host) : Bool :=
  inst.ruleName? == some rule && (fields.isEmpty || fields.contains inst.field)

/-- Overrides the message of the instances of a rule. -/
def overrideMessage (fields : List String) (rule message : String)
    (instances : List (RuleInstance Host)) : List (RuleInstance Host) :=
  instances.map fun inst =>
    if isOverridden fields rule inst then { inst with message := some message } else inst

/-- Applies an edit.  A message for a rule that is not registered is left out. -/
def apply (registry : Registry) (rules : RuleSet Host) : Edit Host → RuleSet Host
  | .attach fields rule params =>
      { rules with instances := rules.instances ++
          fields.map fun field => ⟨field, .registered rule params, none⟩ }
  | .require fields required =>
      { rules with overrides := (fields.map fun field => (field, required)) ++ rules.overrides }
  | .extend fields rule message =>
      { rules with instances := rules.instances ++
          fields.map fun field => ⟨field, .custom rule, message⟩ }
  | .combine field => { rules with combined := rules.combined ++ [field] }
  | .override fields rule message =>
      if registry.contains rule then
        { rules with instances := overrideMessage fields rule message rules.instances }
      else rules

/-- The required override of a field. -/
def required? (rules : RuleSet Host) (field : String) : Option Bool :=
  (rules.overrides.find? fun entry => entry.1 == field).map Prod.snd

/-- The number of rule instances. -/
def size (rules : RuleSet Host) : Nat := rules.instances.length

end RuleSet

end FormRules
