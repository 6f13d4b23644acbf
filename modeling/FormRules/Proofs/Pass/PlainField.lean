/-
Plain fields in place of combined ones.

The text of a combined field is made anew whenever a rule asks for it.  When a source holds that text
under the name of the field, registered rules decide the same without the combined field, and only
the failures on its sources are missing.
-/
import FormRules.Proofs.Pass.Decisions

namespace FormRules

variable {Host : Type}

namespace Combined

/-- Failures in which each on a name is followed by the same on the sources of a combined field. -/
def fanOut (field : Combined) (name : String) (failures : List (String × String)) :
    List (String × String) :=
  failures.flatMap fun failure =>
    failure :: if failure.1 = name then field.sources.map fun source => (source, failure.2) else []

theorem fanOut_append (field : Combined) (name : String) (first second : List (String × String)) :
    field.fanOut name (first ++ second) = field.fanOut name first ++ field.fanOut name second :=
  List.flatMap_append

theorem fanOut_eq_nil_iff (field : Combined) (name : String) (failures : List (String × String)) :
    field.fanOut name failures = [] ↔ failures = [] := by
  cases failures <;> simp [fanOut]

/-- Failures on other names stand alone. -/
theorem fanOut_of_notMem (field : Combined) {name : String} {failures : List (String × String)}
    (h : name ∉ failures.map Prod.fst) : field.fanOut name failures = failures := by
  induction failures with
  | nil => rfl
  | cons failure rest ih =>
      obtain ⟨hfirst, hrest⟩ := not_or.mp (fun hmem => h (List.mem_cons.mpr hmem))
      have hname : ¬ failure.1 = name := fun hsame => hfirst hsame.symm
      rw [fanOut, List.flatMap_cons, if_neg hname]
      exact congrArg (failure :: ·) (ih hrest)

/-- The combined fields but those of a name. -/
def others (fields : List Combined) (name : String) : List Combined :=
  fields.filter fun field => field.name != some name

theorem find?_others_self (fields : List Combined) (name : String) :
    find? (others fields name) name = none := by
  simp [find?, others, List.find?_eq_none]

theorem find?_others_of_ne (fields : List Combined) {name asked : String} (h : asked ≠ name) :
    find? (others fields name) asked = find? fields asked := by
  rw [find?, others, List.find?_filter, find?]
  congr 1
  funext field
  by_cases hasked : field.name = some asked <;> simp [hasked, h]

/-- A name that is a source of no other combined field is none of the sources that another name leads
to. -/
theorem notMem_sources_of_find? {fields : List Combined} {name asked : String} {other : Combined}
    (hapart : ∀ other ∈ fields, other.name ≠ some name → name ∉ other.sources)
    (hasked : asked ≠ name) (hother : find? fields asked = some other) : name ∉ other.sources := by
  have hname : other.name = some asked := by simpa using List.find?_some hother
  apply hapart other (List.mem_of_find?_eq_some hother)
  rw [hname]
  exact fun hsame => hasked (Option.some.inj hsame)

end Combined

namespace FieldView

/-- The text that a field contributes to a combined one: that of its value, and none if it is absent
or null. -/
def sourceText (view : FieldView) (field : String) : String :=
  match view.lookup field with
  | some value => if value.isNull then "" else value.toText
  | none => ""

/-- The text of a combined field: the texts of its sources joined by the glue, or else filled into
the format. -/
def builtText? (view : FieldView) (field : Combined) : Option String :=
  if field.sources.isEmpty then none
  else
    match field.glue with
    | some glue => some (glue.intercalate (field.sources.map view.sourceText))
    | none => field.format.map fun format =>
        Template.fill format (field.sources.map view.sourceText)

theorem combine_sourceValues (view : FieldView) (field : Combined) :
    field.combine (view.sourceValues field.sources) = (view.builtText? field).map .text := by
  have hparts : (view.sourceValues field.sources).map Combined.part =
      field.sources.map view.sourceText := by
    rw [sourceValues, List.map_map]
    apply List.map_congr_left
    intro source _
    cases hlookup : view.lookup source <;> simp only [Function.comp_apply, hlookup, sourceText] <;>
      rfl
  rw [Combined.combine, builtText?, hparts]
  cases field.sources <;> cases field.glue <;> cases field.format <;> simp [sourceValues]

/-- A source shows what the source of a view shows, but for the name of a combined field, under
which it holds the text of that field. -/
structure BuiltInto (view : FieldView) (name : String) (field : Combined) (source : Source) :
    Prop where
  value_name : source.value (qualify view.scope name) = (view.builtText? field).map .text
  value_other : ∀ other, other ≠ qualify view.scope name →
    source.value other = view.source.value other
  isChecked_eq : source.isChecked = view.source.isChecked

/-- The view of another source, without the combined fields of a name. -/
def withPlain (view : FieldView) (name : String) (source : Source) : FieldView :=
  ⟨source, Combined.others view.combined name, view.scope⟩

/-- A plain field with the text of a combined one shows the same to the rules, as long as no other
combined field is made of it. -/
theorem BuiltInto.value_withPlain {view : FieldView} {name : String} {field : Combined}
    {source : Source} (h : view.BuiltInto name field source)
    (hfound : Combined.find? view.combined name = some field)
    (hapart : ∀ other ∈ view.combined, other.name ≠ some name → name ∉ other.sources) :
    (view.withPlain name source).value = view.value := by
  have hlookup : ∀ asked, asked ≠ name →
      (view.withPlain name source).lookup asked = view.lookup asked := by
    intro asked hasked
    exact h.value_other _ fun hsame => hasked (qualify_injective hsame)
  have hcombined : (view.withPlain name source).combined = Combined.others view.combined name := rfl
  funext asked
  by_cases hasked : asked = name
  · subst hasked
    simp only [value, hcombined, Combined.find?_others_self, hfound, combine_sourceValues]
    exact h.value_name
  · simp only [value, hcombined, Combined.find?_others_of_ne view.combined hasked]
    cases hother : Combined.find? view.combined asked with
    | none => exact hlookup asked hasked
    | some other =>
        have hunlisted := Combined.notMem_sources_of_find? hapart hasked hother
        have hvalues : (view.withPlain name source).sourceValues other.sources =
            view.sourceValues other.sources := by
          apply List.map_congr_left
          intro listed hlisted
          rw [hlookup listed fun hsame => hunlisted (hsame ▸ hlisted)]
        exact congrArg other.combine hvalues

end FieldView

namespace Engine

/-- The instance at an index runs a registered rule that is left out at its turn, because its field
is optional and empty. -/
def SkipsAt (engine : Engine Host) (host : Host) (index : Nat) : Prop :=
  ∃ inst name params, engine.rules.instances[index]? = some inst ∧
    inst.task = .registered name params ∧
    let shown := (engine.atTurn host index).host
    ∃ rule, engine.registry.lookup name = .ok rule ∧
      engine.isSkipped inst.field (engine.value shown inst.field) = true

/-- The instance at an index runs a registered rule that is met by its field at its turn. -/
def PassesAt (engine : Engine Host) (host : Host) (index : Nat) : Prop :=
  ∃ inst name params, engine.rules.instances[index]? = some inst ∧
    inst.task = .registered name params ∧
    let shown := (engine.atTurn host index).host
    ∃ rule, engine.registry.lookup name = .ok rule ∧
      engine.isSkipped inst.field (engine.value shown inst.field) = false ∧
      rule.check (engine.contextOf shown inst params) = .ok true

/-- The engine without the combined fields of a name, over another source. -/
def withPlain (engine : Engine Host) (name : String) (source : Host → Source) : Engine Host :=
  { engine with
    source := source
    rules := { engine.rules with combined := Combined.others engine.rules.combined name } }

/-- A combined field is the one that a name leads to, and no combined field of another name has it
among its sources. -/
structure Combines (engine : Engine Host) (name : String) (field : Combined) : Prop where
  find_eq : Combined.find? engine.rules.combined name = some field
  apart : ∀ other ∈ engine.rules.combined, other.name ≠ some name → name ∉ other.sources

namespace Combines

variable {engine : Engine Host} {name : String} {field : Combined} {source : Host → Source}
  {shown : Host} (h : engine.Combines name field)

include h

/-- Without the combined field a failure on its name marks the name only. -/
theorem fanOut_markedFields (marked message : String) :
    field.fanOut name (((engine.withPlain name source).markedFields marked).map (·, message)) =
      (engine.markedFields marked).map (·, message) := by
  have hrules : (engine.withPlain name source).rules.combined =
      Combined.others engine.rules.combined name := rfl
  by_cases hmarked : marked = name
  · subst hmarked
    simp [markedFields, hrules, Combined.find?_others_self, h.find_eq, Combined.fanOut]
  · have hsame : (engine.withPlain name source).markedFields marked =
        engine.markedFields marked := by
      rw [markedFields, hrules, Combined.find?_others_of_ne _ hmarked, markedFields]
    have hname : ¬ name = marked := fun hname => hmarked hname.symm
    have hunmarked : name ∉ engine.markedFields marked := by
      cases hother : Combined.find? engine.rules.combined marked with
      | none => simp [markedFields, hother, hname]
      | some other =>
          have hunlisted := Combined.notMem_sources_of_find? h.apart hmarked hother
          simp [markedFields, hother, hname, hunlisted]
    rw [hsame]
    apply Combined.fanOut_of_notMem
    simpa using hunmarked

variable (hbuilt : (engine.view shown).BuiltInto name field (source shown))

include hbuilt

theorem value_withPlain : (engine.withPlain name source).value shown = engine.value shown :=
  hbuilt.value_withPlain h.find_eq h.apart

theorem contextOf_withPlain :
    (engine.withPlain name source).contextOf shown = engine.contextOf shown := by
  have hothers : ((engine.withPlain name source).view shown).toSurroundings =
      (engine.view shown).toSurroundings :=
    congrArg₂ Surroundings.mk (h.value_withPlain hbuilt) hbuilt.isChecked_eq
  funext inst params
  simp only [contextOf, h.value_withPlain hbuilt, hothers]
  rfl

theorem decideInstance_withPlain :
    (engine.withPlain name source).decideInstance shown = engine.decideInstance shown := by
  funext inst rule params
  rw [decideInstance, decideInstance, h.value_withPlain hbuilt, h.contextOf_withPlain hbuilt]
  rfl

theorem faultOn?_withPlain :
    (engine.withPlain name source).faultOn? shown = engine.faultOn? shown := by
  funext inst
  rw [faultOn?, faultOn?, h.decideInstance_withPlain hbuilt]

theorem fanOut_failuresOn (inst : RuleInstance Host) :
    field.fanOut name ((engine.withPlain name source).failuresOn shown inst) =
      engine.failuresOn shown inst := by
  rw [failuresOn, failuresOn, h.decideInstance_withPlain hbuilt]
  cases inst.task with
  | custom rule => rfl
  | registered ruleName params =>
      dsimp only
      cases engine.decideInstance shown inst ruleName params with
      | error fault => rfl
      | ok decision =>
          obtain ⟨passed, rule⟩ := decision
          cases passed with
          | true => rfl
          | false => exact h.fanOut_markedFields inst.field (failureMessage inst rule params)

/-- Deciding comes to the same without the combined field, but for the failures on its sources. -/
theorem decideAll_withPlain (instances : List (RuleInstance Host)) :
    let decided := (engine.withPlain name source).decideAll shown instances
    engine.decideAll shown instances = ⟨field.fanOut name decided.failures, decided.fault?⟩ := by
  induction instances with
  | nil => rfl
  | cons inst rest ih =>
      simp only [decideAll, h.faultOn?_withPlain hbuilt]
      cases engine.faultOn? shown inst with
      | some fault => rfl
      | none => simp only [ih, Combined.fanOut_append, h.fanOut_failuresOn hbuilt]

omit hbuilt

/-- Every instance comes out of its turn alike without the combined field. -/
theorem turns_withPlain (honly : engine.rules.OnlyRegistered) {host : Host}
    (hbuilt : (engine.view (engine.begin host).host).BuiltInto name field
      (source (engine.begin host).host)) (index : Nat) :
    let plain := engine.withPlain name source
    (engine.PassesAt host index ↔ plain.PassesAt host index) ∧
      (engine.RejectsAt host index ↔ plain.RejectsAt host index) ∧
      (engine.SkipsAt host index ↔ plain.SkipsAt host index) ∧
      ∀ fault, engine.FaultsAt host index fault ↔ plain.FaultsAt host index fault := by
  intro plain
  have hinstances : plain.rules.instances = engine.rules.instances := rfl
  by_cases hindex : index < engine.rules.size
  · -- No turn of the host comes in between, so the source still shows what it has at the start.
    have hhost := engine.atTurn_host honly host hindex
    have hplain : (plain.atTurn host index).host = (engine.begin host).host :=
      plain.atTurn_host honly host hindex
    have hvalue : plain.value (engine.begin host).host = engine.value (engine.begin host).host :=
      h.value_withPlain hbuilt
    have hcontext : plain.contextOf (engine.begin host).host =
        engine.contextOf (engine.begin host).host := h.contextOf_withPlain hbuilt
    have hregistry : plain.registry = engine.registry := rfl
    have hskipped : plain.isSkipped = engine.isSkipped := rfl
    simp only [PassesAt, RejectsAt, SkipsAt, FaultsAt, hinstances, hhost, hplain, hvalue, hcontext,
      hregistry, hskipped, implies_true, and_self]
  · have hnone : engine.rules.instances[index]? = none :=
      List.getElem?_eq_none_iff.mpr (Nat.not_lt.mp hindex)
    simp [PassesAt, RejectsAt, SkipsAt, FaultsAt, hinstances, hnone]

end Combines

/-- A combined field behaves like a plain field that holds its text.  Take an engine with registered
rules only, a combined field that no other combined field is made of, and a source that shows the
same when the start of a pass has been announced, but holds the text of the combined field under its
name.  Over this source the engine without the combined fields of that name ends alike, with the same
result or the same fault, in the same state and with the same events.  Every instance passes, is
rejected, is left out or faults alike, and every field has the same value.  The records are the same
but that each failure on the name of the combined field is followed by the same failure on each of
its sources. -/
theorem exec_of_builtInto (engine : Engine Host) (honly : engine.rules.OnlyRegistered)
    {name : String} {field : Combined} (hfield : engine.Combines name field)
    (source : Host → Source) {host : Host}
    (hbuilt : (engine.view (engine.begin host).host).BuiltInto name field
      (source (engine.begin host).host)) (turns others : List (Turn Host)) :
    let plain := engine.withPlain name source
    let left := engine.exec turns host
    let right := plain.exec others host
    left.ending ≠ .abandoned ∧ left.ending = right.ending ∧
    left.engine.state = right.engine.state ∧ left.journal.events = right.journal.events ∧
    (∀ index, (engine.PassesAt host index ↔ plain.PassesAt host index) ∧
      (engine.RejectsAt host index ↔ plain.RejectsAt host index) ∧
      (engine.SkipsAt host index ↔ plain.SkipsAt host index) ∧
      ∀ fault, engine.FaultsAt host index fault ↔ plain.FaultsAt host index fault) ∧
    (∀ shown, (engine.view shown).BuiltInto name field (source shown) →
      ∀ asked, engine.value shown asked = plain.value shown asked) ∧
    left.journal.records = field.fanOut name right.journal.records ∧
    left.engine.errors = .recordAll .empty engine.settings.scope
      (field.fanOut name right.journal.records) ∧
    right.engine.errors = .recordAll .empty engine.settings.scope right.journal.records := by
  intro plain left right
  obtain ⟨hleft, hending⟩ := engine.exec_eq_decideAll honly host turns
  obtain ⟨hright, hending'⟩ := plain.exec_eq_decideAll honly host others
  have hdecided := hfield.decideAll_withPlain hbuilt engine.rules.instances
  have hsame : left.ending = right.ending := by
    rw [hending, hending', hdecided]
    exact Decided.ending_congr rfl (field.fanOut_eq_nil_iff name _)
  have hrecords : left.journal.records = field.fanOut name right.journal.records := by
    rw [hleft, hright, hdecided]
    rfl
  obtain ⟨hstate, hevents⟩ := engine.state_events_exec turns host
  obtain ⟨hstate', hevents'⟩ := plain.state_events_exec others host
  refine ⟨?_, hsame, ?_, ?_, hfield.turns_withPlain honly hbuilt, ?_, hrecords, ?_, ?_⟩
  · rw [hending]
    exact Decided.ending_ne_abandoned _
  · rw [hstate, hstate']
    exact congrArg Ending.state hsame
  · rw [hevents, hevents']
    exact congrArg Ending.events hsame
  · intro shown hshown asked
    exact (congrFun (hfield.value_withPlain hshown) asked).symm
  · rw [← hrecords]
    exact (engine.records_exec turns host).2
  · exact (plain.records_exec others host).2

/-- The parts of a date, of which the year is missing, and a day to compare it with. -/
def dateParts : Fields :=
  ⟨[("form[day]", .text "1"), ("form[month]", .whole 2), ("form[until]", .text "1-2-")], []⟩

/-- The date made of its parts. -/
def partedDate : Combined := ⟨["day", "month", "year"], some "-", none, some "date"⟩

/-- A form with the date made of its parts, which has to be long enough, and a day that has to be
another one. -/
def partedForm : Engine Unit :=
  let made : Engine Unit := new (fun _ => dateParts.toSource) ⟨some "form"⟩ .builtin
  ((made.edit (.combine partedDate)).edit (.attach ["date"] "lengthmin" [.text "8"])).edit
    (.attach ["until"] "different" [.text "date"])

/-- The parts and the date as it has been put together. -/
def writtenDate : Fields := dateParts.set "form[date]" (.text "1-2-")

theorem builtInto_writtenDate :
    (partedForm.view ()).BuiltInto "date" partedDate writtenDate.toSource where
  value_name := by
    have htext : (partedForm.view ()).builtText? partedDate = some "1-2-" := by decide +kernel
    rw [htext]
    rfl
  value_other := by
    intro other hother
    have hne : ¬ "form[date]" = other := fun hsame => hother hsame.symm
    simp [writtenDate, dateParts, Fields.toSource, Fields.value?, Fields.set, Fields.remove, hne,
      partedForm, view, edit, new]
  isChecked_eq := rfl

/-- The date is too short and is the day to compare with, whether it is put together or written.
Only when it is put together its parts are marked as well. -/
theorem exec_of_partedForm :
    let source := fun _ => writtenDate.toSource
    let left := partedForm.exec [] ()
    let right := (partedForm.withPlain "date" source).exec [] ()
    partedForm.rules.OnlyRegistered ∧ partedForm.Combines "date" partedDate ∧
    (partedForm.view ()).BuiltInto "date" partedDate (source ()) ∧
    left.ending = .returned .failed ∧ right.ending = .returned .failed ∧
    right.journal.records = [("date", "Minimum 8 characters"),
      ("until", "Can not have the same value as \"date\" field")] ∧
    left.journal.records = [("date", "Minimum 8 characters"), ("day", "Minimum 8 characters"),
      ("month", "Minimum 8 characters"), ("year", "Minimum 8 characters"),
      ("until", "Can not have the same value as \"date\" field")] := by
  intro source left right
  have honly : partedForm.rules.OnlyRegistered := by decide +kernel
  have hcombines : partedForm.Combines "date" partedDate := ⟨by decide +kernel, by decide +kernel⟩
  obtain ⟨_, hending, _, _, _, _, hrecords, _⟩ :=
    exec_of_builtInto partedForm honly hcombines source builtInto_writtenDate [] []
  have hfanned : left.journal.records = partedDate.fanOut "date" right.journal.records := hrecords
  have hfailed : right.ending = .returned .failed := by decide +kernel
  have hright : right.journal.records = [("date", "Minimum 8 characters"),
      ("until", "Can not have the same value as \"date\" field")] := by decide +kernel
  refine ⟨honly, hcombines, builtInto_writtenDate, hending.trans hfailed, hfailed, hright, ?_⟩
  rw [hfanned, hright]
  decide

end Engine

end FormRules
