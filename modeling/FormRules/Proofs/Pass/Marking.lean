/-
Which fields a pass marks.

A failure on a combined field is to show on all inputs that the field is made of.  Registered rules
mark the field and its sources.  Custom rules mark the field alone, whether they answer within their
calls or later, so that their failures do not reach the sources.
-/
import FormRules.Proofs.Pass.Failing
import FormRules.Proofs.Store.Order

namespace FormRules

variable {Host : Type}

namespace Engine

/-- In a pass that returns, the fields that bear a message are those that failing instances write.
The same fields bear one by their qualified names. -/
theorem mem_names_exec_iff (engine : Engine Host) (turns : List (Turn Host)) (host : Host)
    (hreturns : ∃ state, (engine.exec turns host).ending = .returned state) (field : String) :
    let report := engine.exec turns host
    (field ∈ report.engine.errors.short.names ↔
      ∃ index, engine.FailsIn host report.journal index ∧ field ∈ engine.writes index) ∧
    (qualify engine.settings.scope field ∈ report.engine.errors.full.names ↔
      field ∈ report.engine.errors.short.names) := by
  intro report
  obtain ⟨prior, hledger, hawaited, herrors, hconcluded, _⟩ :=
    engine.exists_settled_exec turns host hreturns
  have hfull : prior.errors.full = prior.errors.short.qualified engine.settings.scope := by
    rw [hledger.errors_eq]
    exact ErrorStore.full_recordAll_eq engine.settings.scope _
  simp only [report, herrors, FailsIn, hconcluded]
  refine ⟨hledger.mem_names_iff hawaited field, ?_⟩
  rw [hfull, MessageMap.names_qualified, List.mem_map]
  constructor
  · rintro ⟨other, hother, hsame⟩
    exact qualify_injective hsame ▸ hother
  · intro hfield
    exact ⟨field, hfield, rfl⟩

/-- Which fields a pass that returns has marked, by their names and by their qualified names: the
fields on which an instance has failed, whether its rule is registered or custom, and the sources of
those combined fields on which a registered rule has failed.  The failure of a custom rule on a
combined field marks none of its sources. -/
theorem marked_iff_of_exec (engine : Engine Host) (turns : List (Turn Host)) (host : Host)
    (hreturns : ∃ state, (engine.exec turns host).ending = .returned state) (field : String) :
    let report := engine.exec turns host
    (field ∈ report.engine.errors.short.names ↔
      ∃ index inst, engine.rules.instances[index]? = some inst ∧
        engine.FailsIn host report.journal index ∧
        (field = inst.field ∨ (∃ rule params, inst.task = .registered rule params) ∧
          ∃ combined, Combined.find? engine.rules.combined inst.field = some combined ∧
            field ∈ combined.sources)) ∧
    (qualify engine.settings.scope field ∈ report.engine.errors.full.names ↔
      field ∈ report.engine.errors.short.names) := by
  intro report
  obtain ⟨hshort, hfull⟩ := engine.mem_names_exec_iff turns host hreturns field
  refine ⟨hshort.trans ?_, hfull⟩
  constructor
  · rintro ⟨index, hfails, hwrites⟩
    cases hinst : engine.rules.instances[index]? with
    | none => simp [writes, hinst] at hwrites
    | some inst => exact ⟨index, inst, hinst, hfails, (engine.mem_writes_iff hinst field).mp hwrites⟩
  · rintro ⟨index, inst, hinst, hfails, hfield⟩
    exact ⟨index, hfails, (engine.mem_writes_iff hinst field).mpr hfield⟩

/-- A custom rule that rejects its field within its call. -/
def rejects : CustomRule Unit := fun _ ticket _ => ((), [(ticket, .answered .fail)])

/-- A form with a custom rule on a pair of fields. -/
def rejectedPair : Engine Unit :=
  let pair : Combined := ⟨["a", "b"], some "-", none, some "ab"⟩
  let fields : Fields := ⟨[("a", .text "x"), ("b", .text "y")], []⟩
  ((new (fun _ => fields.toSource) {} .empty).edit (.combine pair)).edit
    (.extend ["ab"] rejects (some "custom on combined"))

theorem failsIn_rejectedPair :
    rejectedPair.FailsIn () (rejectedPair.exec [] ()).journal 0 :=
  Or.inr ⟨0, by decide, by decide⟩

/-- The failure of the custom rule marks the pair. -/
theorem marked_of_rejectedPair :
    (rejectedPair.exec [] ()).ending = .returned .failed ∧
      "ab" ∈ (rejectedPair.exec [] ()).engine.errors.short.names := by
  have hending : (rejectedPair.exec [] ()).ending = .returned .failed := by decide
  refine ⟨hending, ?_⟩
  apply (marked_iff_of_exec rejectedPair [] () ⟨_, hending⟩ "ab").1.mpr
  exact ⟨0, ⟨"ab", .custom rejects, some "custom on combined"⟩, rfl, failsIn_rejectedPair,
    Or.inl rfl⟩

/-- It does not mark the fields that the pair is made of. -/
theorem unmarked_of_rejectedPair :
    let report := rejectedPair.exec [] ()
    report.ending = .returned .failed ∧
    ¬ ∀ index inst combined, rejectedPair.rules.instances[index]? = some inst →
      rejectedPair.FailsIn () report.journal index →
      Combined.find? rejectedPair.rules.combined inst.field = some combined →
      ∀ source ∈ combined.sources, source ∈ report.engine.errors.short.names := by
  refine ⟨by decide, fun hmarks => ?_⟩
  have hsource := hmarks 0 _ _ rfl failsIn_rejectedPair rfl "a" (by decide)
  revert hsource
  decide

end Engine

end FormRules
