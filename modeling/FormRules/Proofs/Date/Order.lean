/-
The order of dates, and of the texts that are read as dates.

Dates and times are totally ordered by their components.  In a format that gives each part at most once
no two texts are read as the same date and time, so the rules on dates order the texts themselves.
-/
import FormRules.Proofs.Date.RoundTrip
import FormRules.Proofs.Rule.Passing
import Mathlib.Data.List.Lex

namespace FormRules

namespace DateTime

variable {a b c : DateTime}

theorem components_injective (h : a.components = b.components) : a = b := by
  simp only [components, List.cons.injEq, and_true] at h
  obtain ⟨hyear, hmonth, hday, hhour, hminute, hsecond⟩ := h
  cases a
  cases b
  simp_all

theorem isBefore_iff : a.isBefore b = true ↔ a.components < b.components := by
  rw [isBefore, decide_eq_true_eq]

theorem not_isBefore_self (a : DateTime) : ¬ a.isBefore a = true := by
  rw [isBefore_iff]
  exact lt_irrefl _

theorem isBefore_trans (hab : a.isBefore b = true) (hbc : b.isBefore c = true) :
    a.isBefore c = true := by
  rw [isBefore_iff] at *
  exact lt_trans hab hbc

theorem isBefore_or_isBefore (h : a ≠ b) : a.isBefore b = true ∨ b.isBefore a = true := by
  rw [isBefore_iff, isBefore_iff]
  exact lt_or_gt_of_ne fun hsame => h (components_injective hsame)

end DateTime

namespace Date

/-- Texts that are read have been read by one format that is not refused. -/
theorem exists_of_read? {format first second : String} {a b : DateTime}
    (hfirst : read? format first = some a) (hsecond : read? format second = some b) :
    ∃ made, Format.ofText? format = some made ∧ made.parse? first = some a ∧
      made.parse? second = some b := by
  obtain ⟨made, hmade, hfirst⟩ := Option.bind_eq_some_iff.mp hfirst
  rw [read?, hmade, Option.bind_some] at hsecond
  exact ⟨made, hmade, hfirst, hsecond⟩

/-- In a format that gives each part at most once no two texts are read as the same date and time. -/
theorem read?_injective {format : String}
    (honce : (format.toList.filterMap Part.ofLetter?).Nodup) {first second : String} {d : DateTime}
    (hfirst : read? format first = some d) (hsecond : read? format second = some d) :
    first = second := by
  obtain ⟨made, hmade, hfirst, hsecond⟩ := exists_of_read? hfirst hsecond
  rw [← write_of_parse? hmade honce hfirst, write_of_parse? hmade honce hsecond]

/-- In a format that gives each part at most once, whatever the rest of the context, being after another
text is a strict total order of the texts that are dates in the format, and holds of no others.  To be
before a text is to have it after oneself. -/
theorem after_strictTotal {format : String}
    (honce : (format.toList.filterMap Part.ofLetter?).Nodup) (context : Context) :
    let accepted (text : String) : Prop := Rule.isDate.Passes context [.text format] text
    let later (text other : String) : Prop :=
      Rule.after.Passes context [.text other, .text format] text
    let earlier (text other : String) : Prop :=
      Rule.before.Passes context [.text other, .text format] text
    (∀ text, ¬ later text text) ∧
      (∀ first second third, later first second → later second third → later first third) ∧
      (∀ first second, accepted first → accepted second → first ≠ second →
        later first second ∨ later second first) ∧
      (∀ first second, later first second → accepted first ∧ accepted second) ∧
      ∀ first second, earlier first second ↔ later second first := by
  simp only [Rule.passes_after_iff, Rule.passes_before_iff, Rule.passes_isDate_iff]
  refine ⟨?irreflexive, ?transitive, ?total, ?accepted, ?converse⟩
  case irreflexive =>
    rintro text ⟨d, other, hd, hother, hbefore⟩
    obtain rfl : d = other := Option.some.inj (hd.symm.trans hother)
    exact DateTime.not_isBefore_self d hbefore
  case transitive =>
    rintro first second third ⟨a, b, ha, hb, hba⟩ ⟨b', c, hb', hc, hcb⟩
    obtain rfl : b = b' := Option.some.inj (hb.symm.trans hb')
    exact ⟨a, c, ha, hc, DateTime.isBefore_trans hcb hba⟩
  case total =>
    rintro first second ⟨a, ha⟩ ⟨b, hb⟩ hne
    have hdates : a ≠ b := by
      rintro rfl
      exact hne (read?_injective honce ha hb)
    rcases DateTime.isBefore_or_isBefore hdates with hab | hba
    · exact Or.inr ⟨b, a, hb, ha, hab⟩
    · exact Or.inl ⟨a, b, ha, hb, hba⟩
  case accepted =>
    rintro first second ⟨a, b, ha, hb, _⟩
    exact ⟨⟨a, ha⟩, ⟨b, hb⟩⟩
  case converse =>
    intro first second
    constructor
    · rintro ⟨a, b, ha, hb, hab⟩
      exact ⟨b, a, hb, ha, hab⟩
    · rintro ⟨b, a, hb, ha, hab⟩
      exact ⟨a, b, ha, hb, hab⟩

/-- Days and months without padding, and no year: the order of the dates is not that of the texts. -/
theorem after_of_plainNumbers :
    let format := "j.n. G:i"
    let context : Context := ⟨"birthday", none, [], none, none, .none⟩
    let later (text other : String) : Prop :=
      Rule.after.Passes context [.text other, .text format] text
    (format.toList.filterMap Part.ofLetter?).Nodup ∧
      Rule.isDate.Passes context [.text format] "2.10. 9:05" ∧
      Rule.isDate.Passes context [.text format] "10.2. 9:05" ∧
      later "2.10. 9:05" "10.2. 9:05" ∧ ¬ later "10.2. 9:05" "2.10. 9:05" := by
  intro format context later
  have honce : (format.toList.filterMap Part.ofLetter?).Nodup := by decide
  have hmade : Format.ofText? format = some (Format.ofText format) := by decide +kernel
  have hautumn : read? format "2.10. 9:05" = some ⟨0, 10, 2, 9, 5, 0⟩ := by
    rw [read?, hmade]
    decide
  have hwinter : read? format "10.2. 9:05" = some ⟨0, 2, 10, 9, 5, 0⟩ := by
    rw [read?, hmade]
    decide
  have hautumnDate := (Rule.passes_isDate_iff context "2.10. 9:05" format).mpr ⟨_, hautumn⟩
  have hwinterDate := (Rule.passes_isDate_iff context "10.2. 9:05" format).mpr ⟨_, hwinter⟩
  have hnot : ¬ later "10.2. 9:05" "2.10. 9:05" := by
    intro hlater
    obtain ⟨value, other, hvalue, hother, hbefore⟩ :=
      (Rule.passes_after_iff context _ _ _).mp hlater
    obtain rfl := Option.some.inj (hwinter.symm.trans hvalue)
    obtain rfl := Option.some.inj (hautumn.symm.trans hother)
    exact absurd hbefore (by decide)
  obtain ⟨_, _, htotal, _, _⟩ := after_strictTotal honce context
  exact ⟨honce, hautumnDate, hwinterDate,
    (htotal _ _ hautumnDate hwinterDate (by decide)).resolve_right hnot, hnot⟩

end Date

end FormRules
