/-
Templates as segments with placeholders between them.

A template is cut at its placeholders into segments in exactly one way.  Filling it keeps the segments
and their order: the arguments go into the gaps one by one, the gaps beyond the arguments keep their
placeholders, and nothing inside an argument counts as a placeholder.
-/
import FormRules.Template
import Mathlib.Data.List.Infix
import Mathlib.Data.List.Basic
import Mathlib.Data.List.GetD

namespace FormRules.Template

def placeholder : List Char := ['%', 's']

/-- A text in which no placeholder stands. -/
def IsPlain (text : List Char) : Prop := ¬ placeholder <:+: text

instance (text : List Char) : Decidable (IsPlain text) :=
  inferInstanceAs (Decidable (¬ _))

/-- The stretches of a template between its placeholders. -/
def segmentsOf : List Char → List (List Char)
  | [] => [[]]
  | '%' :: 's' :: rest => [] :: segmentsOf rest
  | c :: rest => (segmentsOf rest).modifyHead (c :: ·)

/-- Segments with a text in front of each but the first: its argument, or a placeholder once the
arguments have run out. -/
def weave (arguments : List (List Char)) : List (List Char) → List Char
  | [] => []
  | first :: others =>
      first ++ (others.mapIdx fun gap segment => arguments.getD gap placeholder ++ segment).flatten

theorem placeholder_prefix_iff {c : Char} {text : List Char} :
    placeholder <+: c :: text ↔ ∃ rest, c = '%' ∧ text = 's' :: rest := by
  constructor
  · rintro ⟨rest, hrest⟩
    obtain ⟨rfl, rfl⟩ := List.cons_eq_cons.mp hrest
    exact ⟨rest, rfl, rfl⟩
  · rintro ⟨rest, rfl, rfl⟩
    exact ⟨rest, rfl⟩

theorem isPlain_cons_iff {c : Char} {text : List Char} :
    IsPlain (c :: text) ↔ ¬ placeholder <+: c :: text ∧ IsPlain text := by
  rw [IsPlain, List.infix_cons_iff, not_or, IsPlain]

/-- A placeholder behind a plain text begins nowhere inside the text. -/
theorem not_prefix_append {c : Char} {segment : List Char} (h : IsPlain (c :: segment))
    (rest : List Char) : ¬ placeholder <+: c :: (segment ++ placeholder ++ rest) := by
  rw [placeholder_prefix_iff]
  rintro ⟨tail, rfl, htail⟩
  cases segment with
  | nil => cases htail
  | cons d segment =>
      obtain ⟨rfl, _⟩ := List.cons_eq_cons.mp htail
      exact (isPlain_cons_iff.mp h).1 (placeholder_prefix_iff.mpr ⟨segment, rfl, rfl⟩)

theorem segmentsOf_cons {c : Char} {text : List Char} (h : ¬ placeholder <+: c :: text) :
    segmentsOf (c :: text) = (segmentsOf text).modifyHead (c :: ·) := by
  rw [segmentsOf]
  rintro rest rfl rfl
  exact h (placeholder_prefix_iff.mpr ⟨rest, rfl, rfl⟩)

theorem fillChars_cons {c : Char} {text : List Char} (h : ¬ placeholder <+: c :: text)
    (arguments : List (List Char)) :
    fillChars (c :: text) arguments = c :: fillChars text arguments := by
  rw [fillChars]
  intro rest argument others _ hc htext
  exact absurd (placeholder_prefix_iff.mpr ⟨rest, hc, htext⟩) h

/-- Templates are built up from their end: by a placeholder, or by a character that begins none. -/
theorem cut_induction {holds : List Char → Prop} (nil : holds [])
    (gap : ∀ rest, holds rest → holds ('%' :: 's' :: rest))
    (cons : ∀ c rest, ¬ placeholder <+: c :: rest → holds rest → holds (c :: rest))
    (template : List Char) : holds template := by
  fun_induction segmentsOf template with
  | case1 => exact nil
  | case2 rest ih => exact gap rest ih
  | case3 c rest hnot ih =>
      refine cons c rest (fun hprefix => ?_) ih
      obtain ⟨tail, hc, hrest⟩ := placeholder_prefix_iff.mp hprefix
      exact hnot tail hc hrest

theorem segmentsOf_ne_nil (template : List Char) : segmentsOf template ≠ [] := by
  induction template using cut_induction with
  | nil => simp [segmentsOf]
  | gap rest ih => simp [segmentsOf]
  | cons c rest hc ih => simpa [segmentsOf_cons hc] using ih

theorem exists_segmentsOf_eq_cons (template : List Char) :
    ∃ first others, segmentsOf template = first :: others :=
  List.exists_cons_of_ne_nil (segmentsOf_ne_nil template)

/-- A template is the join of its segments. -/
theorem intercalate_segmentsOf (template : List Char) :
    placeholder.intercalate (segmentsOf template) = template := by
  induction template using cut_induction with
  | nil => rfl
  | gap rest ih =>
      obtain ⟨first, others, hrest⟩ := exists_segmentsOf_eq_cons rest
      rw [segmentsOf, hrest, List.intercalate_cons_cons, ← hrest, ih]
      rfl
  | cons c rest hc ih =>
      obtain ⟨first, others, hrest⟩ := exists_segmentsOf_eq_cons rest
      rw [segmentsOf_cons hc, hrest, List.modifyHead_cons]
      rw [hrest] at ih
      cases others with
      | nil => simpa using ih
      | cons second others =>
          rw [List.intercalate_cons_cons] at ih ⊢
          rw [List.cons_append, List.cons_append, ih]

theorem isPlain_of_mem_segmentsOf (template : List Char) :
    ∀ segment ∈ segmentsOf template, IsPlain segment := by
  induction template using cut_induction with
  | nil => simp [segmentsOf, IsPlain, placeholder]
  | gap rest ih => simpa [segmentsOf, IsPlain, placeholder] using ih
  | cons c rest hc ih =>
      obtain ⟨first, others, hrest⟩ := exists_segmentsOf_eq_cons rest
      have hfirst : first <+: rest := by
        rw [← intercalate_segmentsOf rest, hrest]
        cases others with
        | nil => simp
        | cons second others => simp [List.append_assoc]
      rw [hrest, List.forall_mem_cons] at ih
      rw [segmentsOf_cons hc, hrest, List.modifyHead_cons, List.forall_mem_cons]
      refine ⟨isPlain_cons_iff.mpr ⟨fun hprefix => hc ?_, ih.1⟩, ih.2⟩
      exact hprefix.trans ((List.prefix_cons_inj c).mpr hfirst)

theorem segmentsOf_of_isPlain {segment : List Char} (h : IsPlain segment) :
    segmentsOf segment = [segment] := by
  induction segment with
  | nil => rfl
  | cons c segment ih =>
      obtain ⟨hc, hsegment⟩ := isPlain_cons_iff.mp h
      rw [segmentsOf_cons hc, ih hsegment, List.modifyHead_cons]

theorem segmentsOf_append {segment : List Char} (h : IsPlain segment) (rest : List Char) :
    segmentsOf (segment ++ placeholder ++ rest) = segment :: segmentsOf rest := by
  induction segment with
  | nil => rfl
  | cons c segment ih =>
      rw [List.cons_append, List.cons_append, segmentsOf_cons (not_prefix_append h rest),
        ih (isPlain_cons_iff.mp h).2, List.modifyHead_cons]

/-- The segments that a template was joined from are found again. -/
theorem segmentsOf_intercalate {segments : List (List Char)} (hne : segments ≠ [])
    (hplain : ∀ segment ∈ segments, IsPlain segment) :
    segmentsOf (placeholder.intercalate segments) = segments := by
  induction segments with
  | nil => exact absurd rfl hne
  | cons first others ih =>
      rw [List.forall_mem_cons] at hplain
      cases others with
      | nil => rw [List.intercalate_singleton, segmentsOf_of_isPlain hplain.1]
      | cons second others =>
          rw [List.intercalate_cons_cons, segmentsOf_append hplain.1,
            ih (List.cons_ne_nil second others) hplain.2]

section Weave

variable (arguments : List (List Char))

theorem weave_nil (segments : List (List Char)) :
    weave [] segments = placeholder.intercalate segments := by
  induction segments with
  | nil => rfl
  | cons first others ih =>
      cases others with
      | nil => simp [weave]
      | cons second others => simpa [weave, List.mapIdx_cons] using ih

/-- The first gap takes the first argument. -/
theorem weave_cons_cons (argument first second : List Char) (others : List (List Char)) :
    weave (argument :: arguments) (first :: second :: others) =
      first ++ argument ++ weave arguments (second :: others) := by
  simp [weave, List.mapIdx_cons]

theorem weave_modifyHead (c : Char) {segments : List (List Char)} (h : segments ≠ []) :
    weave arguments (segments.modifyHead (c :: ·)) = c :: weave arguments segments := by
  obtain ⟨first, others, rfl⟩ := List.exists_cons_of_ne_nil h
  simp [weave]

end Weave

/-- Filling a template puts the arguments between its segments. -/
theorem fillChars_eq_weave (template : List Char) (arguments : List (List Char)) :
    fillChars template arguments = weave arguments (segmentsOf template) := by
  induction template using cut_induction generalizing arguments with
  | nil => simp [fillChars, segmentsOf, weave]
  | gap rest ih =>
      cases arguments with
      | nil => rw [fillChars_nil, weave_nil, intercalate_segmentsOf]
      | cons argument arguments =>
          obtain ⟨first, others, hrest⟩ := exists_segmentsOf_eq_cons rest
          rw [fillChars, ih, segmentsOf, hrest, weave_cons_cons, List.nil_append]
  | cons c rest hc ih =>
      rw [fillChars_cons hc, ih, segmentsOf_cons hc, weave_modifyHead arguments c (segmentsOf_ne_nil rest)]

/-- The template that is joined from texts. -/
def joined (segments : List String) : String := "%s".intercalate segments

theorem toList_joined (segments : List String) :
    (joined segments).toList = placeholder.intercalate (segments.map String.toList) :=
  String.toList_intercalate

theorem joined_map_ofList_segmentsOf (template : String) :
    joined ((segmentsOf template.toList).map String.ofList) = template := by
  have htexts : ((segmentsOf template.toList).map String.ofList).map String.toList =
      segmentsOf template.toList := by simp
  rw [← String.toList_inj, toList_joined, htexts, intercalate_segmentsOf]

/-- Plain texts are the segments of the template that is joined from them. -/
theorem map_toList_eq_segmentsOf_joined {segments : List String} (hne : segments ≠ [])
    (hplain : ∀ segment ∈ segments, IsPlain segment.toList) :
    segments.map String.toList = segmentsOf (joined segments).toList := by
  rw [toList_joined, segmentsOf_intercalate (by simpa using hne) (by simpa using hplain)]

/-- What stands in a gap between segments: the argument of the same number, or a placeholder. -/
def gapText (arguments : List String) (gap : Nat) : String := arguments.getD gap "%s"

theorem toList_gapText (arguments : List String) (gap : Nat) :
    (gapText arguments gap).toList = (arguments.map String.toList).getD gap placeholder :=
  (List.getD_map (arguments) "%s" String.toList).symm

/-- Filling a template that is joined from plain texts puts a text into each gap between them. -/
theorem fill_joined {first : String} {others : List String}
    (hplain : ∀ segment ∈ first :: others, IsPlain segment.toList) (arguments : List String) :
    fill (joined (first :: others)) arguments =
      first ++ String.join (others.mapIdx fun gap segment => gapText arguments gap ++ segment) := by
  have hsegments := map_toList_eq_segmentsOf_joined (List.cons_ne_nil first others) hplain
  have htexts : (others.mapIdx fun gap segment => gapText arguments gap ++ segment).map
      String.toList = (others.map String.toList).mapIdx fun gap segment =>
        (arguments.map String.toList).getD gap placeholder ++ segment := by
    refine List.ext_getElem? fun gap => ?_
    simp only [List.getElem?_map, List.getElem?_mapIdx, Option.map_map, Function.comp_def,
      String.toList_append, toList_gapText]
  rw [fill, fillChars_eq_weave, ← hsegments, List.map_cons, weave, ← htexts, ← String.toList_inj,
    String.toList_ofList, String.toList_append, String.toList_join, List.flatMap_def]

/-- Every template is joined from plain texts in exactly one way.  Filling it keeps these texts in
order and puts the arguments into the gaps one by one, as they are; the gaps beyond the arguments
keep their placeholders, and the arguments beyond the gaps are left out. -/
theorem fill_of_segments :
    (∀ template : String, ∃! segments : List String, segments ≠ [] ∧
      (∀ segment ∈ segments, IsPlain segment.toList) ∧ joined segments = template) ∧
    ∀ (first : String) (others arguments : List String),
      (∀ segment ∈ first :: others, IsPlain segment.toList) →
      fill (joined (first :: others)) arguments =
        first ++ String.join (others.mapIdx fun gap segment => gapText arguments gap ++ segment) := by
  refine ⟨fun template => ⟨(segmentsOf template.toList).map String.ofList, ⟨?_, ?_, ?_⟩, ?_⟩,
    fun first others arguments hplain => fill_joined hplain arguments⟩
  · simpa using segmentsOf_ne_nil template.toList
  · simpa using isPlain_of_mem_segmentsOf template.toList
  · exact joined_map_ofList_segmentsOf template
  · rintro segments ⟨hne, hplain, rfl⟩
    rw [← map_toList_eq_segmentsOf_joined hne hplain]
    simp

/-- Percent signs at the borders of segments and arguments make no placeholders. -/
theorem fill_of_percentSigns :
    joined ["100%", "sold, ", "s", "%"] = "100%%ssold, %ss%s%" ∧
      fill "100%%ssold, %ss%s%" ["%", "%s"] = "100%%sold, %ss%s%" := by
  have hplain : ∀ segment ∈ ["100%", "sold, ", "s", "%"], IsPlain segment.toList := by decide
  exact ⟨by decide, fill_of_segments.2 "100%" ["sold, ", "s", "%"] ["%", "%s"] hplain⟩

end FormRules.Template
