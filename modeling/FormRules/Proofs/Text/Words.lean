/-
The words of a text.

A text that is put together from words with gaps of blanks between them has exactly these words, whatever
blanks stand in front and behind, and every text is put together in this way.
-/
import FormRules.Text.Blank

namespace FormRules.Text

/-- One or more characters, none of them blank. -/
def IsWord (word : List Char) : Prop := word ≠ [] ∧ ∀ c ∈ word, isBlank c = false

/-- One or more blanks. -/
def IsGap (gap : List Char) : Prop := gap ≠ [] ∧ ∀ c ∈ gap, isBlank c = true

instance (word : List Char) : Decidable (IsWord word) :=
  decidable_of_iff (word ≠ [] ∧ word.any isBlank = false) (by simp [IsWord])

instance (gap : List Char) : Decidable (IsGap gap) :=
  decidable_of_iff (gap ≠ [] ∧ gap.all isBlank = true) (and_congr_right' List.all_eq_true)

/-- Words with a gap between each and the next. -/
inductive Joins : List (List Char) → List Char → Prop
  | none : Joins [] []
  | last {word : List Char} : IsWord word → Joins [word] word
  | next {word gap following text : List Char} {others : List (List Char)} : IsWord word → IsGap gap →
      Joins (following :: others) text → Joins (word :: following :: others) (word ++ (gap ++ text))

/-- Words with a gap between each and the next, and possibly blanks in front and behind. -/
def Spaces (list : List (List Char)) (text : List Char) : Prop :=
  ∃ before body after, allBlank before = true ∧ allBlank after = true ∧ Joins list body ∧
    text = before ++ (body ++ after)

/-- Words with one gap over and over between them. -/
theorem joins_intercalate {gap : List Char} (hgap : IsGap gap) {list : List (List Char)}
    (hwords : ∀ word ∈ list, IsWord word) : Joins list (gap.intercalate list) := by
  induction list with
  | nil => exact .none
  | cons word others ih =>
      rw [List.forall_mem_cons] at hwords
      cases others with
      | nil =>
          rw [List.intercalate_singleton]
          exact .last hwords.1
      | cons following others =>
          rw [List.intercalate_cons_cons, List.append_assoc]
          exact .next hwords.1 hgap (ih hwords.2)

/-- A blank divides the words of a text. -/
theorem words_append_cons {c : Char} (hc : isBlank c = true) (before after : List Char) :
    words (before ++ c :: after) = words before ++ words after := by
  rw [words, pieces_eq_splitOnP, List.splitOnP_append_cons before after hc, List.filter_append,
    ← pieces_eq_splitOnP, ← pieces_eq_splitOnP, words, words]

theorem words_nil : words [] = [] := rfl

theorem words_of_isWord {word : List Char} (h : IsWord word) : words word = [word] := by
  rw [words, pieces_of_forall_not isBlank word h.2]
  simp [h.1]

/-- Blanks in front of a text belong to no word. -/
theorem words_append_of_blank {before : List Char} (h : ∀ c ∈ before, isBlank c = true)
    (text : List Char) : words (before ++ text) = words text := by
  induction before with
  | nil => rfl
  | cons c before ih =>
      rw [List.forall_mem_cons] at h
      have hfront := words_append_cons h.1 [] (before ++ text)
      rw [List.nil_append, words_nil, List.nil_append] at hfront
      rw [List.cons_append, hfront, ih h.2]

/-- A gap divides the words of a text. -/
theorem words_append_gap {gap : List Char} (h : IsGap gap) (before after : List Char) :
    words (before ++ (gap ++ after)) = words before ++ words after := by
  obtain ⟨c, rest, rfl⟩ := List.exists_cons_of_ne_nil h.1
  obtain ⟨hc, hrest⟩ := List.forall_mem_cons.mp h.2
  rw [List.cons_append, words_append_cons hc, words_append_of_blank hrest]

theorem words_of_joins {list : List (List Char)} {text : List Char} (h : Joins list text) :
    words text = list := by
  induction h with
  | none => rfl
  | last hword => exact words_of_isWord hword
  | next hword hgap _ ih => rw [words_append_gap hgap, words_of_isWord hword, ih, List.singleton_append]

/-- A text has the words that it is put together from. -/
theorem words_of_spaces {list : List (List Char)} {text : List Char} (h : Spaces list text) :
    words text = list := by
  obtain ⟨before, body, after, hbefore, hafter, hjoins, rfl⟩ := h
  rw [words_append_of_blank (List.all_eq_true.mp hbefore), ← words_of_joins hjoins]
  cases after with
  | nil => rw [List.append_nil]
  | cons c rest =>
      have hblank := List.all_eq_true.mp hafter
      have hgap : IsGap (c :: rest) := ⟨List.cons_ne_nil c rest, hblank⟩
      have hsplit := words_append_gap hgap body []
      rw [List.append_nil] at hsplit
      rw [hsplit, words_nil, List.append_nil]

theorem isWord_singleton {c : Char} (hc : isBlank c = false) : IsWord [c] :=
  ⟨List.cons_ne_nil c [], List.forall_mem_singleton.mpr hc⟩

theorem IsWord.cons {c : Char} {word : List Char} (hc : isBlank c = false) (h : IsWord word) :
    IsWord (c :: word) :=
  ⟨List.cons_ne_nil c word, List.forall_mem_cons.mpr ⟨hc, h.2⟩⟩

/-- In front of joined words a character that is not blank makes the first word longer, or is the only
word. -/
theorem Joins.exists_cons {c : Char} (hc : isBlank c = false) {list : List (List Char)}
    {text : List Char} (h : Joins list text) : ∃ longer, Joins longer (c :: text) := by
  cases h with
  | none => exact ⟨[[c]], .last (isWord_singleton hc)⟩
  | last hword => exact ⟨_, .last (hword.cons hc)⟩
  | next hword hgap hrest => exact ⟨_, .next (hword.cons hc) hgap hrest⟩

theorem Spaces.exists_cons {c : Char} (hc : isBlank c = false) {list : List (List Char)}
    {text : List Char} (h : Spaces list text) : ∃ longer, Spaces longer (c :: text) := by
  obtain ⟨before, body, after, hbefore, hafter, hjoins, rfl⟩ := h
  cases before with
  | nil =>
      obtain ⟨longer, hlonger⟩ := hjoins.exists_cons hc
      exact ⟨longer, [], c :: body, after, rfl, hafter, hlonger, rfl⟩
  | cons b before =>
      -- The blanks in front become a gap, unless no word follows them.
      have hword := isWord_singleton hc
      have hgap : IsGap (b :: before) := ⟨List.cons_ne_nil b before, List.all_eq_true.mp hbefore⟩
      cases hjoins with
      | none =>
          have hblank : allBlank (b :: before ++ after) = true := by
            rw [allBlank, List.all_append, Bool.and_eq_true]
            exact ⟨hbefore, hafter⟩
          exact ⟨[[c]], [], [c], b :: before ++ after, rfl, hblank, .last hword, rfl⟩
      | last hlast =>
          exact ⟨_, [], _, after, rfl, hafter, .next hword hgap (.last hlast), by simp⟩
      | next hnext hbehind hrest =>
          exact ⟨_, [], _, after, rfl, hafter, .next hword hgap (.next hnext hbehind hrest), by simp⟩

theorem exists_spaces (text : List Char) : ∃ list, Spaces list text := by
  induction text with
  | nil => exact ⟨[], [], [], [], rfl, rfl, .none, rfl⟩
  | cons c rest ih =>
      obtain ⟨list, hspaces⟩ := ih
      by_cases hc : isBlank c = true
      · obtain ⟨before, body, after, hbefore, hafter, hjoins, rfl⟩ := hspaces
        have hblank : allBlank (c :: before) = true := List.all_eq_true.mpr
          (List.forall_mem_cons.mpr ⟨hc, List.all_eq_true.mp hbefore⟩)
        exact ⟨list, c :: before, body, after, hblank, hafter, hjoins, rfl⟩
      · exact hspaces.exists_cons (Bool.of_not_eq_true hc)

/-- Every text is put together from its words, and from no other ones. -/
theorem spaces_iff {list : List (List Char)} {text : List Char} :
    Spaces list text ↔ words text = list := by
  constructor
  · exact words_of_spaces
  · rintro rfl
    obtain ⟨list, hspaces⟩ := exists_spaces text
    rwa [words_of_spaces hspaces]

end FormRules.Text
