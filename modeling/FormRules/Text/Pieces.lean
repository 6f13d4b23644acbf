/-
Cutting a text at the characters of a class, or at the last occurrence of one character.
-/
namespace FormRules.Text

/-- The stretches between the marks of a text: one more than there are marks, empty ones
included. -/
def pieces (isMark : Char → Bool) : List Char → List (List Char)
  | [] => [[]]
  | c :: rest =>
      if isMark c then [] :: pieces isMark rest
      else match pieces isMark rest with
        | [] => [[c]]
        | piece :: others => (c :: piece) :: others

/-- What stands before and after the last occurrence of a mark. -/
def cutAtLast (mark : Char) : List Char → Option (List Char × List Char)
  | [] => none
  | c :: rest =>
      match cutAtLast mark rest with
      | some (before, after) => some (c :: before, after)
      | none => if c = mark then some ([], rest) else none

/-- Whether `part` stands somewhere in a text. -/
def occursIn (part : List Char) : List Char → Bool
  | [] => part.isEmpty
  | c :: rest => part.isPrefixOf (c :: rest) || occursIn part rest

/-- The pieces of a text are the parts of the list that the library splits it into. -/
theorem pieces_eq_splitOnP (isMark : Char → Bool) (text : List Char) :
    pieces isMark text = text.splitOnP isMark := by
  induction text with
  | nil => rfl
  | cons c rest ih =>
      obtain ⟨piece, others, hrest⟩ := List.exists_cons_of_ne_nil (List.splitOnP_ne_nil isMark rest)
      rw [List.splitOnP_cons_eq_if_modifyHead, pieces, ih, hrest]
      rfl

theorem pieces_ne_nil (isMark : Char → Bool) (text : List Char) : pieces isMark text ≠ [] := by
  rw [pieces_eq_splitOnP]
  exact List.splitOnP_ne_nil isMark text

/-- A text with no mark is a single piece. -/
theorem pieces_of_forall_not (isMark : Char → Bool) (text : List Char)
    (h : ∀ c ∈ text, isMark c = false) : pieces isMark text = [text] := by
  rw [pieces_eq_splitOnP, List.splitOnP_eq_singleton h]

/-- Every character of a text is a mark or stands in one of its pieces. -/
theorem isMark_or_mem_pieces (isMark : Char → Bool) {text : List Char} {c : Char} (hc : c ∈ text) :
    isMark c = true ∨ ∃ piece ∈ pieces isMark text, c ∈ piece := by
  induction text with
  | nil => simp at hc
  | cons d rest ih =>
      by_cases hmark : isMark d
      · rcases List.mem_cons.mp hc with rfl | hrest
        · exact Or.inl hmark
        · refine (ih hrest).imp_right fun ⟨piece, hpiece, hmem⟩ => ⟨piece, ?_, hmem⟩
          simp [pieces, hmark, hpiece]
      · cases hpieces : pieces isMark rest with
        | nil => exact absurd hpieces (pieces_ne_nil isMark rest)
        | cons first others =>
            have hcons : pieces isMark (d :: rest) = (d :: first) :: others := by
              simp [pieces, hmark, hpieces]
            rw [hcons]
            rw [hpieces] at ih
            rcases List.mem_cons.mp hc with rfl | hrest
            · exact Or.inr ⟨_, List.mem_cons_self, List.mem_cons_self⟩
            · refine (ih hrest).imp_right fun ⟨piece, hpiece, hmem⟩ => ?_
              rcases List.mem_cons.mp hpiece with rfl | hother
              · exact ⟨_, List.mem_cons_self, List.mem_cons_of_mem d hmem⟩
              · exact ⟨piece, List.mem_cons_of_mem _ hother, hmem⟩

theorem cutAtLast_eq_none_iff {mark : Char} {text : List Char} :
    cutAtLast mark text = none ↔ mark ∉ text := by
  induction text with
  | nil => simp [cutAtLast]
  | cons c rest ih =>
      cases hrest : cutAtLast mark rest with
      | some cut =>
          have hmem : mark ∈ rest :=
            Classical.byContradiction fun hnot => by simp [ih.mpr hnot] at hrest
          simp [cutAtLast, hrest, hmem]
      | none =>
          have hnot : mark ∉ rest := ih.mp hrest
          by_cases hc : c = mark
          · simp [cutAtLast, hrest, hc]
          · simp [cutAtLast, hrest, hc, hnot, Ne.symm hc]

/-- A text is cut where no further mark comes. -/
theorem cutAtLast_append {mark : Char} {before after : List Char} (h : mark ∉ after) :
    cutAtLast mark (before ++ mark :: after) = some (before, after) := by
  induction before with
  | nil => simp [cutAtLast, cutAtLast_eq_none_iff.mpr h]
  | cons c before ih => simp [cutAtLast, ih]

theorem cutAtLast_eq_some {mark : Char} {text before after : List Char}
    (h : cutAtLast mark text = some (before, after)) : text = before ++ mark :: after := by
  induction text generalizing before with
  | nil => simp [cutAtLast] at h
  | cons c rest ih =>
      cases hrest : cutAtLast mark rest with
      | some cut =>
          simp only [cutAtLast, hrest, Option.some.injEq, Prod.mk.injEq] at h
          obtain ⟨rfl, rfl⟩ := h
          simp [ih hrest]
      | none =>
          simp only [cutAtLast, hrest] at h
          split at h <;> simp_all

end FormRules.Text
