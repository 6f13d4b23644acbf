/-
Texts as parts with marks between them.

A text is put together from its pieces with the marks between them, and pieces without marks are found
again in what is put together from them.
-/
import FormRules.Text.Pieces
import Mathlib.Data.List.Basic

namespace FormRules.Text

variable {separator first last text : List Char} {parts : List (List Char)} {mark : Char}

/-- Parts with a separator between them: the first, and each other with the separator in front. -/
theorem intercalate_cons :
    separator.intercalate (first :: parts) = first ++ parts.flatMap fun part => separator ++ part := by
  induction parts generalizing first with
  | nil => simp [List.intercalate_singleton]
  | cons second parts ih =>
      rw [List.intercalate_cons_cons, ih, List.flatMap_cons, List.append_assoc, List.append_assoc]

/-- Parts with a separator between them: each but the last with the separator behind, and the last. -/
theorem intercalate_concat :
    separator.intercalate (parts ++ [last]) = (parts.flatMap fun part => part ++ separator) ++ last := by
  induction parts with
  | nil => simp [List.intercalate_singleton]
  | cons first parts ih =>
      cases parts with
      | nil => simp [List.intercalate_cons_cons, List.intercalate_singleton]
      | cons second parts =>
          rw [List.cons_append, List.cons_append, List.intercalate_cons_cons, ← List.cons_append, ih]
          simp only [List.flatMap_cons, List.append_assoc]

theorem intercalate_pieces : [mark].intercalate (pieces (· == mark) text) = text := by
  rw [pieces_eq_splitOnP, ← List.splitOn_eq_splitOnP, List.intercalate_splitOn]

/-- Between the marks of a text stand given parts if it is put together from them. -/
theorem pieces_eq_iff (hne : parts ≠ []) (hparts : ∀ part ∈ parts, mark ∉ part) :
    pieces (· == mark) text = parts ↔ text = [mark].intercalate parts := by
  have hsplit : pieces (· == mark) text = text.splitOn mark := by
    rw [pieces_eq_splitOnP, List.splitOn_eq_splitOnP]
  rw [hsplit]
  constructor
  · rintro rfl
    exact (List.intercalate_splitOn mark).symm
  · rintro rfl
    exact List.splitOn_intercalate mark hparts hne

end FormRules.Text
