/-
Blanks at the ends of a text.

A text begins and ends with its blanks, and what trimming leaves stands between them.  No digit of any
script is blank, so nothing that is written in digits reaches into the blanks behind it.
-/
import FormRules.Text.Blank
import FormRules.Text.Digit
import Mathlib.Data.List.TakeWhile

namespace FormRules

namespace Text

/-- No digit of any script is blank: the ranges of both lie apart. -/
theorem isBlank_of_isDecimalDigit {c : Char} (h : isDecimalDigit c = true) : isBlank c = false := by
  have hapart : ∀ first ∈ digitZeros, ∀ range ∈ blankRanges,
      first + 9 < range.1 ∨ range.2 < first := by
    decide
  obtain ⟨first, hfirst, hdigit⟩ := List.any_eq_true.mp h
  rw [decide_eq_true_eq] at hdigit
  refine List.any_eq_false.mpr fun range hrange => ?_
  rw [decide_eq_true_eq]
  have := hapart first hfirst range hrange
  omega

theorem isBlank_of_isAsciiDigit {c : Char} (h : isAsciiDigit c = true) : isBlank c = false :=
  isBlank_of_isDecimalDigit (isDecimalDigit_of_isAsciiDigit h)

/-- Behind the leading blanks stands the trimmed text with the trailing ones. -/
theorem exists_trim_append (text : List Char) :
    ∃ after, trimStart text = trim text ++ after ∧ ∀ c ∈ after, isBlank c = true := by
  refine ⟨((trimStart text).reverse.takeWhile isBlank).reverse, ?_, ?_⟩
  · rw [trim, trimEnd, ← List.reverse_append, List.takeWhile_append_dropWhile, List.reverse_reverse]
  · exact fun c hc => List.mem_takeWhile_imp (List.mem_reverse.mp hc)

/-- Blanks around a text without blanks are all that trimming takes away. -/
theorem trim_append {before body after : List Char} (hbefore : ∀ c ∈ before, isBlank c = true)
    (hbody : ∀ c ∈ body, isBlank c = false) (hafter : ∀ c ∈ after, isBlank c = true) :
    trim (before ++ (body ++ after)) = body := by
  have hdrop : ∀ {text : List Char}, (∀ c ∈ text, isBlank c = false) → text.dropWhile isBlank = text :=
    fun htext => List.dropWhile_eq_self_iff.mpr fun hlength => by simp [htext]
  cases body with
  | nil =>
      have hblank : ∀ c ∈ before ++ ([] ++ after), isBlank c = true :=
        List.forall_mem_append.mpr ⟨hbefore, hafter⟩
      rw [trim, (trimStart_eq_nil_iff _).mpr (List.all_eq_true.mpr hblank)]
      rfl
  | cons c rest =>
      have hstart : trimStart (before ++ (c :: rest ++ after)) = c :: rest ++ after := by
        rw [trimStart, List.dropWhile_append_of_pos hbefore, List.cons_append,
          List.dropWhile_cons_of_neg (by simp [hbody])]
      rw [trim, hstart, trimEnd, List.reverse_append,
        List.dropWhile_append_of_pos fun c hc => hafter c (List.mem_reverse.mp hc),
        hdrop fun c hc => hbody c (List.mem_reverse.mp hc), List.reverse_reverse]

theorem trim_of_no_blank {text : List Char} (h : ∀ c ∈ text, isBlank c = false) : trim text = text := by
  have htrim := trim_append (List.forall_mem_nil _) h (List.forall_mem_nil _)
  rwa [List.nil_append, List.append_nil] at htrim

/-- A beginning that holds no blank ends where blanks follow. -/
theorem length_le_of_prefix_append {part text after : List Char} (hpart : ∀ c ∈ part, isBlank c = false)
    (hafter : ∀ c ∈ after, isBlank c = true) (h : part <+: text ++ after) :
    part.length ≤ text.length := by
  by_contra hlong
  obtain ⟨rest, rfl⟩ := List.prefix_of_prefix_length_le (List.prefix_append text after) h (by omega)
  obtain ⟨c, hc⟩ := List.exists_mem_of_ne_nil rest (by rintro rfl; simp at hlong)
  have hblank := hafter c (((List.prefix_append_right_inj text).mp h).subset hc)
  rw [hpart c (List.mem_append_right text hc)] at hblank
  cases hblank

end Text

end FormRules
