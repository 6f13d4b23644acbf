/-
Reading a text by a format.

A text is read along words that the tokens of the format spell one after the other and that make it up
from beginning to end.  If there are such words some of them are found.
-/
import FormRules.Proofs.Date.Spelling

namespace FormRules.Date

/-- What a reading becomes along words that some tokens spell. -/
def Reading.along : List Token → List (List Char) → Reading → Reading
  | token :: tokens, word :: words, reading => along tokens words (token.take word reading)
  | _, _, reading => reading

/-- Words that some tokens spell one after the other. -/
def SpelledBy (tokens : List Token) (words : List (List Char)) : Prop :=
  List.Forall₂ Token.Spells tokens words

namespace Partial

theorem mem_of_mem_preferred {states : List Partial} {state : Partial}
    (h : state ∈ preferred states) : state ∈ states := by
  induction states with
  | nil => exact h
  | cons first others ih =>
      rcases List.mem_cons.mp h with rfl | hother
      · exact List.mem_cons_self
      · exact List.mem_cons_of_mem first (ih (List.mem_of_mem_filter hother))

/-- Of the states that leave the same rest one is kept. -/
theorem exists_mem_preferred {states : List Partial} {state : Partial} (h : state ∈ states) :
    ∃ kept ∈ preferred states, kept.rest = state.rest := by
  induction states with
  | nil => cases h
  | cons first others ih =>
      by_cases hsame : first.rest = state.rest
      · exact ⟨first, List.mem_cons_self, hsame⟩
      · rcases List.mem_cons.mp h with rfl | hother
        · exact absurd rfl hsame
        · obtain ⟨kept, hkept, hrest⟩ := ih hother
          refine ⟨kept, List.mem_cons_of_mem first (List.mem_filter.mpr ⟨hkept, ?_⟩), hrest⟩
          simpa [hrest] using fun heq => hsame heq.symm

end Partial

namespace Format

theorem run_cons (token : Token) (tokens : List Token) (states : List Partial) :
    run (token :: tokens) states =
      run tokens (Partial.preferred (states.flatMap (Partial.step token))) := rfl

/-- Each state that a run comes to has read words of its tokens. -/
theorem exists_words_of_mem_run {tokens : List Token} {states : List Partial} {state : Partial}
    (h : state ∈ run tokens states) :
    ∃ start ∈ states, ∃ words, SpelledBy tokens words ∧
      start.rest = words.flatten ++ state.rest ∧
      state.reading = Reading.along tokens words start.reading := by
  induction tokens generalizing states with
  | nil => exact ⟨state, h, [], .nil, rfl, rfl⟩
  | cons token tokens ih =>
      obtain ⟨next, hnext, words, hwords, hrest, hreading⟩ := ih h
      obtain ⟨start, hstart, hstep⟩ :=
        List.mem_flatMap.mp (Partial.mem_of_mem_preferred hnext)
      obtain ⟨word, hword, htext, htaken⟩ := (Partial.mem_step_iff token start next).mp hstep
      refine ⟨start, hstart, word :: words, .cons hword hwords, ?_, ?_⟩
      · rw [htext, hrest, List.flatten_cons, List.append_assoc]
      · rw [hreading, htaken]
        rfl

/-- A run comes to the rest that any words of its tokens leave. -/
theorem exists_mem_run {tokens : List Token} {words : List (List Char)}
    (hwords : SpelledBy tokens words) {states : List Partial} {start : Partial}
    (hstart : start ∈ states) {rest : List Char} (htext : start.rest = words.flatten ++ rest) :
    ∃ state ∈ run tokens states, state.rest = rest := by
  induction hwords generalizing states start with
  | nil => exact ⟨start, hstart, htext⟩
  | @cons token word tokens words hword _ ih =>
      rw [List.flatten_cons, List.append_assoc] at htext
      have hstep : ⟨token.take word start.reading, words.flatten ++ rest⟩ ∈
          Partial.step token start :=
        (Partial.mem_step_iff token start _).mpr ⟨word, hword, htext, rfl⟩
      -- The state that goes on may have been read along other words, but leaves the same rest.
      obtain ⟨kept, hkept, hrest⟩ :=
        Partial.exists_mem_preferred (List.mem_flatMap.mpr ⟨start, hstart, hstep⟩)
      rw [run_cons]
      exact ih hkept hrest

/-- A text is read along some of the words that make it up, if there are any. -/
theorem parse?_cases (format : Format) (text : String) :
    (∃ words, SpelledBy format.tokens words ∧ words.flatten = text.toList ∧
      format.parse? text = (Reading.along format.tokens words {}).toDateTime?) ∨
    (format.parse? text = none ∧
      ∀ words, SpelledBy format.tokens words → words.flatten ≠ text.toList) := by
  unfold parse?
  cases hfound : (run format.tokens [⟨{}, text.toList⟩]).find? fun state => state.rest.isEmpty with
  | some state =>
      left
      have hend : state.rest = [] := by simpa using List.find?_some hfound
      obtain ⟨start, hstart, words, hwords, htext, hreading⟩ :=
        exists_words_of_mem_run (List.mem_of_find?_eq_some hfound)
      obtain rfl := List.mem_singleton.mp hstart
      rw [hend, List.append_nil] at htext
      exact ⟨words, hwords, htext.symm, congrArg Reading.toDateTime? hreading⟩
  | none =>
      right
      refine ⟨rfl, fun words hwords htext => ?_⟩
      let start : Partial := ⟨{}, text.toList⟩
      have hrest : start.rest = words.flatten ++ [] := by rw [List.append_nil, htext]
      obtain ⟨state, hstate, hend⟩ := exists_mem_run hwords (List.mem_singleton_self start) hrest
      have hnot := List.find?_eq_none.mp hfound state hstate
      simp [hend] at hnot

end Format

end FormRules.Date
