/-
The words that the tokens of a format spell.

A field spells words of digits, one for each digit of a spelling, and a literal spells itself.  To read
a token off the front of a text is to find one of its words there.
-/
import FormRules.Proofs.Date.Digits
import Mathlib.Data.List.Forall2

namespace FormRules.Date

/-- A character is a digit within the bounds that a spelling gives. -/
def Fits (bounds : Nat × Nat) (c : Char) : Prop :=
  Text.isAsciiDigit c = true ∧ bounds.1 ≤ c.toNat - '0'.toNat ∧ c.toNat - '0'.toNat ≤ bounds.2

/-- A word has one fitting digit for each digit of a spelling. -/
def Spelled (spelling : List (Nat × Nat)) (word : List Char) : Prop :=
  List.Forall₂ Fits spelling word

/-- Reading a spelling off the front of a text finds a word of it. -/
theorem spelling?_eq_some_iff (spelling : List (Nat × Nat)) (start : Nat) (text : List Char)
    (n : Nat) (rest : List Char) :
    spelling? spelling start text = some (n, rest) ↔
      ∃ word, Spelled spelling word ∧ text = word ++ rest ∧ Nat.ofDigitChars 10 word start = n := by
  unfold Spelled
  induction spelling generalizing start text with
  | nil =>
      simp only [spelling?, Option.some.injEq, Prod.mk.injEq, List.forall₂_nil_left_iff,
        exists_eq_left, List.nil_append, Nat.ofDigitChars_nil]
      exact and_comm
  | cons bounds spelling ih =>
      cases text with
      | nil => simp [spelling?]
      | cons c text =>
          have hfits : (Text.isAsciiDigit c ∧ bounds.1 ≤ c.toNat - '0'.toNat ∧
              c.toNat - '0'.toNat ≤ bounds.2) ↔ Fits bounds c := Iff.rfl
          simp only [spelling?, hfits, Option.ite_none_right_eq_some, ih]
          constructor
          · rintro ⟨hc, word, hword, rfl, rfl⟩
            refine ⟨c :: word, .cons hc hword, rfl, ?_⟩
            rw [Nat.ofDigitChars_cons, Nat.mul_comm]
          · rintro ⟨word, hword, htext, rfl⟩
            cases hword with
            | cons hd hword =>
                obtain ⟨rfl, rfl⟩ := List.cons.inj htext
                refine ⟨hd, _, hword, rfl, ?_⟩
                rw [Nat.ofDigitChars_cons, Nat.mul_comm]

instance (spelling : List (Nat × Nat)) (word : List Char) : Decidable (Spelled spelling word) :=
  decidable_of_iff ((spelling? spelling 0 word).map Prod.snd = some []) <| by
    simp [spelling?_eq_some_iff]

namespace Spelled

variable {spelling : List (Nat × Nat)} {word : List Char}

theorem length_eq (h : Spelled spelling word) : word.length = spelling.length :=
  (List.Forall₂.length_eq h).symm

theorem isAsciiDigit (h : Spelled spelling word) : ∀ c ∈ word, Text.isAsciiDigit c = true := by
  induction h with
  | nil => simp
  | cons hc _ ih => exact List.forall_mem_cons.mpr ⟨hc.1, ih⟩

/-- Where the first digit has to be at least one the word does not begin with a zero. -/
theorem head_ne_zero {bounds : Nat × Nat} {c : Char} (h : Spelled (bounds :: spelling) (c :: word))
    (hbounds : 1 ≤ bounds.1) : c ≠ '0' := by
  rintro rfl
  cases h with
  | cons hc _ => exact absurd (Nat.le_trans hbounds hc.2.1) (by decide)

end Spelled

/-- Of the spellings the first is the shortest, and longer ones do not begin with a zero. -/
def Spellings.IsCanonical (spellings : Spellings) : Prop :=
  ∃ shortest ∈ spellings.head?, 0 < shortest.length ∧ ∀ spelling ∈ spellings,
    spelling.length = shortest.length ∨
      shortest.length < spelling.length ∧ ∀ bounds ∈ spelling.head?, 1 ≤ bounds.1

instance (spellings : Spellings) : Decidable spellings.IsCanonical := by
  unfold Spellings.IsCanonical
  infer_instance

/-- The width to which the number of a field is padded. -/
def Spellings.width (spellings : Spellings) : Nat := (spellings.head?.map List.length).getD 0

/-- Canonical spellings leave one word for a number, the one that is written for it. -/
theorem Spellings.IsCanonical.paddedDigits_eq {spellings : Spellings} (h : spellings.IsCanonical)
    {spelling : List (Nat × Nat)} (hmem : spelling ∈ spellings) {word : List Char}
    (hword : Spelled spelling word) :
    paddedDigits spellings.width (Nat.ofDigitChars 10 word 0) = word := by
  obtain ⟨shortest, hshortest, hpos, hall⟩ := h
  have hwidth : spellings.width = shortest.length := by
    rw [Spellings.width, hshortest, Option.map_some, Option.getD_some]
  have hlength := hword.length_eq
  rw [hwidth]
  rcases hall spelling hmem with heq | ⟨hlt, hhead⟩
  · have hne : word ≠ [] := List.ne_nil_of_length_pos (by omega)
    rw [← heq, ← hlength, paddedDigits_ofDigitChars hne hword.isAsciiDigit]
  · cases hword with
    | nil => simp at hlt
    | @cons bounds c spelling word hc hrest =>
        have hspelled : Spelled (bounds :: spelling) (c :: word) := .cons hc hrest
        have hdigits := toDigits_of_head_ne_zero hspelled.isAsciiDigit
          (hspelled.head_ne_zero (hhead bounds rfl))
        rw [paddedDigits_of_le, hdigits]
        rw [hdigits, hlength]
        exact Nat.le_of_lt hlt

namespace Token

/-- A word that a token spells. -/
def Spells : Token → List Char → Prop
  | .field _ _ spellings, word => ∃ spelling ∈ spellings, Spelled spelling word
  | .literal c, word => word = [c]

instance : ∀ (token : Token) (word : List Char), Decidable (token.Spells word)
  | .field _ _ _, _ => inferInstanceAs (Decidable (∃ _ ∈ _, _))
  | .literal _, _ => inferInstanceAs (Decidable (_ = _))

/-- What a reading becomes when a token has been read from a word. -/
def take (token : Token) (word : List Char) (reading : Reading) : Reading :=
  match token with
  | .field _ component _ => reading.set component (Nat.ofDigitChars 10 word 0)
  | .literal _ => reading

end Token

/-- One step reads one of the words of a token. -/
theorem Partial.mem_step_iff (token : Token) (state next : Partial) :
    next ∈ Partial.step token state ↔
      ∃ word, token.Spells word ∧ state.rest = word ++ next.rest ∧
        next.reading = token.take word state.reading := by
  obtain ⟨reading, rest⟩ := next
  cases token with
  | field letter component spellings =>
      simp only [Partial.step, List.mem_filterMap, Option.map_eq_some_iff, Prod.exists,
        spelling?_eq_some_iff, Partial.mk.injEq, Token.Spells, Token.take]
      constructor
      · rintro ⟨spelling, hmem, n, after, ⟨word, hword, htext, rfl⟩, rfl, rfl⟩
        exact ⟨word, ⟨spelling, hmem, hword⟩, htext, rfl⟩
      · rintro ⟨word, ⟨spelling, hmem, hword⟩, htext, rfl⟩
        exact ⟨spelling, hmem, _, _, ⟨word, hword, htext, rfl⟩, rfl, rfl⟩
  | literal c =>
      cases hrest : state.rest with
      | nil => simp [Partial.step, hrest, Token.Spells]
      | cons d after =>
          simp only [Partial.step, hrest, Token.Spells, Token.take, exists_eq_left,
            List.singleton_append, List.cons.injEq]
          by_cases hd : d = c
          · simp only [hd, ↓reduceIte, List.mem_singleton, Partial.mk.injEq, true_and]
            rw [eq_comm (a := rest), and_comm]
          · simp [hd]

end FormRules.Date
