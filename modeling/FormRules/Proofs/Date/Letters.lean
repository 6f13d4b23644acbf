/-
The letters of a format.

Of a number every letter spells one word, the one that is written for it.  Padded letters spell words
of one length, so only after an unpadded one can it be open where a word ends.
-/
import FormRules.Proofs.Date.Parts

namespace FormRules.Date

/-- The characters of a format that stand for a part. -/
def letters : List Char := ['Y', 'y', 'm', 'n', 'd', 'j', 'g', 'G', 'h', 'H', 'i', 's']

/-- The letters whose numbers are written without zeros in front. -/
def unpadded : List Char := ['n', 'j', 'g', 'G']

/-- What holds of each of some characters is found by going through them. -/
theorem forall_mem_of_all {chars : List Char} {holds : Char → Prop} [DecidablePred holds]
    (h : (chars.all fun c => decide (holds c)) = true) : ∀ c ∈ chars, holds c := by
  simpa using h

theorem mem_letters_or_literal (c : Char) :
    c ∈ letters ∨ Token.ofChar c = .literal c ∧ Part.ofLetter? c = none := by
  by_cases hletter : c ∈ letters
  · exact Or.inl hletter
  · simp only [letters, List.mem_cons, List.not_mem_nil, or_false, not_or] at hletter
    right
    constructor
    · unfold Token.ofChar
      split <;> simp_all
    · unfold Part.ofLetter?
      split <;> simp_all

theorem ofChar_eq_literal {c : Char} (h : Part.ofLetter? c = none) :
    Token.ofChar c = .literal c := by
  rcases mem_letters_or_literal c with hletter | ⟨hliteral, _⟩
  · have hsome : ∀ letter ∈ letters, Part.ofLetter? letter ≠ none :=
      forall_mem_of_all (by decide)
    exact absurd h (hsome c hletter)
  · exact hliteral

/-- A letter stands for the part that its token gives. -/
theorem part?_ofChar (c : Char) : (Token.ofChar c).part? = Part.ofLetter? c := by
  rcases mem_letters_or_literal c with hletter | ⟨hliteral, hnone⟩
  · have hall : ∀ letter ∈ letters, (Token.ofChar letter).part? = Part.ofLetter? letter :=
      forall_mem_of_all (by decide)
    exact hall c hletter
  · rw [hliteral, hnone]
    rfl

namespace Token

/-- A token whose spellings, if it is a field, leave one word for a number. -/
def IsCanonical : Token → Prop
  | .field _ _ spellings => spellings.IsCanonical
  | .literal _ => True

instance : ∀ token : Token, Decidable token.IsCanonical
  | .field _ _ spellings => inferInstanceAs (Decidable spellings.IsCanonical)
  | .literal _ => inferInstanceAs (Decidable True)

theorem isCanonical_ofChar (c : Char) : (ofChar c).IsCanonical := by
  rcases mem_letters_or_literal c with hletter | ⟨hliteral, _⟩
  · have hall : ∀ letter ∈ letters, (ofChar letter).IsCanonical := forall_mem_of_all (by decide)
    exact hall c hletter
  · rw [hliteral]
    trivial

/-- The part that a token takes from a word is that of a date and time. -/
def Agrees (token : Token) (word : List Char) (d : DateTime) : Prop :=
  ∀ part, token.part? = some part → ∀ reading, (token.take word reading).part? part = some (d.part part)

/-- A word that a token spells is the one that is written for the part it gives. -/
theorem write_eq_of_agrees {token : Token} (hcanonical : token.IsCanonical) {word : List Char}
    (hword : token.Spells word) {d : DateTime} (hagrees : token.Agrees word d) :
    token.write d = word := by
  cases token with
  | literal c => exact hword.symm
  | field letter component spellings =>
      obtain ⟨spelling, hmem, hspelled⟩ := hword
      have htaken := hagrees component.part rfl {}
      rw [take, Reading.part?_set, if_pos rfl, Option.some.injEq] at htaken
      have hnumber : component.of d = Nat.ofDigitChars 10 word 0 := Component.of_eq htaken
      have hwrite : (Token.field letter component spellings).write d =
          paddedDigits spellings.width (component.of d) := rfl
      rw [hwrite, hnumber]
      exact Spellings.IsCanonical.paddedDigits_eq hcanonical hmem hspelled

/-- What is written for a part gives it back. -/
theorem agrees_write {token : Token} {d : DateTime}
    (h : ∀ letter spellings, token = .field letter .shortYear spellings → 1900 ≤ d.year) :
    token.Agrees (token.write d) d := by
  intro part hpart reading
  cases token with
  | literal c => cases hpart
  | field letter component spellings =>
      obtain rfl := Option.some.inj hpart
      have hwrite : (Token.field letter component spellings).write d =
          paddedDigits spellings.width (component.of d) := rfl
      rw [take, Reading.part?_set, if_pos rfl, hwrite, ofDigitChars_paddedDigits,
        Component.number_of]
      rintro rfl
      exact h letter spellings rfl

/-- The spellings of a field; a literal has none. -/
def spellings : Token → Spellings
  | .field _ _ spellings => spellings
  | .literal _ => []

/-- The words of a padded letter are all of one length. -/
theorem length_eq_of_spells {c : Char} (hc : c ∉ unpadded) {word other : List Char}
    (hword : (ofChar c).Spells word) (hother : (ofChar c).Spells other) :
    word.length = other.length := by
  have hall : ∀ letter ∈ letters, letter ∉ unpadded → ∀ a ∈ (ofChar letter).spellings,
      ∀ b ∈ (ofChar letter).spellings, a.length = b.length := forall_mem_of_all (by decide)
  rcases mem_letters_or_literal c with hletter | ⟨hliteral, _⟩
  · have hsame := hall c hletter hc
    cases htoken : ofChar c with
    | literal d =>
        rw [htoken] at hword hother
        exact congrArg List.length (hword.trans hother.symm)
    | field letter component spellings =>
        rw [htoken] at hword hother hsame
        obtain ⟨a, ha, hword⟩ := hword
        obtain ⟨b, hb, hother⟩ := hother
        rw [hword.length_eq, hother.length_eq, hsame a ha b hb]
  · rw [hliteral] at hword hother
    exact congrArg List.length (hword.trans hother.symm)

/-- The words of a letter that stands for a part are digits. -/
theorem isAsciiDigit_of_spells {c : Char} (hc : Part.ofLetter? c ≠ none) {word : List Char}
    (hword : (ofChar c).Spells word) : ∀ d ∈ word, Text.isAsciiDigit d = true := by
  rw [← part?_ofChar] at hc
  cases htoken : ofChar c with
  | literal d =>
      rw [htoken] at hc
      exact absurd rfl hc
  | field letter component spellings =>
      rw [htoken] at hword
      obtain ⟨_, _, hspelled⟩ := hword
      exact hspelled.isAsciiDigit

end Token

/-- Whether a date and time can be written with a letter: years are written with four digits or, in
the twentieth century, with two, and two letters write the hours of half a day. -/
def Expresses (letter : Char) (d : DateTime) : Prop :=
  match letter with
  | 'Y' => d.year ≤ 9999
  | 'y' => 1900 ≤ d.year ∧ d.year ≤ 1999
  | 'g' | 'h' => 1 ≤ d.hour ∧ d.hour ≤ 12
  | _ => True

instance (letter : Char) (d : DateTime) : Decidable (Expresses letter d) := by
  unfold Expresses
  split <;> infer_instance

theorem spelled_replicate {word : List Char} (hword : ∀ c ∈ word, Text.isAsciiDigit c = true) :
    Spelled (List.replicate word.length (0, 9)) word := by
  induction word with
  | nil => exact .nil
  | cons c word ih =>
      rw [List.forall_mem_cons] at hword
      obtain ⟨hlt, _⟩ := digitChar_of_isAsciiDigit hword.1
      exact .cons ⟨hword.1, Nat.zero_le _, Nat.le_of_lt_succ hlt⟩ (ih hword.2)

/-- Digits without bounds spell all numbers of their width. -/
theorem spelled_paddedDigits {width n : Nat} (hwidth : 0 < width) (hn : n < 10 ^ width) :
    Spelled (List.replicate width (0, 9)) (paddedDigits width n) := by
  have hspelled := spelled_replicate fun c (hc : c ∈ paddedDigits width n) =>
    isAsciiDigit_of_mem_paddedDigits hc
  rwa [length_paddedDigits hwidth hn] at hspelled

theorem spells_year {year : Nat} (h : year ≤ 9999) :
    (Token.ofChar 'Y').Spells (paddedDigits 4 year) := by
  have hspelled : Spelled (List.replicate 4 (0, 9)) (paddedDigits 4 year) :=
    spelled_paddedDigits (by decide) (Nat.lt_succ_of_le h)
  exact ⟨_, List.mem_singleton_self _, hspelled⟩

theorem spells_shortYear {year : Nat} (h : year ≤ 99) :
    (Token.ofChar 'y').Spells (paddedDigits 2 year) := by
  have hspelled : Spelled (List.replicate 2 (0, 9)) (paddedDigits 2 year) :=
    spelled_paddedDigits (by decide) (Nat.lt_succ_of_le h)
  exact ⟨_, List.mem_singleton_self _, hspelled⟩

theorem spells_month : ∀ n < 13, 1 ≤ n → (Token.ofChar 'm').Spells (paddedDigits 2 n) ∧
    (Token.ofChar 'n').Spells (paddedDigits 1 n) := by
  decide

theorem spells_day : ∀ n < 32, 1 ≤ n → (Token.ofChar 'd').Spells (paddedDigits 2 n) ∧
    (Token.ofChar 'j').Spells (paddedDigits 1 n) := by
  decide

theorem spells_hour : ∀ n < 24, (Token.ofChar 'H').Spells (paddedDigits 2 n) ∧
    (Token.ofChar 'G').Spells (paddedDigits 1 n) := by
  decide

theorem spells_halfDayHour : ∀ n < 13, 1 ≤ n → (Token.ofChar 'h').Spells (paddedDigits 2 n) ∧
    (Token.ofChar 'g').Spells (paddedDigits 1 n) :=
  spells_month

theorem spells_minute : ∀ n < 60, (Token.ofChar 'i').Spells (paddedDigits 2 n) := by
  decide

theorem month_of_isReal {d : DateTime} (h : d.IsReal) : 1 ≤ d.month ∧ d.month < 13 := by
  by_contra hmonth
  have hdays : DateTime.daysIn d.year d.month = 0 := by
    unfold DateTime.daysIn
    split <;> first | rfl | omega
  have hday := h.2.1
  rw [hdays] at hday
  exact absurd (Nat.le_trans h.1 hday) (by decide)

theorem day_of_isReal {d : DateTime} (h : d.IsReal) : 1 ≤ d.day ∧ d.day < 32 :=
  ⟨h.1, Nat.lt_succ_of_le (Nat.le_trans h.2.1 (DateTime.daysIn_le d.year d.month))⟩

/-- A letter spells what it writes for a date and time that it can express. -/
theorem spells_write (c : Char) {d : DateTime} (hreal : d.IsReal) (hexpresses : Expresses c d) :
    (Token.ofChar c).Spells ((Token.ofChar c).write d) := by
  obtain ⟨hmonth, hmonths⟩ := month_of_isReal hreal
  obtain ⟨hday, hdays⟩ := day_of_isReal hreal
  obtain ⟨_, _, hhours, hminutes, hseconds⟩ := hreal
  rcases mem_letters_or_literal c with hletter | ⟨hliteral, _⟩
  · simp only [letters, List.mem_cons, List.not_mem_nil, or_false] at hletter
    -- One case per letter, in the order of `letters`.
    rcases hletter with rfl | rfl | rfl | rfl | rfl | rfl | rfl | rfl | rfl | rfl | rfl | rfl
    · exact spells_year hexpresses
    · exact spells_shortYear (Nat.sub_le_of_le_add hexpresses.2)
    · exact (spells_month _ hmonths hmonth).1
    · exact (spells_month _ hmonths hmonth).2
    · exact (spells_day _ hdays hday).1
    · exact (spells_day _ hdays hday).2
    · exact (spells_halfDayHour _ (Nat.lt_succ_of_le hexpresses.2) hexpresses.1).2
    · exact (spells_hour _ hhours).2
    · exact (spells_halfDayHour _ (Nat.lt_succ_of_le hexpresses.2) hexpresses.1).1
    · exact (spells_hour _ hhours).1
    · exact spells_minute _ hminutes
    · exact spells_minute _ hseconds
  · rw [hliteral]
    exact rfl

/-- The part that is written with a letter is read back. -/
theorem agrees_write_ofChar (c : Char) {d : DateTime} (hexpresses : Expresses c d) :
    (Token.ofChar c).Agrees ((Token.ofChar c).write d) d := by
  apply Token.agrees_write
  intro letter spellings htoken
  rcases mem_letters_or_literal c with hletter | ⟨hliteral, _⟩
  · simp only [letters, List.mem_cons, List.not_mem_nil, or_false] at hletter
    -- Only one letter stands for a year without its century.
    rcases hletter with rfl | rfl | rfl | rfl | rfl | rfl | rfl | rfl | rfl | rfl | rfl | rfl <;>
      first | cases htoken; done | exact hexpresses.1
  · cases hliteral.symm.trans htoken

end FormRules.Date
