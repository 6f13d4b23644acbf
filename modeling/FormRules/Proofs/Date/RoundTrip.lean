/-
Reading dates back.

Reading gives back what has been written, in formats whose numbers end where they are seen to end.  In
formats that give each part once, what has been read is written as the text that it was read from, so
that two texts never denote the same date and time.
-/
import FormRules.Proofs.Date.Letters
import Mathlib.Data.List.Chain

namespace FormRules.Date

/-- Whether some letter of a format stands for a part. -/
def Gives (format : String) (part : Part) : Prop :=
  ∃ letter ∈ format.toList, Part.ofLetter? letter = some part

instance (format : String) (part : Part) : Decidable (Gives format part) :=
  List.decidableBEx (fun letter => Part.ofLetter? letter = some part) format.toList

/-- A number without padding ends with the format, or before a character that stands for itself and is
no digit. -/
def Delimited (letters : List Char) : Prop :=
  letters.IsChain fun letter next =>
    letter ∈ unpadded → Part.ofLetter? next = none ∧ Text.isAsciiDigit next = false

instance (letters : List Char) : Decidable (Delimited letters) := by
  unfold Delimited
  infer_instance

namespace Format

theorem tokens_of_ofText? {text : String} {format : Format} (h : ofText? text = some format) :
    format.tokens = text.toList.map Token.ofChar := by
  simp only [ofText?, Option.ite_none_right_eq_some, Option.some.injEq] at h
  exact h.2 ▸ rfl

/-- The tokens of a format give the parts that its letters stand for. -/
theorem filterMap_part?_tokens {text : String} {format : Format} (h : ofText? text = some format) :
    format.tokens.filterMap Token.part? = text.toList.filterMap Part.ofLetter? := by
  rw [tokens_of_ofText? h, List.filterMap_map]
  exact congrArg (List.filterMap · _) (funext part?_ofChar)

theorem gives_iff {text : String} {format : Format} (h : ofText? text = some format)
    (part : Part) : Gives text part ↔ some part ∈ format.tokens.map Token.part? := by
  simp only [Gives, tokens_of_ofText? h, List.map_map, List.mem_map, Function.comp_apply,
    part?_ofChar]

end Format

theorem takeWhile_of_spells {c : Char} (hc : Part.ofLetter? c ≠ none) {word rest : List Char}
    (hword : (Token.ofChar c).Spells word)
    (hrest : ∀ d ∈ rest.head?, Text.isAsciiDigit d = false) :
    (word ++ rest).takeWhile Text.isAsciiDigit = word := by
  rw [List.takeWhile_append_of_pos (Token.isAsciiDigit_of_spells hc hword)]
  cases rest with
  | nil => simp
  | cons d rest => simp [hrest d rfl]

/-- What follows a number without padding begins with no digit. -/
theorem head_of_delimited {c : Char} {letters : List Char} (hdelimited : Delimited (c :: letters))
    (hc : c ∈ unpadded) {words : List (List Char)}
    (hwords : SpelledBy (letters.map Token.ofChar) words) :
    ∀ d ∈ words.flatten.head?, Text.isAsciiDigit d = false := by
  cases letters with
  | nil =>
      cases hwords
      simp
  | cons next letters =>
      obtain ⟨hliteral, hdigit⟩ := (List.isChain_cons_cons.mp hdelimited).1 hc
      cases hwords with
      | @cons _ word _ words hword _ =>
          rw [ofChar_eq_literal hliteral] at hword
          obtain rfl : word = [next] := hword
          simpa using hdigit

/-- Where numbers end as they are seen to end a text is made up of words in one way only. -/
theorem words_unique {letters : List Char} (hdelimited : Delimited letters)
    {words others : List (List Char)} (hwords : SpelledBy (letters.map Token.ofChar) words)
    (hothers : SpelledBy (letters.map Token.ofChar) others)
    (hsame : words.flatten = others.flatten) : words = others := by
  induction letters generalizing words others with
  | nil =>
      cases hwords
      cases hothers
      rfl
  | cons c letters ih =>
      cases hwords with
      | @cons _ word _ words hword hwords =>
      cases hothers with
      | @cons _ other _ others hother hothers =>
          rw [List.flatten_cons, List.flatten_cons] at hsame
          have hlength : word.length = other.length := by
            by_cases hc : c ∈ unpadded
            · -- Both words are all digits that the text begins with.
              have hpart : Part.ofLetter? c ≠ none := by
                have hall : ∀ letter ∈ unpadded, Part.ofLetter? letter ≠ none :=
                  forall_mem_of_all (by decide)
                exact hall c hc
              rw [← takeWhile_of_spells hpart hword (head_of_delimited hdelimited hc hwords), hsame,
                takeWhile_of_spells hpart hother (head_of_delimited hdelimited hc hothers)]
            · exact Token.length_eq_of_spells hc hword hother
          obtain ⟨rfl, hrest⟩ := List.append_inj hsame hlength
          rw [ih hdelimited.tail hwords hothers hrest]

/-- Words that agree with a date and time let the parts that they give be read. -/
theorem part?_along_of_agrees {tokens : List Token} {words : List (List Char)} {d : DateTime}
    (h : List.Forall₂ (fun token word => token.Agrees word d) tokens words) {part : Part}
    {reading : Reading}
    (hpart : some part ∈ tokens.map Token.part? ∨ reading.part? part = some (d.part part)) :
    (reading.along tokens words).part? part = some (d.part part) := by
  induction h generalizing reading with
  | nil => exact hpart.resolve_left List.not_mem_nil
  | @cons token word tokens words hagrees _ ih =>
      apply ih
      by_cases hgives : token.part? = some part
      · exact Or.inr (hagrees part hgives reading)
      · rw [Reading.part?_take token word reading part hgives]
        rw [List.map_cons, List.mem_cons] at hpart
        exact hpart.imp_left fun hmem => hmem.resolve_left (Ne.symm hgives)

/-- If no part is given twice each word agrees with what is read in the end. -/
theorem agrees_of_part?_along {tokens : List Token} {words : List (List Char)}
    (hwords : SpelledBy tokens words) (honce : (tokens.filterMap Token.part?).Nodup)
    {d : DateTime} {reading : Reading}
    (hparts : ∀ part, (reading.along tokens words).part? part = some (d.part part)) :
    List.Forall₂ (fun token word => token.Agrees word d) tokens words := by
  induction hwords generalizing reading with
  | nil => exact .nil
  | @cons token word tokens words _ _ ih =>
      have hrest : (tokens.filterMap Token.part?).Nodup := by
        cases hgives : token.part? with
        | none => simpa [hgives] using honce
        | some part =>
            rw [List.filterMap_cons_some hgives] at honce
            exact honce.of_cons
      refine .cons ?_ (ih hrest hparts)
      intro part hgives other
      rw [List.filterMap_cons_some hgives] at honce
      have hlater : some part ∉ tokens.map Token.part? := by
        intro hmem
        obtain ⟨later, hlater, heq⟩ := List.mem_map.mp hmem
        exact (List.nodup_cons.mp honce).1 (List.mem_filterMap.mpr ⟨later, hlater, heq⟩)
      rw [Reading.part?_take_eq token word hgives other reading, ← hparts part, Reading.along,
        Reading.part?_along_of_notMem hlater]

/-- Words that agree with a date and time are what is written for it. -/
theorem flatMap_write_of_agrees {letters : List Char} {words : List (List Char)} {d : DateTime}
    (hwords : SpelledBy (letters.map Token.ofChar) words)
    (hagrees : List.Forall₂ (fun token word => token.Agrees word d) (letters.map Token.ofChar)
      words) :
    (letters.map Token.ofChar).flatMap (fun token => token.write d) = words.flatten := by
  induction letters generalizing words with
  | nil =>
      cases hwords
      rfl
  | cons c letters ih =>
      cases hwords with
      | cons hword hwords =>
      cases hagrees with
      | cons hagree hagrees =>
          rw [List.map_cons, List.flatMap_cons, List.flatten_cons, ih hwords hagrees,
            Token.write_eq_of_agrees (Token.isCanonical_ofChar c) hword hagree]

/-- What is written for a date and time that all letters can express are words of them. -/
theorem spelledBy_write {letters : List Char} {d : DateTime} (hreal : d.IsReal)
    (hexpresses : ∀ letter ∈ letters, Expresses letter d) :
    SpelledBy (letters.map Token.ofChar)
      ((letters.map Token.ofChar).map fun token => token.write d) := by
  rw [SpelledBy, List.map_map, List.forall₂_map_left_iff, List.forall₂_map_right_iff,
    List.forall₂_same]
  exact fun letter hletter => spells_write letter hreal (hexpresses letter hletter)

theorem agrees_write_all {letters : List Char} {d : DateTime}
    (hexpresses : ∀ letter ∈ letters, Expresses letter d) :
    List.Forall₂ (fun token word => Token.Agrees token word d) (letters.map Token.ofChar)
      ((letters.map Token.ofChar).map fun token => token.write d) := by
  rw [List.map_map, List.forall₂_map_left_iff, List.forall₂_map_right_iff, List.forall₂_same]
  exact fun letter hletter => agrees_write_ofChar letter (hexpresses letter hletter)

/-- Before anything is read the time and the year are zero, and month and day are open. -/
theorem part?_empty {part : Part} {n : Nat} (h : ({} : Reading).part? part = some n) :
    part ≠ .month ∧ part ≠ .day ∧ n = 0 := by
  cases part with
  | month | day => cases h
  | year | hour | minute | second => exact ⟨nofun, nofun, (Option.some.inj h).symm⟩

/-- A date and time that has been read has been read along words that make the text up. -/
theorem exists_words_of_parse? {format : Format} {value : String} {d : DateTime}
    (h : format.parse? value = some d) :
    ∃ words, SpelledBy format.tokens words ∧ words.flatten = value.toList ∧
      (∀ part, (({} : Reading).along format.tokens words).part? part = some (d.part part)) ∧
      d.IsReal := by
  rcases format.parse?_cases value with ⟨words, hwords, hvalue, hparse⟩ | ⟨hnone, _⟩
  · obtain ⟨hparts, hreal⟩ := (Reading.toDateTime?_eq_some_iff _ d).mp (hparse.symm.trans h)
    exact ⟨words, hwords, hvalue, hparts, hreal⟩
  · cases hnone.symm.trans h

/-- What is read is real; month and day are given, and parts that are not given are zero. -/
theorem gives_of_parse? {text : String} {format : Format}
    (hformat : Format.ofText? text = some format) {value : String} {d : DateTime}
    (h : format.parse? value = some d) :
    Gives text .month ∧ Gives text .day ∧ d.IsReal ∧
      ∀ part, ¬ Gives text part → d.part part = 0 := by
  obtain ⟨words, _, _, hparts, hreal⟩ := exists_words_of_parse? h
  have hopen : ∀ part, ¬ Gives text part → ({} : Reading).part? part = some (d.part part) := by
    intro part hpart
    rw [Format.gives_iff hformat] at hpart
    rw [← hparts part, Reading.part?_along_of_notMem hpart]
  refine ⟨?_, ?_, hreal, fun part hpart => (part?_empty (hopen part hpart)).2.2⟩
  · by_contra hmonth
    exact (part?_empty (hopen _ hmonth)).1 rfl
  · by_contra hday
    exact (part?_empty (hopen _ hday)).2.1 rfl

/-- What is read in a format that gives each part once is written as it was read. -/
theorem write_of_parse? {text : String} {format : Format}
    (hformat : Format.ofText? text = some format)
    (honce : (text.toList.filterMap Part.ofLetter?).Nodup) {value : String} {d : DateTime}
    (h : format.parse? value = some d) : String.ofList (format.write d) = value := by
  obtain ⟨words, hwords, hvalue, hparts, _⟩ := exists_words_of_parse? h
  rw [← Format.filterMap_part?_tokens hformat] at honce
  have hagrees := agrees_of_part?_along hwords honce hparts
  rw [Format.tokens_of_ofText? hformat] at hwords hagrees
  rw [Format.write, Format.tokens_of_ofText? hformat, flatMap_write_of_agrees hwords hagrees,
    hvalue, String.ofList_toList]

/-- Reading undoes writing.  Take a format with a letter for the month and one for the day, whose
numbers without padding end with the format or before a character that stands for itself and is no
digit, and a real date and time that all letters of the format can express and whose other parts are
zero.  What is written for it is read as that date and time. -/
theorem parse?_write {text : String} {format : Format}
    (hformat : Format.ofText? text = some format) (hmonth : Gives text .month)
    (hday : Gives text .day) (hdelimited : Delimited text.toList) {d : DateTime}
    (hreal : d.IsReal) (hexpresses : ∀ letter ∈ text.toList, Expresses letter d)
    (hzero : ∀ part, ¬ Gives text part → d.part part = 0) :
    format.parse? (String.ofList (format.write d)) = some d := by
  have htokens := Format.tokens_of_ofText? hformat
  have hwritten := spelledBy_write hreal hexpresses
  have hagrees := agrees_write_all hexpresses
  rw [← htokens] at hwritten hagrees
  have htext : (String.ofList (format.write d)).toList =
      (format.tokens.map fun token => token.write d).flatten := by
    rw [String.toList_ofList, Format.write, List.flatMap_def]
  rcases format.parse?_cases (String.ofList (format.write d)) with
    ⟨words, hwords, hflatten, hparse⟩ | ⟨_, hnone⟩
  · -- The words that have been found are those that have been written.
    rw [htokens] at hwords hwritten
    obtain rfl := words_unique hdelimited hwords hwritten (by rw [hflatten, htext, htokens])
    rw [hparse, Reading.toDateTime?_eq_some_iff]
    refine ⟨fun part => ?_, hreal⟩
    rw [htokens] at hagrees ⊢
    apply part?_along_of_agrees hagrees
    by_cases hpart : Gives text part
    · rw [Format.gives_iff hformat, htokens] at hpart
      exact Or.inl hpart
    · right
      rw [hzero part hpart]
      cases part with
      | month => exact absurd hmonth hpart
      | day => exact absurd hday hpart
      | year | hour | minute | second => rfl
  · exact absurd htext.symm (hnone _ hwritten)

/-- The last day of February in a leap year, in a format that gives day and month twice. -/
theorem parse?_write_leapDay :
    let text := "j.n.Y G:i (d/m)"
    let d : DateTime := ⟨2024, 2, 29, 7, 5, 0⟩
    Delimited text.toList ∧ d.IsReal ∧ (∀ letter ∈ text.toList, Expresses letter d) ∧
      (∀ part, ¬ Gives text part → d.part part = 0) ∧
      (Format.ofText text).parse? "29.2.2024 7:05 (29/02)" = some d := by
  intro text d
  have hformat : Format.ofText? text = some (Format.ofText text) := by decide +kernel
  have hdelimited : Delimited text.toList := by decide
  have hreal : d.IsReal := by decide
  have hexpresses : ∀ letter ∈ text.toList, Expresses letter d := forall_mem_of_all (by decide)
  have hzero : ∀ part, ¬ Gives text part → d.part part = 0 := by
    intro part hpart
    cases part with
    | second => rfl
    | year | month | day | hour | minute => exact absurd (by decide) hpart
  have hwritten : String.ofList ((Format.ofText text).write d) = "29.2.2024 7:05 (29/02)" := by
    decide
  refine ⟨hdelimited, hreal, hexpresses, hzero, ?_⟩
  rw [← hwritten]
  exact parse?_write hformat (by decide) (by decide) hdelimited hreal hexpresses hzero

/-- Reading is exact in a format that gives each part at most once, even where one number runs into the
next.  What is read is a real date and time, month and day are given, and parts that are not given are
zero.  It is written as the text that it has been read from, so that no other text is read as the same
date and time. -/
theorem exact_of_parse? {text : String} {format : Format}
    (hformat : Format.ofText? text = some format)
    (honce : (text.toList.filterMap Part.ofLetter?).Nodup) :
    (∀ value d, format.parse? value = some d →
      Gives text .month ∧ Gives text .day ∧ d.IsReal ∧
      (∀ part, ¬ Gives text part → d.part part = 0) ∧
      String.ofList (format.write d) = value) ∧
    ∀ first second d, format.parse? first = some d → format.parse? second = some d →
      first = second := by
  constructor
  · intro value d h
    obtain ⟨hmonth, hday, hreal, hzero⟩ := gives_of_parse? hformat h
    exact ⟨hmonth, hday, hreal, hzero, write_of_parse? hformat honce h⟩
  · intro first second d hfirst hsecond
    rw [← write_of_parse? hformat honce hfirst, write_of_parse? hformat honce hsecond]

/-- Of the two dates that the text may be read as the one with the shorter month is chosen. -/
theorem exact_of_ambiguousDate :
    let text := "Ynj"
    (text.toList.filterMap Part.ofLetter?).Nodup ∧
      (Format.ofText text).parse? "2024111" = some ⟨2024, 1, 11, 0, 0, 0⟩ ∧
      ∀ other, (Format.ofText text).parse? other = some ⟨2024, 1, 11, 0, 0, 0⟩ →
        other = "2024111" := by
  intro text
  have hformat : Format.ofText? text = some (Format.ofText text) := by decide +kernel
  have honce : (text.toList.filterMap Part.ofLetter?).Nodup := by decide
  have hread : (Format.ofText text).parse? "2024111" = some ⟨2024, 1, 11, 0, 0, 0⟩ := by decide
  refine ⟨honce, hread, fun other hother => ?_⟩
  exact (exact_of_parse? hformat honce).2 other "2024111" _ hother hread

end FormRules.Date
