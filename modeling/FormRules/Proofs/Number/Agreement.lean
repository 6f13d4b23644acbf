/-
The readers of numbers on one text.

A text that is a number as a whole, between blanks, is read to its last character by the readers of a
beginning too: no number holds a blank, so none goes on behind it.  The float at its beginning is then
the number of the whole, and the integer is that of its whole digits.
-/
import FormRules.Proofs.Number.Whole
import FormRules.Proofs.Text.Trimming

namespace FormRules

open Text Coercion

theorem Double.withSign_nan (negative : Bool) : nan.withSign negative = nan :=
  withSign_eq_nan_iff.mpr rfl

namespace Magnitude

variable {isDigit : Char → Bool} {negative : Bool} {magnitude : Magnitude} {text : List Char}

/-- A signed magnitude is written in digits, punctuation and the letters of the word for infinity. -/
theorem mem_cases (h : SpellsSigned (Spells isDigit) (negative, magnitude) text) :
    ∀ c ∈ text, isDigit c = true ∨ c ∈ Numeral.punctuation ++ infinityWord := by
  obtain ⟨hsign, hbody⟩ := h
  refine List.forall_mem_append.mpr ⟨fun c hc => ?_, fun c hc => ?_⟩
  · exact Or.inr (List.mem_append_left _ (Numeral.mem_punctuation_of_sign hsign c hc))
  · cases hbody with
    | infinite => exact Or.inr (List.mem_append_right _ hc)
    | finite hbody => exact (hbody.mem_cases c hc).imp_right (List.mem_append_left _)

theorem isBlank_of_mem (hdigit : ∀ c, isDigit c = true → isBlank c = false)
    (h : SpellsSigned (Spells isDigit) (negative, magnitude) text) :
    ∀ c ∈ text, isBlank c = false := by
  have hothers : (Numeral.punctuation ++ infinityWord).any isBlank = false := by
    decide
  exact fun c hc => (mem_cases h c hc).elim (hdigit c) fun hother =>
    Bool.of_not_eq_true (List.any_eq_false.mp hothers c hother)

/-- No mark of a radix stands in a magnitude. -/
theorem not_followsMark (h : SpellsSigned (Spells isAsciiDigit) (negative, magnitude) text)
    (radix : Nat) (tail : List Char) : ¬ FollowsMark radix tail text := by
  rintro ⟨hmark, _⟩
  have hmarks : ∀ entry ∈ radixMarks,
      ¬ (isAsciiDigit entry.1 = true ∨ entry.1 ∈ Numeral.punctuation ++ infinityWord) := by
    decide
  exact hmarks _ hmark (mem_cases h _ (by simp))

/-- A magnitude is the longest number at the front of a text in which blanks follow it. -/
theorem isLongestPrefix_of_blanks (hdigit : ∀ c, isDigit c = true → isBlank c = false)
    (h : SpellsSigned (Spells isDigit) (negative, magnitude) text) {after : List Char}
    (hafter : ∀ c ∈ after, isBlank c = true) :
    IsLongestPrefix (IsWritten (Spells isDigit)) text (text ++ after) where
  isPrefix := List.prefix_append text after
  holds := ⟨_, h⟩
  length_le := by
    rintro other hother ⟨⟨negative', magnitude'⟩, hspells⟩
    exact length_le_of_prefix_append (isBlank_of_mem hdigit hspells) hafter hother

theorem ne_nil (h : SpellsSigned (Spells isAsciiDigit) (negative, magnitude) text) : text ≠ [] := by
  obtain ⟨_, hbody⟩ := h
  obtain ⟨c, rest, rfl, _⟩ := hbody.isUnsigned isDigitClass_isAsciiDigit
  exact List.append_ne_nil_of_right_ne_nil _ (List.cons_ne_nil c rest)

/-- The number of a text that is a magnitude between blanks. -/
theorem toNumber_of_spells
    (h : SpellsSigned (Spells isAsciiDigit) (negative, magnitude) (trim text)) :
    toNumber text = magnitude.toDouble.withSign negative := by
  rw [toNumber_eq_readWhole (ne_nil h), readWhole_of_not_followsMark (not_followsMark h)]
  generalize trim text = body at h
  obtain ⟨hsign, hbody⟩ := h
  have hscan := scanSign_append hsign (hbody.isUnsigned isDigitClass_isAsciiDigit) []
  rw [List.append_nil] at hscan
  rw [hscan, readMagnitude_eq_toDouble hbody]

/-- The float at the beginning of a text that is a magnitude between blanks is the whole of it. -/
theorem parseFloat_of_spells
    (h : SpellsSigned (Spells isAsciiDigit) (negative, magnitude) (trim text)) :
    parseFloat text = magnitude.toDouble.withSign negative := by
  obtain ⟨after, htext, hafter⟩ := exists_trim_append text
  have hlongest := isLongestPrefix_of_blanks (fun _ => isBlank_of_isAsciiDigit) h hafter
  rw [parseFloat_eq, htext]
  refine isReadable.frontDouble_eq (fun part hpart => ?_) h hlongest
  rw [hpart.unique hlongest]
  exact isLongestPrefix_of_blanks (fun _ => isBlank_of_isDecimalDigit) (isReadable.signed_any h) hafter

/-- Behind its sign the number at the front of a text is read as a magnitude. -/
theorem frontDouble_append {α : Type} (read? : List Char → Option (α × List Char))
    (toDouble : α → Double) {sign body : List Char} (hsign : SpellsSign negative sign)
    (hbody : IsUnsigned body) (rest : List Char) :
    frontDouble read? toDouble (sign ++ (body ++ rest)) =
      (read? (body ++ rest)).elim .nan fun result => (toDouble result.1).withSign negative := by
  simp only [frontDouble, readSigned, scanSign_append hsign hbody]
  cases read? (body ++ rest) <;> rfl

/-- The double of the digits in front of the point of a magnitude. -/
def wholeDouble : Magnitude → Double
  | infinite => .nan
  | finite n => if n.whole = [] then .nan else (Numeral.mk n.whole none none).toDouble

/-- Text that does not go on with an integer: neither a digit nor a mark of hexadecimal digits comes
first. -/
def EndsInteger (text : List Char) : Prop :=
  ∀ c ∈ text.head?, isDecimalDigit c = false ∧ c ≠ 'x' ∧ c ≠ 'X'

theorem endsInteger_of_blanks {after : List Char} (hafter : ∀ c ∈ after, isBlank c = true) :
    EndsInteger after := by
  intro c hc
  have hblank := hafter c (List.mem_of_mem_head? hc)
  refine ⟨?_, ?_, ?_⟩
  · by_contra hdigit
    rw [isBlank_of_isDecimalDigit (Bool.of_not_eq_false hdigit)] at hblank
    cases hblank
  · rintro rfl
    cases hblank
  · rintro rfl
    cases hblank

theorem EndsInteger.takeWhile_eq_nil {rest : List Char} (h : EndsInteger rest) :
    rest.takeWhile isDecimalDigit = [] := by
  cases rest with
  | nil => rfl
  | cons c tail => exact List.takeWhile_cons_of_neg (by simp [(h c rfl).1])

/-- Digits are read as a decimal integer up to where it ends. -/
theorem integerRead?_append {digits rest : List Char} (hdigits : ∀ c ∈ digits, isAsciiDigit c = true)
    (hrest : EndsInteger rest) :
    Integer.read? isDecimalDigit (digits ++ rest) =
      if digits = [] then none else some (.decimal digits, rest) := by
  have hany : ∀ c ∈ digits, isDecimalDigit c = true := fun c hc =>
    isDecimalDigit_of_isAsciiDigit (hdigits c hc)
  -- Hexadecimal digits stand behind a zero and a mark, and neither the digits nor the rest hold the mark.
  have hhex : hexDigits? (digits ++ rest) = none := by
    by_contra hsome
    obtain ⟨hex, hhex⟩ := Option.ne_none_iff_exists'.mp hsome
    obtain ⟨mark, tail, hmark, htext, _⟩ := Integer.hexDigits?_eq_some_iff.mp hhex
    by_cases hnil : digits = []
    · rw [hnil, List.nil_append] at htext
      exact absurd (hrest '0' (by simp [htext])).1 (by decide)
    · have hmarked := Integer.eq_of_radixMark isDigitClass_isDecimalDigit ⟨hnil, hany⟩ hmark htext
      have hends := (hrest mark (by simp [hmarked])).2
      exact hmark.elim hends.1 hends.2
  have hdrop := List.takeWhile_append_dropWhile (p := isDecimalDigit) (l := rest)
  rw [hrest.takeWhile_eq_nil, List.nil_append] at hdrop
  simp only [Integer.read?, hhex, List.takeWhile_append_of_pos hany, List.dropWhile_append_of_pos hany,
    hrest.takeWhile_eq_nil, List.append_nil, hdrop]

/-- Behind the digits in front of the point stand the point, an exponent or nothing. -/
theorem exists_border {n : Numeral} {body : List Char} (h : n.Spells isAsciiDigit body) :
    ∃ rest, body = n.whole ++ rest ∧ (∀ c ∈ n.whole, isAsciiDigit c = true) ∧
      ∀ c ∈ rest.head?, c ∈ Numeral.punctuation := by
  have hpart : ∀ {exponent part}, Numeral.SpellsExponent isAsciiDigit exponent part →
      ∀ c ∈ part.head?, c ∈ Numeral.punctuation := by
    rintro _ _ (_ | ⟨hmark, _, _⟩) c hc
    · cases hc
    · obtain rfl := Option.some.inj hc
      rcases hmark with rfl | rfl <;> decide
  have hpoint : ∀ {rest : List Char}, ∀ c ∈ ('.' :: rest).head?, c ∈ Numeral.punctuation := by
    rintro rest c hc
    obtain rfl := Option.some.inj hc
    decide
  cases h with
  | whole hdigits hexponent => exact ⟨_, rfl, hdigits.2, hpart hexponent⟩
  | pointed hdigits => exact ⟨_, rfl, hdigits.2, hpoint⟩
  | fraction => exact ⟨_, rfl, List.forall_mem_nil _, hpoint⟩

theorem endsInteger_append {rest after : List Char} (hrest : ∀ c ∈ rest.head?, c ∈ Numeral.punctuation)
    (hafter : EndsInteger after) : EndsInteger (rest ++ after) := by
  cases rest with
  | nil => exact hafter
  | cons c tail =>
      have hends : ∀ c ∈ Numeral.punctuation, isDecimalDigit c = false ∧ c ≠ 'x' ∧ c ≠ 'X' := by
        simp only [Numeral.punctuation, List.forall_mem_cons, List.not_mem_nil, false_implies, implies_true]
        decide
      intro d hd
      obtain rfl := Option.some.inj hd
      exact hends c (hrest c rfl)

/-- The integer at the beginning of a text that is a magnitude between blanks. -/
theorem parseInt_of_spells
    (h : SpellsSigned (Spells isAsciiDigit) (negative, magnitude) (trim text)) :
    parseInt text = magnitude.wholeDouble.withSign negative := by
  obtain ⟨after, htext, hafter⟩ := exists_trim_append text
  have hends := endsInteger_of_blanks hafter
  rw [parseInt_eq, htext]
  generalize trim text = part at h
  obtain ⟨hsign, hbody⟩ := h
  rw [List.append_assoc,
    frontDouble_append _ _ hsign (hbody.isUnsigned isDigitClass_isAsciiDigit)]
  cases hbody with
  | infinite =>
      -- The word for infinity does not begin with a digit, so no integer is read.
      have hword : EndsInteger (infinityWord ++ after) := by
        intro c hc
        obtain rfl := Option.some.inj hc
        decide
      have hread := integerRead?_append (List.forall_mem_nil _) hword
      rw [List.nil_append, if_pos rfl] at hread
      rw [hread, wholeDouble, Option.elim_none, Double.withSign_nan]
  | @finite n _ hbody =>
      obtain ⟨rest, rfl, hdigits, hrest⟩ := exists_border hbody
      rw [List.append_assoc, integerRead?_append hdigits (endsInteger_append hrest hends), wholeDouble]
      by_cases hwhole : n.whole = []
      · rw [if_pos hwhole, if_pos hwhole, Option.elim_none, Double.withSign_nan]
      · rw [if_neg hwhole, if_neg hwhole]
        rfl

end Magnitude

/-- A text that is a number as a whole without the mark of a radix spells a magnitude between blanks. -/
theorem isWritten_of_toNumber_ne_nan {text : List Char} (hne : trim text ≠ [])
    (hmark : ∀ radix tail, ¬ FollowsMark radix tail (trim text)) (hnan : toNumber text ≠ .nan) :
    IsWritten (Magnitude.Spells isAsciiDigit) (trim text) := by
  rw [toNumber_eq_readWhole hne, readWhole_of_not_followsMark hmark, ne_eq,
    Double.withSign_eq_nan_iff] at hnan
  exact isWritten_of_readMagnitude_ne_nan hnan

/-- Without the mark of a radix the number of a whole text is also the float at its beginning. -/
theorem parseFloat_eq_toNumber {text : List Char} (hne : trim text ≠ [])
    (hmark : ∀ radix tail, ¬ FollowsMark radix tail (trim text)) (hnan : toNumber text ≠ .nan) :
    parseFloat text = toNumber text := by
  obtain ⟨⟨negative, magnitude⟩, hspells⟩ := isWritten_of_toNumber_ne_nan hne hmark hnan
  rw [Magnitude.parseFloat_of_spells hspells, Magnitude.toNumber_of_spells hspells]

/-- A text that is a number with the mark of a radix begins with the float zero. -/
theorem parseFloat_of_followsMark {radix : Nat} {text tail : List Char}
    (h : FollowsMark radix tail (trim text)) : parseFloat text = .zero := by
  obtain ⟨after, htext, _⟩ := exists_trim_append text
  generalize trim text = part at h htext
  obtain ⟨hmark, _⟩ := h
  simp only [radixMarks, List.mem_cons, Prod.mk.injEq, List.not_mem_nil, or_false] at hmark
  rcases hmark with ⟨rfl, _⟩ | ⟨rfl, _⟩ | ⟨rfl, _⟩ | ⟨rfl, _⟩ | ⟨rfl, _⟩ | ⟨rfl, _⟩ <;>
    (simp only [parseFloat, htext]; rfl)

/-- On a text that is not blank and has no mark of a radix, the number of the whole is also the float at
its beginning. -/
theorem parseFloat_of_toNumber {text : List Char} (hblank : allBlank text = false)
    (hmark : ∀ entry ∈ radixMarks, ¬ ['0', entry.1] <+: trim text) (hnan : toNumber text ≠ .nan) :
    parseFloat text = toNumber text := by
  refine parseFloat_eq_toNumber ?_ ?_ hnan
  · rw [ne_eq, trim_eq_nil_iff, hblank]
    exact Bool.false_ne_true
  · intro radix tail hfollows
    generalize trim text = part at hmark hfollows
    obtain ⟨hentry, _⟩ := hfollows
    exact hmark _ hentry (List.prefix_append _ tail)

/-- Between blanks a number that overflows keeps its sign on both ways. -/
theorem parseFloat_of_overflow :
    allBlank "\n-1e400 ".toList = false ∧
    (∀ entry ∈ radixMarks, ¬ ['0', entry.1] <+: trim "\n-1e400 ".toList) ∧
    toNumber "\n-1e400 ".toList ≠ .nan ∧ toNumber "\n-1e400 ".toList = .negInfinity ∧
    parseFloat "\n-1e400 ".toList = toNumber "\n-1e400 ".toList := by
  have hblank : allBlank "\n-1e400 ".toList = false := by
    decide
  have hmark : ∀ entry ∈ radixMarks, ¬ ['0', entry.1] <+: trim "\n-1e400 ".toList := by
    decide
  have hnan : toNumber "\n-1e400 ".toList ≠ .nan := by
    decide +kernel
  exact ⟨hblank, hmark, hnan, by decide +kernel, parseFloat_of_toNumber hblank hmark hnan⟩

end FormRules
