/-
Rules on the number of words.

The rules compare the number of words that a text is put together from with a whole number; a field that
is left out has no words, and a value of another kind passes none of them.
-/
import FormRules.Proofs.Number.Counts
import FormRules.Proofs.Rule.Numbers
import FormRules.Proofs.Text.Words
import FormRules.Rule.Length

namespace FormRules

open Text

/-- A parameter that counts as an integer: a number, or a decimal text by its digits in front of any point
and exponent. -/
inductive Param.CountsAs (k : Int) : Param → Prop
  | number {x : Double} : x.value? = some (k : ℚ) → CountsAs k (.number x)
  | text {s : String} {negative : Bool} {n : Numeral} :
      SpellsSigned (Numeral.Spells isAsciiDigit) (negative, n) s.toList → n.whole ≠ [] →
      k = (if negative then -placeValue 10 n.whole else placeValue 10 n.whole : Int) →
      CountsAs k (.text s)

/-- The integer at the beginning of a decimal text is that of its digits in front of the point. -/
theorem parseInt_of_whole {text : List Char} {negative : Bool} {n : Numeral}
    (h : SpellsSigned (Numeral.Spells isAsciiDigit) (negative, n) text) (hwhole : n.whole ≠ []) :
    Coercion.parseInt text = (Double.ofNat (placeValue 10 n.whole)).withSign negative := by
  obtain ⟨hsign, hbody⟩ := h
  have hspells := SpellsSigned.mk hsign (Magnitude.Spells.finite hbody)
  have htrim := trim_of_no_blank (Magnitude.isBlank_of_mem (fun _ => isBlank_of_isAsciiDigit) hspells)
  rw [← htrim] at hspells
  rw [Magnitude.parseInt_of_spells hspells,
    (Magnitude.rounds_wholeDouble hspells hwhole).unique (Double.rounds_ofNat _)]

theorem Param.CountsAs.value?_parseInt {k : Int} {p : Param} (h : p.CountsAs k)
    (hk : k.natAbs ≤ 2 ^ 53) : p.parseInt.value? = some (k : ℚ) := by
  cases h with
  | number hx => rw [parseInt, if_pos (Double.isFinite_of_value? hx), Double.trunc_of_value? hx, hx]
  | @text s negative n hspells hwhole hsame =>
      have hread : (Param.text s).parseInt = (Double.ofNat (placeValue 10 n.whole)).withSign negative :=
        parseInt_of_whole hspells hwhole
      have hbound : placeValue 10 n.whole ≤ 2 ^ 53 := by
        cases negative <;> simp only [if_true, if_false, Bool.false_eq_true] at hsame <;> omega
      rw [hread, hsame]
      cases negative
      · rw [Double.withSign_false, Double.value?_ofNat hbound]
        simp
      · rw [Double.withSign_true, Double.value?_neg, Double.value?_ofNat hbound]
        simp

/-- The words that a field holds: those of its text, and none if it is left out. -/
inductive HasWords : Option Value → List (List Char) → Prop
  | text {s : String} {list : List (List Char)} : Spaces list s.toList → HasWords (some (.text s)) list
  | absent : HasWords none []
  | null : HasWords (some .null) []

/-- Whether a value is neither a text nor null. -/
def Value.IsOther (value : Value) : Prop := value ≠ .null ∧ ∀ s, value ≠ .text s

namespace Rule

theorem wordCount?_of_hasWords {value : Option Value} {list : List (List Char)}
    (h : HasWords value list) : wordCount? value = some (.ofNat list.length) := by
  cases h with
  | @text s _ hspaces =>
      have hcount : wordCount? (some (.text s)) = some (.ofNat (Text.words s.toList).length) := rfl
      rw [hcount, words_of_spaces hspaces]
  | absent => rfl
  | null => rfl

theorem wordCount?_of_isOther {value : Value} (h : value.IsOther) : wordCount? (some value) = none := by
  cases value with
  | null => exact absurd rfl h.1
  | text s => exact absurd rfl (h.2 s)
  | flag | whole | real | list | record => rfl

section Check

variable {context : Context} {param : Param} {more : List Param}
  (hparams : context.params = param :: more)
include hparams

theorem check_words :
    words.check context = .ok (countsWords context fun count => count.numEq param.parseInt) := by
  rw [words, check_configured, hparams]
  rfl

theorem check_maxWords :
    maxWords.check context = .ok (countsWords context fun count => count.numLe param.parseInt) := by
  rw [maxWords, check_configured, hparams]
  rfl

theorem check_minWords :
    minWords.check context = .ok (countsWords context fun count => param.parseInt.numLe count) := by
  rw [minWords, check_configured, hparams]
  rfl

end Check

theorem countsWords_of_hasWords {context : Context} {list : List (List Char)}
    (h : HasWords context.value list) (property : Double → Bool) :
    countsWords context property = property (.ofNat list.length) := by
  rw [countsWords, wordCount?_of_hasWords h]

theorem countsWords_of_isOther {context : Context} {value : Value} (hvalue : context.value = some value)
    (h : value.IsOther) (property : Double → Bool) : countsWords context property = false := by
  rw [countsWords, hvalue, wordCount?_of_isOther h]

/-- The rules on words compare the number of words with an integer up to two to the power of 53, where one
word more than this bound counts as the bound.  The words of a value that is no text cannot be counted. -/
theorem counts_of_countsAs (context : Context) {param : Param} {more : List Param}
    (hparams : context.params = param :: more) {k : Int} (hk : k.natAbs ≤ 2 ^ 53)
    (hparam : param.CountsAs k) :
    (∀ list, HasWords context.value list →
      (minWords.check context = .ok true ↔ k ≤ list.length) ∧
      (words.check context = .ok true ↔
        list.length = k ∨ k = 2 ^ 53 ∧ list.length = 2 ^ 53 + 1) ∧
      (maxWords.check context = .ok true ↔
        list.length ≤ k ∨ k = 2 ^ 53 ∧ list.length = 2 ^ 53 + 1)) ∧
    ∀ value, context.value = some value → value.IsOther →
      words.check context = .ok false ∧ maxWords.check context = .ok false ∧
        minWords.check context = .ok false := by
  have hvalue := hparam.value?_parseInt hk
  rw [check_words hparams, check_maxWords hparams, check_minWords hparams]
  simp only [Except.ok.injEq]
  constructor
  · intro list hwords
    simp only [countsWords_of_hasWords hwords]
    exact ⟨Double.numLe_ofNat_iff hvalue hk _, Double.ofNat_numEq_iff hvalue hk _,
      Double.ofNat_numLe_iff hvalue hk _⟩
  · intro value hheld hother
    simp only [countsWords_of_isOther hheld hother, and_self]

/-- Three words between several kinds of blanks, counted with a text for a parameter. -/
theorem counts_of_threeWords :
    let context : Context :=
      ⟨"motto", none, [.text "+03.50"], none, some (.text "\t one\u3000two \u2028three\n"), .none⟩
    HasWords context.value [['o', 'n', 'e'], ['t', 'w', 'o'], ['t', 'h', 'r', 'e', 'e']] ∧
      (Param.text "+03.50").CountsAs 3 ∧ words.check context = .ok true ∧
      maxWords.check context = .ok true ∧ minWords.check context = .ok true := by
  intro context
  have hwords : HasWords context.value [['o', 'n', 'e'], ['t', 'w', 'o'], ['t', 'h', 'r', 'e', 'e']] := by
    refine .text (spaces_iff.mpr ?_)
    decide +kernel
  have hcounts : (Param.text "+03.50").CountsAs 3 := by
    have hbody : Numeral.Spells isAsciiDigit ⟨['0', '3'], some ['5', '0'], none⟩
        (['0', '3'] ++ '.' :: (['5', '0'] ++ [])) :=
      .pointed (by decide) (List.all_eq_true.mp rfl) .absent
    exact .text (SpellsSigned.mk .plus hbody) (List.cons_ne_nil _ _) (by decide)
  obtain ⟨hmin, hexact, hmax⟩ := (counts_of_countsAs context rfl (by decide) hcounts).1 _ hwords
  exact ⟨hwords, hcounts, hexact.mpr (Or.inl rfl), hmax.mpr (Or.inl le_rfl), hmin.mpr le_rfl⟩

theorem hasWords_replicate {word : List Char} (h : IsWord word) (n : Nat) :
    HasWords (some (.text (String.ofList ([' '].intercalate (List.replicate n word)))))
      (List.replicate n word) := by
  have hjoins : Joins (List.replicate n word) ([' '].intercalate (List.replicate n word)) :=
    joins_intercalate (by decide) fun other hother => by rwa [List.eq_of_mem_replicate hother]
  refine .text ?_
  rw [String.toList_ofList]
  exact ⟨[], _, [], rfl, rfl, hjoins, (List.append_nil _).symm⟩

/-- One word more than two to the power of 53 passes as so many and as at most so many, and ten words do not
pass as ten if the parameter is written with an exponent. -/
theorem miscounted_of_bound :
    let list := List.replicate (2 ^ 53 + 1) ['a']
    let context : Context := ⟨"motto", none, [.number (.ofInt (2 ^ 53))], none,
      some (.text (String.ofList ([' '].intercalate list))), .none⟩
    let other : Context :=
      ⟨"motto", none, [.text "1e1"], none, some (.text "a b c d e f g h i j"), .none⟩
    (HasWords context.value list ∧ list.length = 2 ^ 53 + 1 ∧
      (Double.ofInt (2 ^ 53)).value? = some ((2 ^ 53 : Int) : ℚ) ∧
      words.check context = .ok true ∧ maxWords.check context = .ok true) ∧
    (∃ list, HasWords other.value list ∧ list.length = 10) ∧
      (Param.text "1e1").toNumber.value? = some ((10 : Int) : ℚ) ∧ words.check other = .ok false := by
  intro list context other
  have hwords : HasWords context.value list := hasWords_replicate (by decide) _
  have hlength : list.length = 2 ^ 53 + 1 := List.length_replicate
  have hbound : (2 ^ 53 : Int).natAbs ≤ 2 ^ 53 := by decide
  have hvalue := Double.value?_ofInt hbound
  have hread : (Param.number (.ofInt (2 ^ 53))).parseInt = .ofInt (2 ^ 53) := by
    decide +kernel
  refine ⟨⟨hwords, hlength, hvalue, ?_, ?_⟩, ⟨_, .text (spaces_iff.mpr rfl), ?_⟩, ?_, ?_⟩
  · rw [check_words rfl, countsWords_of_hasWords hwords, hread,
      (Double.ofNat_numEq_iff hvalue hbound _).mpr (Or.inr ⟨rfl, hlength⟩)]
  · rw [check_maxWords rfl, countsWords_of_hasWords hwords, hread,
      (Double.ofNat_numLe_iff hvalue hbound _).mpr (Or.inr ⟨rfl, hlength⟩)]
  · decide +kernel
  · have hten : (Param.text "1e1").toNumber = .ofInt 10 := by
      decide +kernel
    rw [hten]
    exact Double.value?_ofInt (by decide)
  · decide +kernel

end Rule

end FormRules
