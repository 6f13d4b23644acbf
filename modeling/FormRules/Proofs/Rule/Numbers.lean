/-
Rules on numbers and the numbers that texts are read as.

A text is a number if it is not blank and finite as a whole, and an integer is a number unless it
overflows.  Bounds are compared as doubles, so up to two to the power of 53 as whole numbers.
-/
import FormRules.Engine.Pass
import FormRules.Proofs.Number.IntegerText
import FormRules.Proofs.Number.Overflow
import FormRules.Proofs.Rule.Passing
import FormRules.Rule.Comparison
import FormRules.Rule.Range

namespace FormRules

open Text Coercion

/-- A parameter that gives a whole number: a number that holds it, or its decimal text. -/
inductive Param.Gives (v : Int) : Param → Prop
  | number {x : Double} : x.value? = some (v : ℚ) → Gives v (.number x)
  | text : Gives v (.text (toString v))

theorem Param.Gives.value?_parseFloat {v : Int} {p : Param} (h : p.Gives v)
    (hv : v.natAbs ≤ 2 ^ 53) : p.parseFloat.value? = some (v : ℚ) := by
  cases h with
  | number hx => exact hx
  | text =>
      have hread : (Param.text (toString v)).parseFloat = .ofInt v := (IsTextOf.toString v).parseFloat_eq
      rw [hread, Double.value?_ofInt hv]

namespace Rule

section Passing

variable (context : Context) (text : String) {name message : String}

/-- A rule whose parameters are prepared to a property of texts passes on those that have it. -/
theorem passes_configured_iff {prepare : List Param → Except Fault (Context → Bool)}
    {params : List Param} (property : List Char → Bool)
    (h : prepare params = .ok fun context => context.holdsText property) :
    (configured name message prepare).Passes context params text ↔ property text.toList = true := by
  simp [Passes, check_configured, h, Except.map, Context.holdsText, Context.text?, textOf, Value.text?]

theorem passes_decideNumber_iff (params : List Param) (onText : List Char → Bool)
    (onNumber : Double → Bool) :
    (plain name message (decideNumber onText onNumber)).Passes context params text ↔
      onText text.toList = true := by
  have hcheck : (plain name message (decideNumber onText onNumber)).check
      { context with params := params, value := some (.text text) } = .ok (onText text.toList) := rfl
  rw [Passes, hcheck, Except.ok.injEq]

theorem passes_between_iff (low high : Param) :
    between.Passes context [low, high] text ↔
      low.parseFloat.numLe (parseFloat text.toList) = true ∧
        (parseFloat text.toList).numLe high.parseFloat = true := by
  rw [← Bool.and_eq_true, between]
  exact passes_configured_iff context text (fun word =>
    low.parseFloat.numLe (parseFloat word) && (parseFloat word).numLe high.parseFloat) rfl

theorem passes_max_iff (most : Param) :
    Rule.max.Passes context [most] text ↔
      (parseFloat text.toList).numLe most.parseFloat = true := by
  rw [Rule.max]
  exact passes_configured_iff context text (fun word => (parseFloat word).numLe most.parseFloat) rfl

theorem passes_min_iff (least : Param) :
    Rule.min.Passes context [least] text ↔
      least.parseFloat.numLe (parseFloat text.toList) = true := by
  rw [Rule.min]
  exact passes_configured_iff context text (fun word => least.parseFloat.numLe (parseFloat word)) rfl

/-- Loose equality with a number compares the number of the whole text. -/
theorem passes_equals_number_iff (x : Double) {more : List Param}
    (hloose : ∀ flag ∈ more.head?, flag.isTrue = false) :
    equals.Passes context (.number x :: more) text ↔ (toNumber text.toList).numEq x = true := by
  have hstrict : (((Param.number x :: more)[1]?).map Param.isTrue).getD false = false := by
    cases more with
    | nil => rfl
    | cons flag _ => exact hloose flag rfl
  have hequal : ∀ word : List Char,
      (Param.number x).looselyEquals (String.ofList word) = (toNumber word).numEq x := by
    intro word
    rw [Param.looselyEquals, String.toList_ofList, Param.toNumber]
  rw [equals]
  refine passes_configured_iff context text (fun word => (toNumber word).numEq x) ?_
  simp only [comparison, argument, hstrict, List.getElem?_cons_zero, bind, Except.bind, pure, Except.pure,
    Bool.false_eq_true, if_false, hequal]

end Passing

/-- The float at the beginning of a text guards against blank texts only, among those whose whole is a
finite number. -/
theorem parseFloat_eq_nan_iff {text : List Char} (h : (toNumber text).isFinite = true) :
    parseFloat text = .nan ↔ allBlank text = true := by
  have hnan : toNumber text ≠ .nan := by
    intro hnan
    rw [hnan] at h
    cases h
  constructor
  · intro hfront
    by_contra hblank
    have hne : trim text ≠ [] := fun hnil => hblank ((trim_eq_nil_iff text).mp hnil)
    by_cases hmark : ∃ radix tail, FollowsMark radix tail (trim text)
    · obtain ⟨radix, tail, hmark⟩ := hmark
      rw [parseFloat_of_followsMark hmark] at hfront
      cases hfront
    · push Not at hmark
      exact hnan (parseFloat_eq_toNumber hne hmark hnan ▸ hfront)
  · intro hblank
    rw [parseFloat, (trimStart_eq_nil_iff text).mpr hblank]
    rfl

theorem isNumberText_iff (text : List Char) :
    isNumberText text = true ↔ allBlank text = false ∧ (toNumber text).isFinite = true := by
  have hguard : (!(parseFloat text).isNan) = true ↔ parseFloat text ≠ .nan := by
    cases parseFloat text <;> simp [Double.isNan]
  rw [isNumberText, Bool.and_eq_true, hguard]
  refine and_congr_left fun hfinite => ?_
  rw [ne_eq, parseFloat_eq_nan_iff hfinite, Bool.not_eq_true]

/-- On texts the rule asks for a finite number that is not blank; its guard refuses exactly the blank
texts, which count as zero. -/
theorem passes_isNumeric_iff (context : Context) (params : List Param) (text : String) :
    (isNumeric.Passes context params text ↔
      allBlank text.toList = false ∧ (toNumber text.toList).isFinite = true) ∧
    ((toNumber text.toList).isFinite = true →
      (parseFloat text.toList = .nan ↔ allBlank text.toList = true)) ∧
    (allBlank text.toList = true → toNumber text.toList = .zero) := by
  refine ⟨?_, parseFloat_eq_nan_iff, fun hblank => if_pos hblank⟩
  rw [isNumeric, passes_decideNumber_iff, isNumberText_iff]

/-- A number whose digits in front of the point are already too large for a finite double. -/
def Overflows (text : List Char) : Prop :=
  ∃ negative n, SpellsSigned (Magnitude.Spells isAsciiDigit) (negative, .finite n) (trim text) ∧
    Double.infinity.Rounds false (placeValue 10 n.whole) ∧ Double.infinity.Rounds false n.value

theorem trim_ne_nil_of_isIntegerText {text : List Char} (h : isIntegerText text = true) :
    trim text ≠ [] := by
  intro hnil
  have hstart := (trimStart_eq_nil_iff text).mpr ((trim_eq_nil_iff text).mp hnil)
  have hnone : parseInt text = .nan := by
    rw [parseInt, hstart]
    rfl
  rw [isIntegerText, hnone] at h
  cases h

theorem isFinite_of_isNumberText_eq_false {text : List Char} (hne : trim text ≠ [])
    (h : isNumberText text = false) : (toNumber text).isFinite = false := by
  by_contra hfinite
  have hpasses := (isNumberText_iff text).mpr
    ⟨Bool.of_not_eq_true fun hblank => hne ((trim_eq_nil_iff text).mpr hblank),
      Bool.of_not_eq_false hfinite⟩
  rw [h] at hpasses
  cases hpasses

/-- The numeral of an integer that is no finite number overflows, and so do the digits in front of its
point. -/
theorem overflows_of_isIntegerText {text : List Char} (hint : isIntegerText text = true)
    (hnumber : isNumberText text = false) : Overflows text := by
  have hne := trim_ne_nil_of_isIntegerText hint
  have hinfinite := isFinite_of_isNumberText_eq_false hne hnumber
  have hnan : toNumber text ≠ .nan := (Double.ne_nan_of_numEq hint).2
  -- Behind the mark of a radix the number would be finite, so the text is a magnitude.
  have hmark : ∀ radix tail, ¬ FollowsMark radix tail (trim text) := by
    intro radix tail hmark
    rw [isFinite_of_followsMark hmark hnan] at hinfinite
    cases hinfinite
  obtain ⟨⟨negative, magnitude⟩, hspells⟩ := isWritten_of_toNumber_ne_nan hne hmark hnan
  have hfront := Double.isFinite_congr hint
  have hread := (Double.ne_nan_of_numEq hint).1
  rw [Magnitude.parseInt_of_spells hspells, Double.isFinite_withSign, hinfinite] at hfront
  rw [Magnitude.parseInt_of_spells hspells, ne_eq, Double.withSign_eq_nan_iff] at hread
  rw [Magnitude.toNumber_of_spells hspells, Double.isFinite_withSign] at hinfinite
  cases magnitude with
  | infinite => exact absurd rfl hread
  | finite n =>
      have hwhole : n.whole ≠ [] := fun hnil => hread (if_pos hnil)
      have hrounds := Numeral.rounds_toDouble (Magnitude.isReadable.isAsciiDigit_of_mem hspells)
      exact ⟨negative, n, hspells,
        (Magnitude.rounds_wholeDouble hspells hwhole).isFinite_eq_false_iff.mp hfront,
        hrounds.isFinite_eq_false_iff.mp hinfinite⟩

theorem isIntegerText_of_overflows {text : List Char} (h : Overflows text) :
    isIntegerText text = true ∧ isNumberText text = false := by
  obtain ⟨negative, n, hspells, hfront, hwhole⟩ := h
  have hrounds := Numeral.rounds_toDouble (Magnitude.isReadable.isAsciiDigit_of_mem hspells)
  have hne : n.whole ≠ [] := by
    intro hnil
    rw [hnil] at hfront
    have hinfinite := (Double.rounds_ofNat 0).isFinite_eq_false_iff.mpr hfront
    rw [Double.isFinite_ofNat (Nat.zero_le _)] at hinfinite
    cases hinfinite
  have hdouble : n.toDouble = .infinity := hrounds.unique hwhole
  have hfrontDouble := (Magnitude.rounds_wholeDouble hspells hne).unique hfront
  have hnumber : toNumber text = Double.infinity.withSign negative := by
    rw [Magnitude.toNumber_of_spells hspells, Magnitude.toDouble, hdouble]
  have hint : parseInt text = Double.infinity.withSign negative := by
    rw [Magnitude.parseInt_of_spells hspells, hfrontDouble]
  constructor
  · rw [isIntegerText, hint, hnumber]
    cases negative <;> decide
  · have hinfinite : Double.infinity.isFinite = false := by
      decide
    rw [isNumberText, hnumber, Double.isFinite_withSign, hinfinite, Bool.and_false]

section Value

variable {context : Context} {onText : List Char → Bool} {onNumber : Double → Bool}

theorem decideNumber_of_text {text : String} (h : context.value = some (.text text)) :
    decideNumber onText onNumber context = onText text.toList := by
  rw [decideNumber, Context.givenValue, h]
  rfl

/-- On a value that is no text a number is decided by its property alone. -/
theorem decideNumber_mono {other : List Char → Bool} {weaker : Double → Bool}
    (hweaker : ∀ x, onNumber x = true → weaker x = true)
    (hvalue : ∀ text, context.value ≠ some (.text text))
    (h : decideNumber onText onNumber context = true) : decideNumber other weaker context = true := by
  unfold decideNumber Context.givenValue at h ⊢
  cases hheld : context.value with
  | none =>
      rw [hheld] at h
      cases h
  | some value =>
      rw [hheld] at h
      cases value with
      | text s => exact absurd hheld (hvalue s)
      | whole n => exact hweaker _ h
      | real x => exact hweaker x h
      | null | flag | list | record => cases h

end Value

theorem check_isInt (context : Context) :
    isInt.check context = .ok (decideNumber isIntegerText Double.isWhole context) := rfl

theorem check_isNumeric (context : Context) :
    isNumeric.check context = .ok (decideNumber isNumberText Double.isFinite context) := rfl

/-- Every integer is a number, apart from texts that overflow. -/
theorem isNumeric_of_isInt_iff (context : Context) :
    (isInt.check context = .ok true → isNumeric.check context = .ok true) ↔
      ¬ ∃ text, context.value = some (.text text) ∧ Overflows text.toList := by
  rw [check_isInt, check_isNumeric, Except.ok.injEq, Except.ok.injEq]
  constructor
  · rintro hnumber ⟨text, hvalue, hoverflows⟩
    obtain ⟨hint, hnot⟩ := isIntegerText_of_overflows hoverflows
    rw [decideNumber_of_text hvalue, decideNumber_of_text hvalue, hnot] at hnumber
    exact Bool.false_ne_true (hnumber hint)
  · intro hnone hint
    by_cases htext : ∃ text, context.value = some (.text text)
    · obtain ⟨text, hvalue⟩ := htext
      rw [decideNumber_of_text hvalue] at hint ⊢
      by_contra hnumber
      exact hnone ⟨text, hvalue, overflows_of_isIntegerText hint (Bool.of_not_eq_true hnumber)⟩
    · exact decideNumber_mono (fun x hx => (Bool.and_eq_true_iff.mp hx).1) (not_exists.mp htext) hint

/-- A one with 309 zeros is an integer and no number, and so it is with a fraction behind it. -/
theorem isInt_of_overflow :
    let context : Context := ⟨"amount", none, [], none, none, .none⟩
    let digits := '1' :: List.replicate 309 '0'
    (isInt.Passes context [] (String.ofList digits) ∧
      ¬ isNumeric.Passes context [] (String.ofList digits)) ∧
    isInt.Passes context [] (String.ofList (digits ++ ['.', '5'])) ∧
      ¬ isNumeric.Passes context [] (String.ofList (digits ++ ['.', '5'])) := by
  rw [isInt, isNumeric]
  simp only [passes_decideNumber_iff, String.toList_ofList]
  decide +kernel

end Rule

namespace Param

variable {p q : Param}

theorem itemTexts_cons {rest : List Param} (h : rest ≠ []) :
    itemTexts (p :: rest) = p.toText ++ "," ++ itemTexts rest := by
  cases rest with
  | nil => exact absurd rfl h
  | cons => rfl

/-- A list shows each of its items by its text. -/
theorem itemTexts_congr (h : p.toText = q.toText) (before after : List Param) :
    itemTexts (before ++ p :: after) = itemTexts (before ++ q :: after) := by
  induction before with
  | nil =>
      cases after with
      | nil => exact h
      | cons next after =>
          rw [List.nil_append, List.nil_append, itemTexts_cons (List.cons_ne_nil next after),
            itemTexts_cons (List.cons_ne_nil next after), h]
  | cons first before ih =>
      have hne : ∀ r : Param, before ++ r :: after ≠ [] := fun r => by simp
      rw [List.cons_append, List.cons_append, itemTexts_cons (hne p), itemTexts_cons (hne q), ih]

/-- A parameter is shown as a text: by itself, as an item of a list and in the messages of rules. -/
structure IsShownAs (p : Param) (shown : String) : Prop where
  toText_eq : p.toText = shown
  inList : ∀ before after,
    (list (before ++ p :: after)).toText = (list (before ++ .text shown :: after)).toText
  inMessage : ∀ {Host : Type} (inst : RuleInstance Host) (rule : Rule) (before after : List Param),
    Engine.failureMessage inst rule (before ++ p :: after) =
      Engine.failureMessage inst rule (before ++ .text shown :: after)

theorem isShownAs_toText (p : Param) : p.IsShownAs p.toText where
  toText_eq := rfl
  inList before after := by
    rw [toText, toText]
    exact itemTexts_congr (p := p) (q := .text p.toText) rfl before after
  inMessage inst rule before after := by
    rw [Engine.failureMessage, Engine.failureMessage, List.map_append, List.map_append, List.map_cons,
      List.map_cons, toText]

end Param

/-- A text is read as a number by each of the three readers. -/
structure IsReadAs (text : List Char) (x : ℚ) : Prop where
  toNumber : (toNumber text).value? = some x
  parseFloat : (parseFloat text).value? = some x
  parseInt : (parseInt text).value? = some x

theorem IsTextOf.isReadAs {v : Int} {text : List Char} (h : IsTextOf v text)
    (hv : v.natAbs ≤ 2 ^ 53) : IsReadAs text v where
  toNumber := h.toNumber_eq ▸ Double.value?_ofInt hv
  parseFloat := h.parseFloat_eq ▸ Double.value?_ofInt hv
  parseInt := h.parseInt_eq ▸ Double.value?_ofInt hv

namespace Rule

/-- Up to two to the power of 53 the rules on integers are exact: their bounds are compared as whole
numbers, and a whole number is shown in the digits that are read as this number again. -/
theorem exact_of_isTextOf (context : Context) {v lo hi : Int} (hv : v.natAbs ≤ 2 ^ 53)
    (hlo : lo.natAbs ≤ 2 ^ 53) (hhi : hi.natAbs ≤ 2 ^ 53) {text : String}
    (htext : IsTextOf v text.toList) {low high : Param} (hlow : low.Gives lo) (hhigh : high.Gives hi) :
    (between.Passes context [low, high] text ↔ lo ≤ v ∧ v ≤ hi) ∧
    (Rule.min.Passes context [low] text ↔ lo ≤ v) ∧
    (Rule.max.Passes context [high] text ↔ v ≤ hi) ∧
    (∀ params, isInt.Passes context params text ∧ isNumeric.Passes context params text) ∧
    (∀ x more, x.value? = some (lo : ℚ) → (∀ flag ∈ more.head?, flag.isTrue = false) →
      (equals.Passes context (.number x :: more) text ↔ v = lo)) ∧
    (∀ x, x.value? = some (v : ℚ) → (Param.number x).IsShownAs (toString v)) ∧
    IsReadAs (toString v).toList v := by
  have hvalue := Double.value?_ofInt hv
  have hlowValue := hlow.value?_parseFloat hlo
  have hhighValue := hhigh.value?_parseFloat hhi
  have hlow : low.parseFloat.numLe (.ofInt v) = true ↔ lo ≤ v :=
    (Double.numLe_iff hlowValue hvalue).trans Int.cast_le
  have hhigh : (Double.ofInt v).numLe high.parseFloat = true ↔ v ≤ hi :=
    (Double.numLe_iff hvalue hhighValue).trans Int.cast_le
  refine ⟨?_, ?_, ?_, fun params => ⟨?_, ?_⟩, ?_, ?_, (IsTextOf.toString v).isReadAs hv⟩
  · rw [passes_between_iff, htext.parseFloat_eq, hlow, hhigh]
  · rw [passes_min_iff, htext.parseFloat_eq, hlow]
  · rw [passes_max_iff, htext.parseFloat_eq, hhigh]
  · rw [isInt, passes_decideNumber_iff, isIntegerText, htext.parseInt_eq, htext.toNumber_eq]
    exact (Double.numEq_iff hvalue hvalue).mpr rfl
  · rw [isNumeric, passes_decideNumber_iff, isNumberText, htext.parseFloat_eq, htext.toNumber_eq,
      Double.isFinite_of_value? hvalue]
    rfl
  · intro x more hx hloose
    rw [passes_equals_number_iff context text x hloose, htext.toNumber_eq, Double.numEq_iff hvalue hx,
      Int.cast_inj]
  · intro x hx
    have hshown : (Param.number x).toText = toString v := Double.toText_of_value? hx hv
    rw [← hshown]
    exact (Param.number x).isShownAs_toText

/-- The least of these numbers between blanks, with a bound that is a number and one that is a text. -/
theorem exact_of_leastNumber :
    let context : Context := ⟨"balance", none, [], none, none, .none⟩
    let text := "\t-9007199254740992 "
    let low := Param.number (.ofInt (-9007199254740992))
    let high := Param.text "-9007199254740991"
    (IsTextOf (-9007199254740992) text.toList ∧ low.Gives (-9007199254740992) ∧
      high.Gives (-9007199254740991)) ∧
    between.Passes context [low, high] text ∧ Rule.max.Passes context [high] text ∧
    isInt.Passes context [] text ∧ equals.Passes context [low] text ∧
    low.IsShownAs "-9007199254740992" := by
  intro context text low high
  have htext : IsTextOf (-9007199254740992) text.toList :=
    ⟨['\t'], [' '], rfl, rfl, by decide +kernel⟩
  have hvalue := Double.value?_ofInt (by decide : (-9007199254740992 : Int).natAbs ≤ 2 ^ 53)
  have hlow : low.Gives (-9007199254740992) := .number hvalue
  have hwritten : toString (-9007199254740991 : Int) = "-9007199254740991" := by
    decide +kernel
  have hhigh : high.Gives (-9007199254740991) := by
    have hgives := Param.Gives.text (v := -9007199254740991)
    rwa [hwritten] at hgives
  have hshown : toString (-9007199254740992 : Int) = "-9007199254740992" := by
    decide +kernel
  obtain ⟨hbetween, _, hmax, hint, hequals, hshow, _⟩ :=
    exact_of_isTextOf context (by decide) (by decide) (by decide) htext hlow hhigh
  exact ⟨⟨htext, hlow, hhigh⟩, hbetween.mpr (by decide), hmax.mpr (by decide), (hint []).1,
    (hequals _ [] hvalue nofun).mpr rfl, hshown ▸ hshow _ hvalue⟩

end Rule

end FormRules
