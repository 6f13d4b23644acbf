/-
The search expressions for numbers.

The float and the integer at the front of a text are what the search expressions for them find there, and
the double is that of the literal or of the digits that were found.
-/
import FormRules.Proofs.Number.Literal
import FormRules.Proofs.Pattern.Preference
import FormRules.Proofs.Text.Ranges
import Mathlib.Data.List.DropRight

namespace FormRules

open Text Numeral
open Pattern (Expr Place parse? find? find?_of_parse?)

namespace Pattern.Expr

/-- The preferred match of an expression is what a reader splits off the front of a text. -/
structure ReadsAs {α : Type} (expr : Expr) (read? : List Char → Option (α × List Char)) : Prop where
  front?_eq : ∀ place : Place,
    expr.front? place = (read? place.rest).map fun (_, after) => place.advance after
  isSuffix : ∀ {text after : List Char} {a : α}, read? text = some (a, after) → after <:+ text

/-- Further on in a text the match is read from there. -/
theorem ReadsAs.front?_advance {α : Type} {expr : Expr} {read? : List Char → Option (α × List Char)}
    (h : expr.ReadsAs read?) {place : Place} {middle : List Char} (hmiddle : middle <:+ place.rest) :
    expr.front? (place.advance middle) = (read? middle).map fun (_, after) => place.advance after := by
  rw [h.front?_eq, Place.advance_rest]
  cases hread : read? middle with
  | none => rfl
  | some result => exact congrArg some (Place.advance_advance hmiddle (h.isSuffix hread))

end Pattern.Expr

namespace Coercion

/-! ### The expressions -/

def signExpr : Expr := .repeated 0 (some 1) true (.chars (.pair '+' '-'))

def digitsExpr (least : Nat) : Expr := .repeated least none true (.chars decimalDigitSet)

def exponentExpr : Expr :=
  .repeated 0 (some 1) true (.seq (.chars (.pair 'E' 'e')) (.seq signExpr (digitsExpr 1)))

/-- Digits with an optional point and further digits. -/
def pointedExpr : Expr :=
  .seq (digitsExpr 1) (.seq (.repeated 0 (some 1) true (.text ['.'])) (digitsExpr 0))

/-- A point with digits. -/
def fractionExpr : Expr := .seq (.text ['.']) (digitsExpr 1)

def magnitudeExpr : Expr :=
  .either (.text infinityWord) (.seq (.either pointedExpr fractionExpr) exponentExpr)

def floatExpr : Expr := .seq (.edge .textStart) (.seq signExpr magnitudeExpr)

/-- Hexadecimal digits behind a radix mark, which are kept. -/
def hexExpr : Expr :=
  .seq (.text ['0']) (.seq (.chars (.pair 'X' 'x'))
    (.group 2 (.repeated 1 none true (.chars ⟨[(48, 57), (65, 70), (97, 102)]⟩))))

def integerExpr : Expr :=
  .seq (.edge .textStart) (.seq (.group 1 signExpr) (.either hexExpr (.group 3 (digitsExpr 1))))

/-- The source of the search expression for floats. -/
def floatSource : String := "^[+-]?(?:Infinity|(?:\\d+\\.?\\d*|\\.\\d+)(?:[eE][+-]?\\d+)?)"

/-- The source of the search expression for integers. -/
def integerSource : String := "^([+-]?)(?:0[xX]([0-9a-fA-F]+)|(\\d+))"

theorem parse?_floatSource : parse? floatSource.toList = some floatExpr := by
  simp only [floatSource, String.reduceToList]
  decide +kernel

theorem parse?_integerSource : parse? integerSource.toList = some integerExpr := by
  simp only [integerSource, String.reduceToList]
  decide +kernel

/-! ### Signs, digits and exponents -/

theorem head?_any_iff {p : Char → Bool} {text : List Char} :
    text.head?.any p = true ↔ text.takeWhile p ≠ [] := by
  cases text with
  | nil => simp
  | cons c rest => by_cases hc : p c = true <;> simp [hc]

/-- Splits digits off the front of a text, at least one of them. -/
def readDigits? (isDigit : Char → Bool) (text : List Char) : Option (List Char × List Char) :=
  if text.takeWhile isDigit = [] then none else some (text.takeWhile isDigit, text.dropWhile isDigit)

theorem readsAs_digits (set : CharSet) :
    (Expr.repeated 1 none true (.chars set)).ReadsAs (readDigits? set.mem) where
  front?_eq := by
    intro place
    rw [Expr.front?_plus_chars, readDigits?]
    by_cases hnil : place.rest.takeWhile set.mem = []
    · rw [if_pos hnil, if_neg (mt head?_any_iff.mp (not_not_intro hnil))]
      rfl
    · rw [if_neg hnil, if_pos (head?_any_iff.mpr hnil)]
      rfl
  isSuffix := by
    intro text after digits hread
    obtain ⟨_, hsame⟩ := Option.ite_none_left_eq_some.mp hread
    obtain ⟨_, rfl⟩ := Prod.mk.inj (Option.some.inj hsame)
    exact List.dropWhile_suffix _

theorem mem_signs_iff {c : Char} : (CharSet.pair '+' '-').mem c = true ↔ c = '+' ∨ c = '-' :=
  CharSet.mem_pair_iff (by decide)

/-- A text begins with a sign or is read without one. -/
theorem sign_cases (text : List Char) :
    (∃ c rest, text = c :: rest ∧ (c = '+' ∨ c = '-') ∧ scanSign text = (c == '-', rest)) ∨
      (text.head?.any (CharSet.pair '+' '-').mem = false ∧ scanSign text = (false, text)) := by
  cases text with
  | nil => exact Or.inr ⟨rfl, rfl⟩
  | cons c rest =>
      by_cases hc : c = '+' ∨ c = '-'
      · refine Or.inl ⟨c, rest, rfl, hc, ?_⟩
        rcases hc with rfl | rfl <;> rfl
      · obtain ⟨hplus, hminus⟩ := not_or.mp hc
        refine Or.inr ⟨Bool.eq_false_iff.mpr (mt mem_signs_iff.mp hc), ?_⟩
        rw [scanSign]
        · exact fun _ htext => hminus (List.cons_eq_cons.mp htext).1
        · exact fun _ htext => hplus (List.cons_eq_cons.mp htext).1

/-- A sign that nothing can follow is not passed over, since nothing begins with it either. -/
theorem readsAs_signed {α : Type} {expr : Expr} {read? : List Char → Option (α × List Char)}
    (h : expr.ReadsAs read?) (hsign : ∀ c rest, c = '+' ∨ c = '-' → read? (c :: rest) = none) :
    (Expr.seq signExpr expr).ReadsAs (readSigned read?) where
  front?_eq := by
    intro place
    rw [signExpr, Expr.front?_seq_optional, Expr.front?_seq_chars, readSigned]
    obtain ⟨c, rest, hrest, hc, hscan⟩ | ⟨hskip, hscan⟩ := sign_cases place.rest
    · have hbehind : rest <:+ place.rest := ⟨[c], hrest.symm⟩
      rw [hscan, h.front?_eq place, hrest, List.head?_cons, Option.any_some,
        if_pos (mem_signs_iff.mpr hc), List.tail_cons, h.front?_advance hbehind, hsign c rest hc,
        Option.map_none, Option.or_none, Option.map_map]
      rfl
    · rw [hscan, hskip, if_neg Bool.false_ne_true, Option.none_or, h.front?_eq, Option.map_map]
      rfl
  isSuffix := by
    intro text after number hread
    obtain ⟨_, hbody, hsame⟩ := Option.map_eq_some_iff.mp hread
    obtain ⟨_, rfl⟩ := Prod.mk.inj hsame
    obtain ⟨sign, _, htext⟩ := exists_of_scanSign (Prod.eta (scanSign text)).symm
    exact (h.isSuffix hbody).trans ⟨sign, htext.symm⟩

theorem readsAs_decimalDigits : (digitsExpr 1).ReadsAs (readDigits? isDecimalDigit) := by
  have hdigits := readsAs_digits decimalDigitSet
  rwa [mem_decimalDigitSet] at hdigits

theorem readsAs_signedDigits :
    (Expr.seq signExpr (digitsExpr 1)).ReadsAs (readSigned (readDigits? isDecimalDigit)) := by
  refine readsAs_signed readsAs_decimalDigits fun c rest hc => if_pos ?_
  have hmark : c ∈ marks := by rcases hc with rfl | rfl <;> decide
  exact isDigitClass_isDecimalDigit.takeWhile_eq_nil hmark rest

theorem mem_exponentMarks_iff {c : Char} : (CharSet.pair 'E' 'e').mem c = true ↔ c = 'e' ∨ c = 'E' :=
  (CharSet.mem_pair_iff (by decide)).trans or_comm

/-- Behind its mark an exponent is a signed row of digits. -/
theorem scanExponent_cons (isDigit : Char → Bool) {mark : Char} (h : mark = 'e' ∨ mark = 'E')
    (rest : List Char) :
    (scanExponent isDigit (mark :: rest)).2 =
      ((readSigned (readDigits? isDigit) rest).map Prod.snd).getD (mark :: rest) := by
  rw [scanExponent, if_pos h]
  simp only [readSigned, readDigits?, List.isEmpty_iff]
  split <;> rfl

/-- An exponent, or nothing, is always matched. -/
theorem front?_exponentExpr (place : Place) :
    exponentExpr.front? place = some (place.advance (scanExponent isDecimalDigit place.rest).2) := by
  have hself : some place = some (place.advance place.rest) := by rw [place.advance_self]
  rw [exponentExpr, Expr.front?_optional, Expr.front?_seq_chars]
  cases hrest : place.rest with
  | nil => exact hself.trans (by rw [hrest, scanExponent])
  | cons mark rest =>
      rw [List.head?_cons, Option.any_some, List.tail_cons]
      by_cases hmark : mark = 'e' ∨ mark = 'E'
      · have hbehind : rest <:+ place.rest := ⟨[mark], hrest.symm⟩
        rw [if_pos (mem_exponentMarks_iff.mpr hmark), readsAs_signedDigits.front?_advance hbehind,
          scanExponent_cons _ hmark]
        cases readSigned (readDigits? isDecimalDigit) rest with
        | none => exact hself.trans (by rw [hrest, Option.map_none, Option.getD_none])
        | some result => rfl
      · rw [if_neg (mt mem_exponentMarks_iff.mp hmark), scanExponent, if_neg hmark]
        exact hself.trans (by rw [hrest])

/-! ### Numerals -/

theorem front?_digits (place : Place) :
    (digitsExpr 0).front? place = some (place.advance (place.rest.dropWhile isDecimalDigit)) := by
  rw [digitsExpr, Expr.front?_star_chars, mem_decimalDigitSet]

/-- What is left behind a point, if there is one, and the digits there. -/
def behindPoint : List Char → List Char
  | '.' :: tail => tail.dropWhile isDecimalDigit
  | text => text.dropWhile isDecimalDigit

theorem behindPoint_of_ne {text : List Char} (h : ∀ tail, text ≠ '.' :: tail) :
    behindPoint text = text.dropWhile isDecimalDigit := by
  unfold behindPoint
  split
  · exact absurd rfl (h _)
  · rfl

theorem behindPoint_suffix (text : List Char) : behindPoint text <:+ text := by
  by_cases h : ∃ tail, text = '.' :: tail
  · obtain ⟨tail, rfl⟩ := h
    exact (List.dropWhile_suffix _).trans (List.suffix_cons '.' tail)
  · rw [behindPoint_of_ne (not_exists.mp h)]
    exact List.dropWhile_suffix _

theorem prefix_dot_iff {text : List Char} : ['.'] <+: text ↔ ∃ tail, text = '.' :: tail :=
  exists_congr fun _ => eq_comm

theorem front?_pointed (place : Place) :
    (Expr.seq (.repeated 0 (some 1) true (.text ['.'])) (digitsExpr 0)).front? place =
      some (place.advance (behindPoint place.rest)) := by
  rw [Expr.front?_seq_optional, Expr.front?_seq_text (List.cons_ne_nil _ _), front?_digits, front?_digits,
    Place.advance_rest]
  by_cases h : ∃ tail, place.rest = '.' :: tail
  · rw [if_pos (prefix_dot_iff.mpr h), Option.some_or]
    obtain ⟨tail, htail⟩ := h
    have hbehind : tail <:+ place.rest := ⟨['.'], htail.symm⟩
    rw [htail, List.length_singleton, List.drop_succ_cons, List.drop_zero, behindPoint,
      Place.advance_advance hbehind (List.dropWhile_suffix _)]
  · rw [if_neg (mt prefix_dot_iff.mp h), Option.none_or, behindPoint_of_ne (not_exists.mp h)]

theorem front?_pointedExpr (place : Place) :
    pointedExpr.front? place = if place.rest.takeWhile isDecimalDigit = [] then none
      else some (place.advance (behindPoint (place.rest.dropWhile isDecimalDigit))) := by
  rw [pointedExpr, Expr.front?_seq_of_forall front?_pointed, readsAs_decimalDigits.front?_eq, readDigits?]
  split
  · rfl
  · exact congrArg some (Place.advance_advance (List.dropWhile_suffix _) (behindPoint_suffix _))

theorem front?_fractionExpr_of_point {place : Place} {tail : List Char} (h : place.rest = '.' :: tail) :
    fractionExpr.front? place =
      (readDigits? isDecimalDigit tail).map fun (_, after) => place.advance after := by
  rw [fractionExpr, Expr.front?_seq_text (List.cons_ne_nil _ _), if_pos (prefix_dot_iff.mpr ⟨tail, h⟩), h]
  exact readsAs_decimalDigits.front?_advance ⟨['.'], h.symm⟩

theorem front?_fractionExpr_of_no_point {place : Place} (h : ∀ tail, place.rest ≠ '.' :: tail) :
    fractionExpr.front? place = none := by
  have hpoint : ¬ ['.'] <+: place.rest := mt prefix_dot_iff.mp (not_exists.mpr h)
  rw [fractionExpr, Expr.front?_seq_text (List.cons_ne_nil _ _), if_neg hpoint]

/-- The numeral that is read from the front of a text is the preferred match. -/
theorem readsAs_numeral :
    (Expr.seq (.either pointedExpr fractionExpr) exponentExpr).ReadsAs (scan? isDecimalDigit) where
  front?_eq := by
    intro place
    rw [Expr.front?_seq_of_forall front?_exponentExpr, Expr.front?_either, front?_pointedExpr]
    by_cases hdigits : place.rest.takeWhile isDecimalDigit = []
    · have hdrop : place.rest.dropWhile isDecimalDigit = place.rest := by
        conv_rhs => rw [← List.takeWhile_append_dropWhile (p := isDecimalDigit) (l := place.rest), hdigits]
        rfl
      rw [if_pos hdigits, Option.none_or]
      by_cases hpoint : ∃ tail, place.rest = '.' :: tail
      · obtain ⟨tail, htail⟩ := hpoint
        have hbehind : tail <:+ place.rest := ⟨['.'], htail.symm⟩
        rw [front?_fractionExpr_of_point htail, scan?_of_point (hdrop.trans htail), readDigits?]
        by_cases hplaces : tail.takeWhile isDecimalDigit = []
        · rw [if_pos hplaces, if_pos ⟨hdigits, hplaces⟩]
          rfl
        · rw [if_neg hplaces, if_neg fun hnil => hplaces hnil.2]
          exact congrArg some (Place.advance_advance ((List.dropWhile_suffix _).trans hbehind)
            (scanExponent_suffix ..))
      · rw [not_exists] at hpoint
        rw [front?_fractionExpr_of_no_point hpoint, scan?_of_no_point (by rwa [hdrop]), if_pos hdigits]
        rfl
    · rw [if_neg hdigits, Option.some_or, Option.map_some, Place.advance_rest,
        Place.advance_advance ((behindPoint_suffix _).trans (List.dropWhile_suffix _))
          (scanExponent_suffix ..)]
      by_cases hpoint : ∃ tail, place.rest.dropWhile isDecimalDigit = '.' :: tail
      · obtain ⟨tail, htail⟩ := hpoint
        rw [scan?_of_point htail, if_neg (fun hnil => hdigits hnil.1), htail, behindPoint]
        rfl
      · rw [not_exists] at hpoint
        rw [scan?_of_no_point hpoint, if_neg hdigits, behindPoint_of_ne hpoint, List.dropWhile_idempotent]
        rfl
  isSuffix := by
    intro text after n hread
    obtain ⟨part, _, rfl⟩ := exists_of_scan? hread
    exact List.suffix_append part after

theorem readsAs_magnitude : magnitudeExpr.ReadsAs (Magnitude.read? isDecimalDigit) where
  front?_eq := by
    intro place
    rw [magnitudeExpr, Expr.front?_either, Expr.front?_text (by decide), readsAs_numeral.front?_eq,
      Magnitude.read?]
    simp only [← List.isPrefixOf_iff_prefix]
    split
    · rfl
    · rw [Option.none_or, Option.map_map]
      rfl
  isSuffix := by
    intro text after magnitude hread
    obtain ⟨part, _, rfl⟩ := (Magnitude.readsLongest isDigitClass_isDecimalDigit).sound hread
    exact List.suffix_append part after

theorem read?_of_sign {α : Type} {Spells : α → List Char → Prop}
    {read? : List Char → Option (α × List Char)} (h : ReadsLongest Spells read?)
    (hunsigned : ∀ {a : α} {body : List Char}, Spells a body → IsUnsigned body) {c : Char}
    (hc : c = '+' ∨ c = '-') (rest : List Char) : read? (c :: rest) = none := by
  refine h.read?_eq_none_iff.mpr ?_
  rintro ⟨part, hpart, a, hspells⟩
  obtain ⟨d, body, rfl, hplus, hminus⟩ := hunsigned hspells
  obtain ⟨rfl, _⟩ := List.cons_prefix_cons.mp hpart
  exact hc.elim hplus hminus

/-! ### What is found -/

/-- What a reader has left determines what it has taken. -/
theorem take_of_append {text part after : List Char} (h : text = part ++ after) :
    text.take (text.length - after.length) = part := by
  rw [h, List.length_append, Nat.add_sub_cancel, List.take_left]

/-- What is found at the start of a text is the part in front of what the reader leaves. -/
theorem search?_of_readsAs {α : Type} {expr : Expr} {read? : List Char → Option (α × List Char)}
    (h : expr.ReadsAs read?) (text : List Char) :
    (Expr.seq (.edge .textStart) expr).search? text =
      (read? text).map fun (_, after) => [(0, text.take (text.length - after.length))] := by
  rw [Expr.search?_textStart, Expr.front?_group, h.front?_eq, Option.map_map, Option.map_map]
  rfl

theorem search?_floatExpr (text : List Char) :
    floatExpr.search? text = (readSigned (Magnitude.read? isDecimalDigit) text).map fun (_, after) =>
      [(0, text.take (text.length - after.length))] := by
  have hreads := Magnitude.readsLongest isDigitClass_isDecimalDigit
  have hunsigned : ∀ {a : Magnitude} {body : List Char}, a.Spells isDecimalDigit body → IsUnsigned body :=
    fun hbody => hbody.isUnsigned isDigitClass_isDecimalDigit
  exact search?_of_readsAs (readsAs_signed readsAs_magnitude fun c rest hc =>
    read?_of_sign hreads hunsigned hc rest) text

/-- The double of a literal that was found for a float. -/
def floatOf (literal : List Char) : Double :=
  if literal.dropWhile (fun c => c == '+' || c == '-') = infinityWord then
    Double.infinity.withSign (literal.head? == some '-')
  else (Double.ofLiteral? .double literal).getD .nan

theorem floatOf_of_spells {negative : Bool} {magnitude : Magnitude} {literal : List Char}
    (h : SpellsSigned (Magnitude.Spells isDecimalDigit) (negative, magnitude) literal) :
    floatOf literal = magnitude.toDouble.withSign negative := by
  obtain ⟨hsign, hbody⟩ := h
  rename_i sign body
  have hdrop : (sign ++ body).dropWhile (fun c => c == '+' || c == '-') = body := by
    obtain ⟨c, rest, rfl, hplus, hminus⟩ := hbody.isUnsigned isDigitClass_isDecimalDigit
    cases hsign <;> simp [hplus, hminus]
  rw [floatOf, hdrop]
  cases hbody with
  | infinite =>
      rw [if_pos rfl]
      cases hsign <;> rfl
  | finite hbody =>
      have hword : body ≠ infinityWord := by
        rintro rfl
        obtain ⟨c, rest, hcons, hc⟩ := hbody.head
        obtain ⟨rfl, _⟩ := List.cons_eq_cons.mp hcons
        exact absurd hc (by decide)
      rw [if_neg hword]
      exact hbody.getD_ofLiteral? hsign

/-- The float at the front of a text is that of the literal which is found behind its blanks. -/
theorem parseFloat_eq_search (text : List Char) :
    parseFloat text =
      ((find? floatSource (trimStart text)).bind (List.lookup 0)).elim .nan floatOf := by
  rw [parseFloat_eq, frontDouble, find?_of_parse? parse?_floatSource, search?_floatExpr]
  cases hread : readSigned (Magnitude.read? isDecimalDigit) (trimStart text) with
  | none => rfl
  | some result =>
      obtain ⟨⟨negative, magnitude⟩, after⟩ := result
      obtain ⟨part, hspells, htext⟩ := (readsLongest_float isDigitClass_isDecimalDigit).sound hread
      rw [← take_of_append htext] at hspells
      exact (floatOf_of_spells hspells).symm

/-! ### Integers -/

/-- The group that keeps the digits of an integer, and these digits. -/
def digitGroup : Integer → Nat × List Char
  | .hexadecimal digits => (2, digits)
  | .decimal digits => (3, digits)

theorem mem_radixMarks_iff {c : Char} : (CharSet.pair 'X' 'x').mem c = true ↔ c = 'x' ∨ c = 'X' :=
  (CharSet.mem_pair_iff (by decide)).trans or_comm

theorem mem_hexSet : (⟨[(48, 57), (65, 70), (97, 102)]⟩ : CharSet).mem = isDigitOf 16 := by
  funext c
  have hvalue : digitValue? c =
      if 48 ≤ c.toNat ∧ c.toNat ≤ 57 then some (c.toNat - 48)
      else if 97 ≤ c.toNat ∧ c.toNat ≤ 122 then some (c.toNat - 97 + 10)
      else if 65 ≤ c.toNat ∧ c.toNat ≤ 90 then some (c.toNat - 65 + 10)
      else none := rfl
  rw [Bool.eq_iff_iff, CharSet.mem_iff (by decide), isDigitOf, hvalue]
  simp only [List.mem_cons, List.not_mem_nil, or_false, exists_eq_or_imp, exists_eq_left]
  split_ifs <;> simp <;> omega

theorem front?_group_digits (number : Nat) (set : CharSet) (place : Place) :
    (Expr.group number (.repeated 1 none true (.chars set))).front? place =
      (readDigits? set.mem place.rest).map fun (digits, after) =>
        (place.advance after).hold number digits := by
  rw [Expr.front?_group, (readsAs_digits set).front?_eq, readDigits?]
  split
  · rfl
  · exact congrArg some (Place.keep_advance List.takeWhile_append_dropWhile.symm number)

theorem front?_hexExpr (place : Place) :
    hexExpr.front? place = (hexDigits? place.rest).map fun digits =>
      (place.advance ((place.rest.drop 2).dropWhile (isDigitOf 16))).hold 2 digits := by
  rw [hexExpr, Expr.front?_seq_text (List.cons_ne_nil _ _), Expr.front?_seq_chars, front?_group_digits,
    mem_hexSet]
  simp only [Place.advance_rest, List.length_singleton, List.tail_drop]
  by_cases hmarked : ∃ mark rest, (mark = 'x' ∨ mark = 'X') ∧ place.rest = '0' :: mark :: rest
  · obtain ⟨mark, rest, hmark, hrest⟩ := hmarked
    have hzero : ['0'] <+: place.rest := by
      rw [hrest]
      exact List.prefix_append ['0'] (mark :: rest)
    have hfirst : mark :: rest <:+ place.rest := ⟨['0'], hrest.symm⟩
    rw [if_pos hzero, hrest]
    simp only [List.drop_succ_cons, List.drop_zero, List.head?_cons, Option.any_some,
      mem_radixMarks_iff.mpr hmark, if_true, hexDigits?, hmark, true_and, readDigits?, ne_eq, ite_not,
      Place.advance_advance hfirst (List.suffix_cons mark rest)]
    split
    · rfl
    · exact congrArg some (congrArg (fun stop : Place => stop.hold 2 _)
        (Place.advance_advance ((List.suffix_cons mark rest).trans hfirst) (List.dropWhile_suffix _)))
  · have hnone : hexDigits? place.rest = none := by
      refine Option.eq_none_iff_forall_ne_some.mpr fun digits hdigits => hmarked ?_
      obtain ⟨mark, rest, hmark, hrest, _⟩ := Integer.hexDigits?_eq_some_iff.mp hdigits
      exact ⟨mark, rest, hmark, hrest⟩
    rw [hnone, Option.map_none, ite_eq_right_iff]
    rintro ⟨tail, htail⟩
    rw [ite_eq_right_iff]
    intro hmark
    obtain ⟨mark, hhead, hmem⟩ := (Option.any_eq_true _ _).mp hmark
    rw [← htail, List.singleton_append, List.drop_succ_cons, List.drop_zero] at hhead
    refine absurd ⟨mark, tail.tail, mem_radixMarks_iff.mp hmem, ?_⟩ hmarked
    rw [← htail, List.singleton_append, ← List.eq_cons_of_mem_head? hhead]

/-- The alternatives for an integer keep the digits that are read. -/
theorem front?_integer (place : Place) :
    (Expr.either hexExpr (.group 3 (digitsExpr 1))).front? place =
      (Integer.read? isDecimalDigit place.rest).map fun (n, after) =>
        (place.advance after).hold (digitGroup n).1 (digitGroup n).2 := by
  rw [Expr.front?_either, front?_hexExpr, digitsExpr, front?_group_digits, mem_decimalDigitSet, Integer.read?]
  cases hexDigits? place.rest with
  | some digits => rfl
  | none =>
      rw [Option.map_none, Option.none_or, readDigits?]
      split <;> rfl

theorem front?_signedInteger (place : Place) :
    (Expr.seq (.group 1 signExpr) (.either hexExpr (.group 3 (digitsExpr 1)))).front? place =
      (readSigned (Integer.read? isDecimalDigit) place.rest).map fun ((_, n), after) =>
        ((place.advance after).hold 1
          (place.rest.take (place.rest.length - (scanSign place.rest).2.length))).hold
            (digitGroup n).1 (digitGroup n).2 := by
  have hreads := Integer.readsLongest isDigitClass_isDecimalDigit
  rw [signExpr, Expr.front?_seq_group_optional, Expr.ends, readSigned, Option.map_map]
  obtain ⟨c, rest, hrest, hc, hscan⟩ | ⟨hskip, hscan⟩ := sign_cases place.rest
  · have hbehind : rest <:+ place.rest := ⟨[c], hrest.symm⟩
    have hself : Integer.read? isDecimalDigit (c :: rest) = none :=
      read?_of_sign hreads (fun hbody => hbody.isUnsigned isDigitClass_isDecimalDigit) hc rest
    have hfirst : place.rest = [c] ++ rest := hrest
    have hkept : (place.keep 1 place).rest = c :: rest := hrest
    rw [hscan, take_of_append hfirst, hrest, List.head?_cons, Option.any_some,
      if_pos (mem_signs_iff.mpr hc), List.findSome?_singleton, List.tail_cons, front?_integer,
      front?_integer, Place.keep_advance hfirst, hkept, hself, Option.map_none, Option.or_none,
      Place.hold_rest, Place.advance_rest]
    cases hread : Integer.read? isDecimalDigit rest with
    | none => rfl
    | some result =>
        obtain ⟨part, _, hpart⟩ := hreads.sound hread
        have hafter : result.2 <:+ rest := ⟨part, hpart.symm⟩
        simp only [Option.map_some, Function.comp_apply, Place.advance_hold,
          Place.advance_advance hbehind hafter]
  · have hkept : place.keep 1 place = place.hold 1 [] := by
      rw [Place.keep, List.drop_length]
    rw [hskip, hscan, if_neg Bool.false_ne_true, List.findSome?_nil, Option.none_or, front?_integer, hkept,
      Place.hold_rest, Nat.sub_self, List.take_zero]
    rfl

theorem search?_integerExpr (text : List Char) :
    integerExpr.search? text =
      (readSigned (Integer.read? isDecimalDigit) text).map fun ((_, n), after) =>
        [(0, text.take (text.length - after.length)), digitGroup n,
          (1, text.take (text.length - (scanSign text).2.length))] := by
  rw [integerExpr, Expr.search?_textStart, Expr.front?_group, front?_signedInteger, Option.map_map,
    Option.map_map]
  rfl

/-- The double of the groups that were kept for an integer: hexadecimal digits if there are any, and
otherwise the literal of the decimal ones. -/
def integerOf (kept : List (Nat × List Char)) : Double :=
  let magnitude := match kept.lookup 2 with
    | some digits => hexMagnitude digits
    | none => ((kept.lookup 3).bind (Double.ofLiteral? .double)).getD .nan
  magnitude.withSign (kept.lookup 1 == some ['-'])

theorem integerOf_of_spells {negative : Bool} {sign body : List Char} {n : Integer}
    (hsign : SpellsSign negative sign) (hbody : n.Spells isDecimalDigit body) (whole : List Char) :
    integerOf [(0, whole), digitGroup n, (1, sign)] = n.toDouble.withSign negative := by
  have hminus : (some sign == some ['-']) = negative := by cases hsign <;> rfl
  cases hbody with
  | decimal hdigits =>
      have hspells := Numeral.Spells.whole hdigits .absent
      have hread := hspells.getD_ofLiteral? .bare
      rw [List.append_nil, List.nil_append, Double.withSign_false] at hread
      calc integerOf [(0, whole), (3, body), (1, sign)]
          = ((Double.ofLiteral? .double body).getD .nan).withSign (some sign == some ['-']) := rfl
        _ = (Integer.decimal body).toDouble.withSign negative := by rw [hread, hminus]; rfl
  | hexadecimal =>
      rename_i mark digits _ _
      calc integerOf [(0, whole), (2, digits), (1, sign)]
          = (hexMagnitude digits).withSign (some sign == some ['-']) := rfl
        _ = (Integer.hexadecimal digits).toDouble.withSign negative := by rw [hminus]; rfl

/-- The integer at the front of a text is that of the groups which are kept behind its blanks. -/
theorem parseInt_eq_search (text : List Char) :
    parseInt text = (find? integerSource (trimStart text)).elim .nan integerOf := by
  rw [parseInt_eq, frontDouble, find?_of_parse? parse?_integerSource, search?_integerExpr]
  cases hread : readSigned (Integer.read? isDecimalDigit) (trimStart text) with
  | none => rfl
  | some result =>
      obtain ⟨⟨negative, n⟩, after⟩ := result
      obtain ⟨part, hpart, htext⟩ := (readsLongest_integer isDigitClass_isDecimalDigit).sound hread
      obtain ⟨hsign, hbody⟩ := hpart
      rename_i sign body
      rw [List.append_assoc] at htext
      have hscan := scanSign_append hsign (hbody.isUnsigned isDigitClass_isDecimalDigit) after
      have hbehind : (scanSign (trimStart text)).2 = body ++ after := by rw [htext, hscan]
      have hkept := integerOf_of_spells hsign hbody
      rw [← take_of_append htext, ← hbehind] at hkept
      exact (hkept _).symm

end Coercion

end FormRules
