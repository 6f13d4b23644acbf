/-
Formats in which texts stand in the order of their dates.

Padded numbers are words of one length, so texts of one format first differ within one word, and there
the order of the texts is that of the numbers.  If a format gives the parts from the greatest to the
least, that is the order of the dates.
-/
import FormRules.Proofs.Date.Order
import Mathlib.Data.Char

namespace FormRules.Date

/-- Lists that begin with words of one length are in the order of these words, and if the words are the
same in the order of what follows. -/
theorem append_lt_append_iff {α : Type} [LT α] {word other rest others : List α}
    (hlength : word.length = other.length) :
    word ++ rest < other ++ others ↔ word < other ∨ word = other ∧ rest < others := by
  induction word generalizing other with
  | nil =>
      obtain rfl := List.length_eq_zero_iff.mp hlength.symm
      simp
  | cons c word ih =>
      cases other with
      | nil => simp at hlength
      | cons d other =>
          rw [List.cons_append, List.cons_append, List.cons_lt_cons_iff, List.cons_lt_cons_iff,
            ih (Nat.succ.inj hlength), List.cons.injEq]
          tauto

/-- Numbers of two digits, the last one below the radix, are in the order of the first digits, and if
these are the same in the order of the last ones. -/
theorem mul_add_lt_mul_add_iff {radix a b x y : Nat} (hx : x < radix) (hy : y < radix) :
    radix * a + x < radix * b + y ↔ a < b ∨ a = b ∧ x < y := by
  rcases Nat.lt_trichotomy a b with hlt | rfl | hgt
  · have hstep : radix * (a + 1) ≤ radix * b := Nat.mul_le_mul_left radix hlt
    rw [Nat.mul_add_one] at hstep
    omega
  · omega
  · have hstep : radix * (b + 1) ≤ radix * a := Nat.mul_le_mul_left radix hgt
    rw [Nat.mul_add_one] at hstep
    omega

/-- Digits of one length are in the order of the numbers that they denote. -/
theorem ofDigitChars_lt_iff {word other : List Char} (hlength : word.length = other.length)
    (hword : ∀ c ∈ word, Text.isAsciiDigit c = true)
    (hother : ∀ c ∈ other, Text.isAsciiDigit c = true) :
    Nat.ofDigitChars 10 word 0 < Nat.ofDigitChars 10 other 0 ↔ word < other := by
  induction word generalizing other with
  | nil =>
      obtain rfl := List.length_eq_zero_iff.mp hlength.symm
      simp
  | cons c word ih =>
      cases other with
      | nil => simp at hlength
      | cons d other =>
          have hrest := Nat.succ.inj hlength
          rw [List.forall_mem_cons] at hword hother
          have hc := hword.1
          have hd := hother.1
          simp only [Text.isAsciiDigit, decide_eq_true_eq] at hc hd
          have hfirst : c.toNat - '0'.toNat < d.toNat - '0'.toNat ↔ c < d := by
            rw [Nat.sub_lt_sub_iff_right hc.1]
            exact Iff.rfl
          have hsame : c.toNat - '0'.toNat = d.toNat - '0'.toNat ↔ c = d := by
            rw [← Char.toNat_inj]
            omega
          have hdigits : Nat.ofDigitChars 10 other 0 < 10 ^ word.length :=
            hrest ▸ ofDigitChars_lt hother.2
          rw [Nat.ofDigitChars_cons, Nat.ofDigitChars_cons, Nat.mul_zero, Nat.zero_add,
            Nat.zero_add, Nat.ofDigitChars_eq_ofDigitChars_zero (l := word),
            Nat.ofDigitChars_eq_ofDigitChars_zero (l := other), ← hrest,
            mul_add_lt_mul_add_iff (ofDigitChars_lt hword.2) hdigits, hfirst, hsame,
            ih hrest hword.2 hother.2, List.cons_lt_cons_iff]

theorem Component.number_lt_iff (component : Component) (n m : Nat) :
    component.number n < component.number m ↔ n < m := by
  cases component <;> simp [Component.number]

/-- The number that a word of a field denotes is that of the part it is taken for. -/
theorem Token.Agrees.number_eq {letter : Char} {component : Component} {spellings : Spellings}
    {word : List Char} {d : DateTime}
    (h : (Token.field letter component spellings).Agrees word d) :
    component.number (Nat.ofDigitChars 10 word 0) = d.part component.part := by
  have htaken := h component.part rfl {}
  rw [Token.take, Reading.part?_set, if_pos rfl] at htaken
  exact Option.some.inj htaken

/-- Words of a padded letter are in the order of the part that they are taken for. -/
theorem word_lt_iff {c : Char} (hc : c ∉ unpadded) {part : Part} (hpart : Part.ofLetter? c = some part)
    {word other : List Char} (hword : (Token.ofChar c).Spells word)
    (hother : (Token.ofChar c).Spells other) {a b : DateTime}
    (ha : (Token.ofChar c).Agrees word a) (hb : (Token.ofChar c).Agrees other b) :
    word < other ↔ a.part part < b.part part := by
  have hletter : Part.ofLetter? c ≠ none := by
    rw [hpart]
    nofun
  rw [← ofDigitChars_lt_iff (Token.length_eq_of_spells hc hword hother)
    (Token.isAsciiDigit_of_spells hletter hword) (Token.isAsciiDigit_of_spells hletter hother)]
  rw [← part?_ofChar] at hpart
  cases htoken : Token.ofChar c with
  | literal d =>
      rw [htoken] at hpart
      cases hpart
  | field letter component spellings =>
      rw [htoken] at hpart ha hb
      obtain rfl := Option.some.inj hpart
      rw [← ha.number_eq, ← hb.number_eq, component.number_lt_iff]

/-- Texts made of padded letters are in the order of the parts, taken as the letters give them. -/
theorem flatten_lt_iff {letters : List Char} (hpadded : ∀ c ∈ letters, c ∉ unpadded)
    {words others : List (List Char)} (hwords : SpelledBy (letters.map Token.ofChar) words)
    (hothers : SpelledBy (letters.map Token.ofChar) others) {a b : DateTime}
    (ha : List.Forall₂ (fun token word => token.Agrees word a) (letters.map Token.ofChar) words)
    (hb : List.Forall₂ (fun token word => token.Agrees word b) (letters.map Token.ofChar) others) :
    words.flatten < others.flatten ↔
      (letters.filterMap Part.ofLetter?).map a.part <
        (letters.filterMap Part.ofLetter?).map b.part := by
  induction letters generalizing words others with
  | nil =>
      cases hwords
      cases hothers
      simp
  | cons c letters ih =>
      cases hwords with
      | @cons _ word _ words hword hwords =>
      cases hothers with
      | @cons _ other _ others hother hothers =>
      cases ha with
      | cons hagrees ha =>
      cases hb with
      | cons hagrees' hb =>
          rw [List.forall_mem_cons] at hpadded
          obtain ⟨hc, hpadded⟩ := hpadded
          have hlength := Token.length_eq_of_spells hc hword hother
          rw [List.flatten_cons, List.flatten_cons, append_lt_append_iff hlength,
            ih hpadded hwords hothers ha hb]
          cases hpart : Part.ofLetter? c with
          | none =>
              -- A character that stands for itself is the same in both texts.
              rw [ofChar_eq_literal hpart] at hword hother
              obtain rfl : word = other := hword.trans hother.symm
              rw [List.filterMap_cons_none hpart]
              simp
          | some part =>
              have hlt := word_lt_iff hc hpart hword hother hagrees hagrees'
              have hgt := word_lt_iff hc hpart hother hword hagrees' hagrees
              have hsame : word = other ↔ a.part part = b.part part := by
                simp only [le_antisymm_iff, ← not_lt, hlt, hgt]
              rw [List.filterMap_cons_some hpart, List.map_cons, List.map_cons,
                List.cons_lt_cons_iff, hlt, hsame]

/-- The parts from the greatest to the least. -/
def Part.inOrder : List Part := [.year, .month, .day, .hour, .minute, .second]

theorem components_eq (d : DateTime) : d.components = Part.inOrder.map d.part := rfl

/-- The greatest parts decide the order of dates whose other parts are zero. -/
theorem isBefore_iff_of_zero {a b : DateTime} {count : Nat}
    (ha : ∀ part ∈ Part.inOrder.drop count, a.part part = 0)
    (hb : ∀ part ∈ Part.inOrder.drop count, b.part part = 0) :
    a.isBefore b = true ↔
      (Part.inOrder.take count).map a.part < (Part.inOrder.take count).map b.part := by
  have hrest : (Part.inOrder.drop count).map a.part = (Part.inOrder.drop count).map b.part :=
    List.map_congr_left fun part hpart => (ha part hpart).trans (hb part hpart).symm
  rw [DateTime.isBefore_iff, components_eq, components_eq, ← List.take_append_drop count Part.inOrder,
    List.map_append, List.map_append, append_lt_append_iff (by simp), hrest]
  simp

/-- A format that gives year, month and day with four, two and two digits, in this order, and then
possibly the hour of the day, the minute and the second with two digits each, none without those before
it.  Before, between and after them any other characters may stand. -/
def Descending (format : String) : Prop :=
  ∃ count, 3 ≤ count ∧ format.toList.filter (· ∈ letters) = "YmdHis".toList.take count

namespace Descending

theorem filterMap_take (count : Nat) :
    ("YmdHis".toList.take count).filterMap Part.ofLetter? = Part.inOrder.take count := by
  rcases Nat.lt_or_ge count 6 with hlt | hge
  · have hall : ∀ count < 6,
        ("YmdHis".toList.take count).filterMap Part.ofLetter? = Part.inOrder.take count := by
      decide
    exact hall count hlt
  · rw [List.take_of_length_le (by simpa using hge), List.take_of_length_le hge]
    rfl

variable {format : String}

theorem exists_parts (h : Descending format) :
    ∃ count, format.toList.filterMap Part.ofLetter? = Part.inOrder.take count := by
  obtain ⟨count, _, hletters⟩ := h
  refine ⟨count, ?_⟩
  rw [← filterMap_take, ← hletters, List.filterMap_filter]
  congr 1
  funext c
  rcases mem_letters_or_literal c with hletter | ⟨_, hnone⟩
  · simp [hletter]
  · simp [hnone]

theorem padded (h : Descending format) : ∀ c ∈ format.toList, c ∉ unpadded := by
  obtain ⟨count, _, hletters⟩ := h
  intro c hc hunpadded
  have hletter : c ∈ letters := by
    have hall : ∀ c ∈ unpadded, c ∈ letters := forall_mem_of_all (by decide)
    exact hall c hunpadded
  have hmem : c ∈ "YmdHis".toList := by
    apply List.mem_of_mem_take (i := count)
    rw [← hletters]
    exact List.mem_filter.mpr ⟨hc, by simpa using hletter⟩
  have hall : ∀ c ∈ "YmdHis".toList, c ∉ unpadded := forall_mem_of_all (by decide)
  exact hall c hmem hunpadded

/-- In a descending format texts are in the order of the dates that they are read as. -/
theorem lt_iff_isBefore (h : Descending format) {text other : String} {a b : DateTime}
    (ha : read? format text = some a) (hb : read? format other = some b) :
    text < other ↔ a.isBefore b = true := by
  obtain ⟨made, hmade, ha, hb⟩ := exists_of_read? ha hb
  obtain ⟨count, hparts⟩ := h.exists_parts
  have hnodup : Part.inOrder.Nodup := by decide
  have honce : (made.tokens.filterMap Token.part?).Nodup := by
    rw [Format.filterMap_part?_tokens hmade, hparts]
    exact hnodup.sublist (List.take_sublist count _)
  have hopen : ∀ part ∈ Part.inOrder.drop count, ¬ Gives format part := by
    rintro part hpart ⟨letter, hletter, hgives⟩
    have hgiven : part ∈ Part.inOrder.take count :=
      hparts ▸ List.mem_filterMap.mpr ⟨letter, hletter, hgives⟩
    exact List.disjoint_take_drop hnodup (Nat.le_refl count) hgiven hpart
  obtain ⟨_, _, _, hzero⟩ := gives_of_parse? hmade ha
  obtain ⟨_, _, _, hzero'⟩ := gives_of_parse? hmade hb
  rw [isBefore_iff_of_zero (fun part hpart => hzero part (hopen part hpart))
    (fun part hpart => hzero' part (hopen part hpart)), ← hparts]
  obtain ⟨words, hwords, htext, hread, _⟩ := exists_words_of_parse? ha
  obtain ⟨words', hwords', htext', hread', _⟩ := exists_words_of_parse? hb
  have hagrees := agrees_of_part?_along hwords honce hread
  have hagrees' := agrees_of_part?_along hwords' honce hread'
  rw [Format.tokens_of_ofText? hmade] at hwords hwords' hagrees hagrees'
  change text.toList < other.toList ↔ _
  rw [← htext, ← htext']
  exact flatten_lt_iff h.padded hwords hwords' hagrees hagrees'

end Descending

/-- In a descending format one text is after another exactly if both are dates in the format and it is
the greater one in the order of texts, which is that of their code points; and it is before the other
exactly if it is the smaller one. -/
theorem compares_of_descending {format : String} (h : Descending format) (context : Context)
    (text other : String) :
    (Rule.after.Passes context [.text other, .text format] text ↔
      Rule.isDate.Passes context [.text format] text ∧
        Rule.isDate.Passes context [.text format] other ∧ other < text) ∧
    (Rule.before.Passes context [.text other, .text format] text ↔
      Rule.isDate.Passes context [.text format] text ∧
        Rule.isDate.Passes context [.text format] other ∧ text < other) := by
  simp only [Rule.passes_after_iff, Rule.passes_before_iff, Rule.passes_isDate_iff]
  constructor
  · constructor
    · rintro ⟨a, b, ha, hb, hba⟩
      exact ⟨⟨a, ha⟩, ⟨b, hb⟩, (h.lt_iff_isBefore hb ha).mpr hba⟩
    · rintro ⟨⟨a, ha⟩, ⟨b, hb⟩, hlt⟩
      exact ⟨a, b, ha, hb, (h.lt_iff_isBefore hb ha).mp hlt⟩
  · constructor
    · rintro ⟨a, b, ha, hb, hab⟩
      exact ⟨⟨a, ha⟩, ⟨b, hb⟩, (h.lt_iff_isBefore ha hb).mpr hab⟩
    · rintro ⟨⟨a, ha⟩, ⟨b, hb⟩, hlt⟩
      exact ⟨a, b, ha, hb, (h.lt_iff_isBefore ha hb).mp hlt⟩

/-- The minutes decide between two times of one day that stand in parentheses. -/
theorem compares_of_sameDay :
    let format := "(Y/m/d) H:i"
    let context : Context := ⟨"start", none, [], none, none, .none⟩
    Descending format ∧ Rule.isDate.Passes context [.text format] "(2024/03/01) 09:59" ∧
      Rule.isDate.Passes context [.text format] "(2024/03/01) 10:01" ∧
      "(2024/03/01) 09:59" < "(2024/03/01) 10:01" ∧
      Rule.after.Passes context [.text "(2024/03/01) 09:59", .text format] "(2024/03/01) 10:01" ∧
      ¬ Rule.before.Passes context [.text "(2024/03/01) 09:59", .text format]
        "(2024/03/01) 10:01" := by
  intro format context
  have hdescending : Descending format := ⟨5, by decide, by decide⟩
  have hmade : Format.ofText? format = some (Format.ofText format) := by decide +kernel
  have hfirst : read? format "(2024/03/01) 09:59" = some ⟨2024, 3, 1, 9, 59, 0⟩ := by
    rw [read?, hmade]
    decide
  have hsecond : read? format "(2024/03/01) 10:01" = some ⟨2024, 3, 1, 10, 1, 0⟩ := by
    rw [read?, hmade]
    decide
  have hearly := (Rule.passes_isDate_iff context "(2024/03/01) 09:59" format).mpr ⟨_, hfirst⟩
  have hlate := (Rule.passes_isDate_iff context "(2024/03/01) 10:01" format).mpr ⟨_, hsecond⟩
  have hlt : "(2024/03/01) 09:59" < "(2024/03/01) 10:01" := by decide
  obtain ⟨hafter, hbefore⟩ :=
    compares_of_descending hdescending context "(2024/03/01) 10:01" "(2024/03/01) 09:59"
  refine ⟨hdescending, hearly, hlate, hlt, hafter.mpr ⟨hlate, hearly, hlt⟩, ?_⟩
  rw [hbefore]
  rintro ⟨_, _, hgt⟩
  exact absurd hgt (by decide)

end FormRules.Date
