/-
Rules on the alphabet of a text.

Each of these rules passes on the texts of one character or more over its alphabet, and on nothing else.
They are the texts in which a class of characters is found, repeated from one end to the other.
-/
import FormRules.Proofs.Pattern.Writing
import FormRules.Proofs.Rule.Passing

namespace FormRules

open Pattern Text

namespace Text

/-- One of the letters a to z, small or capital. -/
def IsLetter (c : Char) : Prop := 'a' ≤ c ∧ c ≤ 'z' ∨ 'A' ≤ c ∧ c ≤ 'Z'

/-- One of the digits 0 to 9. -/
def IsDigit (c : Char) : Prop := '0' ≤ c ∧ c ≤ '9'

variable {c : Char}

theorem isLetter_iff_toNat : IsLetter c ↔ 65 ≤ c.toNat ∧ c.toNat ≤ 90 ∨ 97 ≤ c.toNat ∧ c.toNat ≤ 122 :=
  or_comm

theorem isDigit_iff_toNat : IsDigit c ↔ 48 ≤ c.toNat ∧ c.toNat ≤ 57 := Iff.rfl

theorem isAlpha_iff : c.isAlpha = true ↔ IsLetter c := by
  have hupper : c.isUpper = true ↔ 'A' ≤ c ∧ c ≤ 'Z' := decide_eq_true_iff
  have hlower : c.isLower = true ↔ 'a' ≤ c ∧ c ≤ 'z' :=
    Bool.and_eq_true_iff.trans (and_congr decide_eq_true_iff decide_eq_true_iff)
  exact Bool.or_eq_true_iff.trans (or_comm.trans (or_congr hlower hupper))

theorem isAlphanum_iff : c.isAlphanum = true ↔ IsLetter c ∨ IsDigit c := by
  have hdigit : c.isDigit = true ↔ IsDigit c :=
    Bool.and_eq_true_iff.trans (and_congr decide_eq_true_iff decide_eq_true_iff)
  exact Bool.or_eq_true_iff.trans (or_congr isAlpha_iff hdigit)

end Text

namespace Rule

/-- A rule passes on the texts of one character or more over an alphabet, which are those that a pattern is
found in.  They can be joined, and no other character can be put anywhere into a text. -/
structure AcceptsOver (rule : Rule) (source : String) (alphabet : Char → Prop) : Prop where
  passes_iff (context : Context) :
    rule.check context = .ok true ↔
      ∃ text, context.value = some (.text text) ∧ text ≠ "" ∧ ∀ c ∈ text.toList, alphabet c
  found_iff (context : Context) (params : List Param) (text : String) :
    rule.Passes context params text ↔ FoundIn source text
  append {context : Context} {params : List Param} {first second : String} :
    rule.Passes context params first → rule.Passes context params second →
      rule.Passes context params (first ++ second)
  insert {c : Char} (hc : ¬ alphabet c) (context : Context) (params : List Param) (front back : String) :
    rule.check { context with
      params := params, value := some (.text (front ++ String.singleton c ++ back)) } = .ok false

theorem isMadeOf_iff {holds : Char → Bool} {text : List Char} :
    isMadeOf holds text = true ↔ text ≠ [] ∧ ∀ c ∈ text, holds c = true := by
  simp [isMadeOf]

/-- A rule on the characters of a text accepts an alphabet if its class and its pattern both have just the
characters of the alphabet. -/
theorem acceptsOver_onText (name message : String) (set : CharSet) {source : String}
    {alphabet : Char → Prop} {holds : Char → Bool} (hholds : ∀ c, holds c = true ↔ alphabet c)
    (hset : ∀ c, set.mem c = true ↔ alphabet c)
    (hsource : parse? source.toList = some (.whole (.repeated 1 none true (.chars set)))) :
    (onText name message (isMadeOf holds)).AcceptsOver source alphabet := by
  have hmade : ∀ text, isMadeOf holds text = true ↔ text ≠ [] ∧ ∀ c ∈ text, alphabet c := fun text => by
    simp only [isMadeOf_iff, hholds]
  constructor
  case passes_iff =>
    intro context
    simp only [check_onText, Except.ok.injEq, Context.holdsText_iff, hmade, ne_eq, String.toList_eq_nil_iff]
  case found_iff =>
    intro context params text
    rw [passes_onText_iff, hmade, foundIn_iff hsource, Expr.occursIn_whole_repeated_iff,
      Nat.one_le_iff_ne_zero, ne_eq, ne_eq, List.length_eq_zero_iff]
    simp only [hset]
  case append =>
    intro context params first second hfirst hsecond
    rw [passes_onText_iff, hmade] at hfirst hsecond ⊢
    rw [String.toList_append, List.forall_mem_append]
    exact ⟨List.append_ne_nil_of_left_ne_nil hfirst.1 _, hfirst.2, hsecond.2⟩
  case insert =>
    intro c hc context params front back
    rw [check_onText, Except.ok.injEq, ← Bool.not_eq_true, Context.holdsText_iff]
    rintro ⟨text, htext, hmadeOf⟩
    cases htext
    rw [hmade] at hmadeOf
    exact hc (hmadeOf.2 c (by simp))

theorem alpha_acceptsOver : alpha.AcceptsOver "^[a-zA-Z]+$" IsLetter := by
  refine acceptsOver_onText _ _ ⟨[(65, 90), (97, 122)]⟩ (fun _ => isAlpha_iff) (fun c => ?_)
    (by decide +kernel)
  rw [CharSet.mem_iff (by decide), isLetter_iff_toNat]
  simp only [List.mem_cons, List.not_mem_nil, or_false, exists_eq_or_imp, exists_eq_left]

theorem alphaNumeric_acceptsOver :
    alphaNumeric.AcceptsOver "^[a-zA-Z0-9]+$" fun c => IsLetter c ∨ IsDigit c := by
  refine acceptsOver_onText _ _ ⟨[(48, 57), (65, 90), (97, 122)]⟩ (fun _ => isAlphanum_iff)
    (fun c => ?_) (by decide +kernel)
  rw [CharSet.mem_iff (by decide), isLetter_iff_toNat, isDigit_iff_toNat]
  simp only [List.mem_cons, List.not_mem_nil, or_false, exists_eq_or_imp, exists_eq_left]
  omega

theorem alphaDash_acceptsOver :
    alphaDash.AcceptsOver "^[a-zA-Z0-9_-]+$" fun c => IsLetter c ∨ IsDigit c ∨ c = '-' ∨ c = '_' := by
  refine acceptsOver_onText _ _ ⟨[(45, 45), (48, 57), (65, 90), (95, 95), (97, 122)]⟩
    (fun c => ?_) (fun c => ?_) (by decide +kernel)
  · simp only [Bool.or_eq_true, isAlphanum_iff, beq_iff_eq, or_assoc, or_comm (a := c = '-')]
  · rw [CharSet.mem_iff (by decide), isLetter_iff_toNat, isDigit_iff_toNat, ← Char.toNat_inj,
      ← Char.toNat_inj]
    simp only [List.mem_cons, List.not_mem_nil, or_false, exists_eq_or_imp, exists_eq_left, Char.reduceToNat]
    omega

/-- Letters are accepted by one rule, digits too by the second, dashes and underscores too by the third; and
so each of the rules passes where the one before it passes. -/
theorem accept_alphabets :
    alpha.AcceptsOver "^[a-zA-Z]+$" IsLetter ∧
    alphaNumeric.AcceptsOver "^[a-zA-Z0-9]+$" (fun c => IsLetter c ∨ IsDigit c) ∧
    alphaDash.AcceptsOver "^[a-zA-Z0-9_-]+$" (fun c => IsLetter c ∨ IsDigit c ∨ c = '-' ∨ c = '_') ∧
    ∀ context : Context,
      (alpha.check context = .ok true → alphaNumeric.check context = .ok true) ∧
      (alphaNumeric.check context = .ok true → alphaDash.check context = .ok true) := by
  refine ⟨alpha_acceptsOver, alphaNumeric_acceptsOver, alphaDash_acceptsOver, fun context => ?_⟩
  rw [alpha_acceptsOver.passes_iff, alphaNumeric_acceptsOver.passes_iff, alphaDash_acceptsOver.passes_iff]
  constructor
  · rintro ⟨text, hvalue, hne, hletters⟩
    exact ⟨text, hvalue, hne, fun c hc => Or.inl (hletters c hc)⟩
  · rintro ⟨text, hvalue, hne, hchars⟩
    exact ⟨text, hvalue, hne, fun c hc => (hchars c hc).imp_right Or.inl⟩

end Rule

end FormRules
