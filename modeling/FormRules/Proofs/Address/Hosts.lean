/-
The search expressions for hosts.

A host in a web address is matched as four numbers or as labels with dots between them, and what may follow
it as a port and a tail.  What is matched in this way is what is accepted for a host with what follows it.
-/
import FormRules.Proofs.Address.Authority
import FormRules.Proofs.Pattern.Preference
import FormRules.Proofs.Rule.Alphabets
import FormRules.Proofs.Text.Pieces
import FormRules.Proofs.Text.Ranges
import Mathlib.Data.List.Induction

namespace FormRules.Address

open Text Pattern Pattern.Expr

/-! ### The expressions -/

/-- The digits from one to another. -/
def digitSpan (low high : Nat) : CharSet := ⟨[(48 + low, 48 + high)]⟩

def digitExpr : Expr := .chars (digitSpan 0 9)

/-- The numbers from 1 to two hundred and so many tens and ones, without zeros in front. -/
def upToExpr (tens ones : Nat) : Expr :=
  .either (.seq (.chars (digitSpan 1 9)) (.repeated 0 (some 1) true digitExpr))
    (.either (.seq (.text ['1']) (.seq digitExpr digitExpr))
      (.either (.seq (.text ['2']) (.seq (.chars (digitSpan 0 (tens - 1))) digitExpr))
        (.seq (.text ['2', tens.digitChar]) (.chars (digitSpan 0 ones)))))

/-- One or two digits, possibly behind a one. -/
def shortExpr : Expr :=
  .seq (.repeated 0 (some 1) true (.text ['1'])) (.repeated 1 (some 2) true digitExpr)

/-- The numbers up to 255 in at most three digits. -/
def middleExpr : Expr :=
  .either shortExpr
    (.either (.seq (.text ['2']) (.seq (.chars (digitSpan 0 4)) digitExpr))
      (.seq (.text ['2', '5']) (.chars (digitSpan 0 5))))

/-- Four numbers with dots between them. -/
def dottedExpr : Expr :=
  .seq (upToExpr 2 3) (.seq (.repeated 2 (some 2) true (.seq (.text ['.']) middleExpr))
    (.seq (.text ['.']) (upToExpr 5 4)))

def letterSet : CharSet := ⟨[(65, 90), (97, 122), (161, 65535)]⟩

def hostSet : CharSet := ⟨[(48, 57), (65, 90), (97, 122), (161, 65535)]⟩

/-- Characters of a host with dashes behind them. -/
def blocksExpr : Expr :=
  .repeated 0 none true (.seq (.chars hostSet) (.repeated 0 none true (.text ['-'])))

def hostRunExpr : Expr := .repeated 1 none true (.chars hostSet)

/-- Labels with dots in front of them, the last one of letters. -/
def labelsExpr : Expr :=
  .seq (.repeated 0 none true (.seq (.text ['.']) (.seq blocksExpr hostRunExpr)))
    (.seq (.text ['.']) (.repeated 2 none true (.chars letterSet)))

/-- Labels with dots between them, the last one of letters. -/
def nameExpr : Expr := .seq blocksExpr (.seq hostRunExpr labelsExpr)

/-- All characters but the blank ones. -/
def inkSet : CharSet :=
  ⟨[(0, 8), (14, 31), (33, 132), (134, 159), (161, 5759), (5761, 8191), (8203, 8231), (8234, 8238),
    (8240, 8286), (8288, 12287), (12289, 1114111)]⟩

def inkExpr (least : Nat) : Expr := .repeated least none true (.chars inkSet)

/-- A port and a tail, each of which may be missing, up to the end of the text. -/
def followExpr : Expr :=
  .seq (.repeated 0 (some 1) true (.seq (.text [':']) (.repeated 2 (some 5) true digitExpr)))
    (.seq (.repeated 0 (some 1) true (.seq (.chars ⟨[(35, 35), (47, 47), (63, 63)]⟩) (inkExpr 0)))
      (.edge .textEnd))

variable {before word after : List Char} {c : Char}

/-! ### Numbers -/

theorem mem_digitSpan_iff {low high : Nat} :
    (digitSpan low high).mem c = true ↔ 48 + low ≤ c.toNat ∧ c.toNat ≤ 48 + high := by
  have hascends : (digitSpan low high).ranges.Pairwise fun range later => range.1 ≤ later.1 :=
    List.pairwise_singleton _ _
  rw [CharSet.mem_iff hascends]
  simp [digitSpan]

theorem isAsciiDigit_iff : isAsciiDigit c = true ↔ 48 ≤ c.toNat ∧ c.toNat ≤ 57 :=
  decide_eq_true_iff

/-- The value of a digit. -/
def digitOf (c : Char) : Nat := c.toNat - 48

/-- A number in common digits without zeros in front, by the code points of the digits. -/
theorem isNumberBetween_iff {low high : Nat} {digits : List Char} :
    isNumberBetween low high digits = true ↔ (∀ c ∈ digits, 48 ≤ c.toNat ∧ c.toNat ≤ 57) ∧
      digits.head?.map Char.toNat ≠ some 48 ∧ low ≤ digits.foldl (fun n c => n * 10 + digitOf c) 0 ∧
        digits.foldl (fun n c => n * 10 + digitOf c) 0 ≤ high := by
  have hhead : digits.head? ≠ some '0' ↔ digits.head?.map Char.toNat ≠ some 48 := by
    cases digits <;> simp [← Char.toNat_inj]
  simp only [isNumberBetween, Bool.and_eq_true, List.all_eq_true, bne_iff_ne, decide_eq_true_eq, and_assoc,
    isAsciiDigit_iff, hhead]
  refine and_congr_right fun hdigits => ?_
  have hvalue : numberOf 10 digits = digits.foldl (fun n c => n * 10 + digitOf c) 0 := by
    refine List.foldl_ext _ _ _ fun n c hc => ?_
    rw [digitValue?_of_isAsciiDigit (isAsciiDigit_iff.mpr (hdigits c hc))]
    rfl
  rw [hvalue]

section Values

variable {low high : Nat} {d e : Char}

theorem isNumberBetween_one_iff : isNumberBetween low high [c] = true ↔
    (48 ≤ c.toNat ∧ c.toNat ≤ 57) ∧ c.toNat ≠ 48 ∧ low ≤ digitOf c ∧ digitOf c ≤ high := by
  rw [isNumberBetween_iff]
  simp only [List.forall_mem_singleton, List.head?_cons, Option.map_some, ne_eq, Option.some.injEq,
    List.foldl_cons, List.foldl_nil, Nat.zero_mul, Nat.zero_add]

theorem isNumberBetween_two_iff : isNumberBetween low high [c, d] = true ↔
    ((48 ≤ c.toNat ∧ c.toNat ≤ 57) ∧ 48 ≤ d.toNat ∧ d.toNat ≤ 57) ∧ c.toNat ≠ 48 ∧
      low ≤ digitOf c * 10 + digitOf d ∧ digitOf c * 10 + digitOf d ≤ high := by
  rw [isNumberBetween_iff, List.forall_mem_cons, List.forall_mem_singleton]
  simp only [List.head?_cons, Option.map_some, ne_eq, Option.some.injEq, List.foldl_cons, List.foldl_nil,
    Nat.zero_mul, Nat.zero_add]

theorem isNumberBetween_three_iff : isNumberBetween low high [c, d, e] = true ↔
    ((48 ≤ c.toNat ∧ c.toNat ≤ 57) ∧ (48 ≤ d.toNat ∧ d.toNat ≤ 57) ∧ 48 ≤ e.toNat ∧ e.toNat ≤ 57) ∧
      c.toNat ≠ 48 ∧ low ≤ (digitOf c * 10 + digitOf d) * 10 + digitOf e ∧
        (digitOf c * 10 + digitOf d) * 10 + digitOf e ≤ high := by
  rw [isNumberBetween_iff, List.forall_mem_cons, List.forall_mem_cons, List.forall_mem_singleton]
  simp only [List.head?_cons, Option.map_some, ne_eq, Option.some.injEq, List.foldl_cons, List.foldl_nil,
    Nat.zero_mul, Nat.zero_add]

end Values

theorem length_le_of_isNumberBetween {low high : Nat} {digits : List Char} (hlow : 0 < low)
    (hhigh : high ≤ 255) (h : isNumberBetween low high digits = true) : digits.length ≤ 3 := by
  refine (isOctet_of_isNumberBetween hlow hhigh h).length_le ?_
  have hhead : (digits.head? == some '0') = false := by
    simp only [isNumberBetween, Bool.and_eq_true, bne_iff_ne] at h
    simpa using h.1.2
  rw [hasLeadingZero, hhead, Bool.false_and]

theorem matches_either_iff {first second : Expr} : (either first second).Matches before word after ↔
    first.Matches before word after ∨ second.Matches before word after := Iff.rfl

theorem matches_digits_iff {low high : Nat} : (Expr.chars (digitSpan low high)).Matches before word after ↔
    ∃ c, word = [c] ∧ 48 + low ≤ c.toNat ∧ c.toNat ≤ 48 + high :=
  exists_congr fun _ => and_congr_right fun _ => mem_digitSpan_iff

section UpTo

variable {tens ones : Nat} (htens : tens ≤ 5)
include htens

/-- The code points of the digits in numbers of one, two and three digits. -/
theorem matches_upToExpr_cases : (upToExpr tens ones).Matches before word after ↔
    (∃ c, word = [c] ∧ 49 ≤ c.toNat ∧ c.toNat ≤ 57) ∨
      (∃ c d, word = [c, d] ∧ (49 ≤ c.toNat ∧ c.toNat ≤ 57) ∧ 48 ≤ d.toNat ∧ d.toNat ≤ 57) ∨
        ∃ c d e, word = [c, d, e] ∧
          (c.toNat = 49 ∧ (48 ≤ d.toNat ∧ d.toNat ≤ 57) ∧ 48 ≤ e.toNat ∧ e.toNat ≤ 57 ∨
            c.toNat = 50 ∧ (48 ≤ d.toNat ∧ d.toNat ≤ 48 + (tens - 1)) ∧ 48 ≤ e.toNat ∧ e.toNat ≤ 57 ∨
              c.toNat = 50 ∧ d.toNat = 48 + tens ∧ 48 ≤ e.toNat ∧ e.toNat ≤ 48 + ones) := by
  have hchar : (tens.digitChar).toNat = 48 + tens := Nat.toNat_digitChar_of_lt_ten (by omega)
  have hne : ∀ {c : Char} {rest : List Char}, c :: rest ≠ [] := List.cons_ne_nil _ _
  simp only [upToExpr, matches_either_iff, matches_seq_chars_iff, matches_seq_text_iff hne,
    matches_optional_iff, digitExpr, matches_digits_iff, mem_digitSpan_iff]
  constructor
  · rintro (⟨c, _, rfl, hc, rfl | ⟨d, rfl, hd⟩⟩ | ⟨_, rfl, d, _, rfl, hd, e, rfl, he⟩ |
      ⟨_, rfl, d, _, rfl, hd, e, rfl, he⟩ | ⟨_, rfl, e, rfl, he⟩)
    · exact Or.inl ⟨c, rfl, hc⟩
    · exact Or.inr (Or.inl ⟨c, d, rfl, hc, hd⟩)
    · exact Or.inr (Or.inr ⟨'1', d, e, rfl, Or.inl ⟨rfl, hd, he⟩⟩)
    · exact Or.inr (Or.inr ⟨'2', d, e, rfl, Or.inr (Or.inl ⟨rfl, hd, he⟩)⟩)
    · exact Or.inr (Or.inr ⟨'2', tens.digitChar, e, rfl, Or.inr (Or.inr ⟨rfl, hchar, he⟩)⟩)
  · rintro (⟨c, rfl, hc⟩ | ⟨c, d, rfl, hc, hd⟩ | ⟨c, d, e, rfl, ⟨hc, hd, he⟩ | ⟨hc, hd, he⟩ | ⟨hc, hd, he⟩⟩)
    · exact Or.inl ⟨c, [], rfl, hc, Or.inl rfl⟩
    · exact Or.inl ⟨c, [d], rfl, hc, Or.inr ⟨d, rfl, hd⟩⟩
    · obtain rfl : c = '1' := Char.toNat_inj.mp hc
      exact Or.inr (Or.inl ⟨[d, e], rfl, d, [e], rfl, hd, e, rfl, he⟩)
    · obtain rfl : c = '2' := Char.toNat_inj.mp hc
      exact Or.inr (Or.inr (Or.inl ⟨[d, e], rfl, d, [e], rfl, hd, e, rfl, he⟩))
    · obtain rfl : c = '2' := Char.toNat_inj.mp hc
      obtain rfl : d = tens.digitChar := Char.toNat_inj.mp (hd.trans hchar.symm)
      exact Or.inr (Or.inr (Or.inr ⟨[e], rfl, e, rfl, he⟩))

theorem matches_upToExpr_iff (hfirst : 1 ≤ tens) (hones : ones ≤ 5) :
    (upToExpr tens ones).Matches before word after ↔
      isNumberBetween 1 (200 + 10 * tens + ones) word = true := by
  rw [matches_upToExpr_cases htens]
  constructor
  · rintro (⟨c, rfl, hc⟩ | ⟨c, d, rfl, hc, hd⟩ | ⟨c, d, e, rfl, hcases⟩)
    · rw [isNumberBetween_one_iff, digitOf]
      omega
    · rw [isNumberBetween_two_iff, digitOf, digitOf]
      omega
    · rw [isNumberBetween_three_iff, digitOf, digitOf, digitOf]
      omega
  · intro h
    have hmost := length_le_of_isNumberBetween Nat.one_pos (by omega) h
    obtain hlength | hlength | hlength | hlength :
        word.length = 0 ∨ word.length = 1 ∨ word.length = 2 ∨ word.length = 3 := by omega
    · obtain rfl := List.length_eq_zero_iff.mp hlength
      exact absurd (isNumberBetween_iff.mp h).2.2.1 (Nat.not_succ_le_zero 0)
    · obtain ⟨c, rfl⟩ := List.length_eq_one_iff.mp hlength
      rw [isNumberBetween_one_iff, digitOf] at h
      exact Or.inl ⟨c, rfl, by omega⟩
    · obtain ⟨c, d, rfl⟩ := List.length_eq_two.mp hlength
      rw [isNumberBetween_two_iff, digitOf, digitOf] at h
      exact Or.inr (Or.inl ⟨c, d, rfl, by omega⟩)
    · obtain ⟨c, d, e, rfl⟩ := List.length_eq_three.mp hlength
      rw [isNumberBetween_three_iff, digitOf, digitOf, digitOf] at h
      exact Or.inr (Or.inr ⟨c, d, e, rfl, by omega⟩)

end UpTo

theorem isMiddleOctet_iff {digits : List Char} : isMiddleOctet digits = true ↔
    (∀ c ∈ digits, 48 ≤ c.toNat ∧ c.toNat ≤ 57) ∧ (digits.length = 1 ∨ digits.length = 2 ∨
      digits.length = 3 ∧ isNumberBetween 100 255 digits = true) := by
  simp only [isMiddleOctet, Bool.and_eq_true, Bool.or_eq_true, List.all_eq_true, decide_eq_true_eq,
    isAsciiDigit_iff, or_assoc]

theorem matches_shortExpr_iff : shortExpr.Matches before word after ↔
    ∃ run, (word = run ∨ word = '1' :: run) ∧ (run.length = 1 ∨ run.length = 2) ∧
      ∀ c ∈ run, 48 ≤ c.toNat ∧ c.toNat ≤ 57 := by
  have hrun : ∀ {before run after : List Char},
      (Expr.repeated 1 (some 2) true digitExpr).Matches before run after ↔
        (run.length = 1 ∨ run.length = 2) ∧ ∀ c ∈ run, 48 ≤ c.toNat ∧ c.toNat ≤ 57 := by
    intro before run after
    rw [digitExpr, matches_counted_chars_iff]
    simp only [mem_digitSpan_iff, Option.mem_some_iff, forall_eq']
    refine and_congr_left fun _ => ?_
    omega
  have hone : ∀ {before word after : List Char},
      (Expr.repeated 0 (some 1) true (.text ['1'])).Matches before word after ↔ word = [] ∨ word = ['1'] := by
    intro before word after
    rw [matches_optional_iff, matches_text_iff (List.cons_ne_nil _ _)]
  constructor
  · rintro ⟨u, run, rfl, hu, hmatches⟩
    refine ⟨run, ?_, hrun.mp hmatches⟩
    exact (hone.mp hu).imp (fun h => by rw [h, List.nil_append]) fun h => by rw [h]; rfl
  · rintro ⟨run, rfl | rfl, hdigits⟩
    · exact ⟨[], word, rfl, hone.mpr (Or.inl rfl), hrun.mpr hdigits⟩
    · exact ⟨['1'], run, rfl, hone.mpr (Or.inr rfl), hrun.mpr hdigits⟩

theorem matches_middleExpr_iff : middleExpr.Matches before word after ↔ isMiddleOctet word = true := by
  have hne : ∀ {c : Char} {rest : List Char}, c :: rest ≠ [] := List.cons_ne_nil _ _
  simp only [isMiddleOctet_iff, middleExpr, matches_either_iff, matches_shortExpr_iff, matches_seq_chars_iff,
    matches_seq_text_iff hne, digitExpr, matches_digits_iff, mem_digitSpan_iff]
  have hone : '1'.toNat = 49 := rfl
  have htwo : '2'.toNat = 50 := rfl
  have hfive : '5'.toNat = 53 := rfl
  have hthree : ∀ {c d e : Char}, isNumberBetween 100 255 [c, d, e] = true →
      (∀ f ∈ [c, d, e], 48 ≤ f.toNat ∧ f.toNat ≤ 57) ∧ ([c, d, e].length = 1 ∨ [c, d, e].length = 2 ∨
        [c, d, e].length = 3 ∧ isNumberBetween 100 255 [c, d, e] = true) :=
    fun h => ⟨(isNumberBetween_iff.mp h).1, Or.inr (Or.inr ⟨rfl, h⟩)⟩
  constructor
  · rintro (⟨run, rfl | rfl, hlength, hdigits⟩ | ⟨_, rfl, d, _, rfl, hd, e, rfl, he⟩ | ⟨_, rfl, e, rfl, he⟩)
    · exact ⟨hdigits, hlength.imp_right Or.inl⟩
    · rcases hlength with hlength | hlength
      · exact ⟨List.forall_mem_cons.mpr ⟨by decide, hdigits⟩, Or.inr (Or.inl (congrArg Nat.succ hlength))⟩
      · obtain ⟨d, e, rfl⟩ := List.length_eq_two.mp hlength
        rw [List.forall_mem_cons, List.forall_mem_singleton] at hdigits
        refine hthree ?_
        rw [isNumberBetween_three_iff, digitOf, digitOf, digitOf]
        omega
    · refine hthree ?_
      rw [isNumberBetween_three_iff, digitOf, digitOf, digitOf]
      omega
    · refine hthree ?_
      rw [isNumberBetween_three_iff, digitOf, digitOf, digitOf]
      omega
  · rintro ⟨hdigits, hlength | hlength | ⟨hlength, hbetween⟩⟩
    · exact Or.inl ⟨word, Or.inl rfl, Or.inl hlength, hdigits⟩
    · exact Or.inl ⟨word, Or.inl rfl, Or.inr hlength, hdigits⟩
    · obtain ⟨c, d, e, rfl⟩ := List.length_eq_three.mp hlength
      rw [isNumberBetween_three_iff, digitOf, digitOf, digitOf] at hbetween
      obtain hc | ⟨hc, hd⟩ | ⟨hc, hd, he⟩ : c.toNat = 49 ∨ (c.toNat = 50 ∧ d.toNat ≤ 52) ∨
          c.toNat = 50 ∧ d.toNat = 53 ∧ e.toNat ≤ 53 := by omega
      · obtain rfl : c = '1' := Char.toNat_inj.mp hc
        exact Or.inl ⟨[d, e], Or.inr rfl, Or.inr rfl, (List.forall_mem_cons.mp hdigits).2⟩
      · obtain rfl : c = '2' := Char.toNat_inj.mp hc
        exact Or.inr (Or.inl ⟨[d, e], rfl, d, [e], rfl, by omega, e, rfl, by omega⟩)
      · obtain rfl : c = '2' := Char.toNat_inj.mp hc
        obtain rfl : d = '5' := Char.toNat_inj.mp hd
        exact Or.inr (Or.inr ⟨[e], rfl, e, rfl, by omega⟩)

theorem IsOctet.dot_notMem {digits : List Char} (h : IsOctet digits) : '.' ∉ digits :=
  fun hdot => absurd (h.isAsciiDigit_of_mem '.' hdot) (by decide)

/-- A dotted host is put together from four numbers. -/
theorem isDottedHost_iff {host : List Char} : isDottedHost host = true ↔
    ∃ a b c d, host = ['.'].intercalate [a, b, c, d] ∧ isNumberBetween 1 223 a = true ∧
      isMiddleOctet b = true ∧ isMiddleOctet c = true ∧ isNumberBetween 1 254 d = true := by
  constructor
  · intro h
    obtain ⟨a, b, c, d, hpieces, _⟩ := octets_of_isDottedHost h
    rw [isDottedHost, hpieces] at h
    simp only [Bool.and_eq_true, and_assoc] at h
    have hhost : ['.'].intercalate (pieces (· == '.') host) = host := intercalate_pieces
    rw [hpieces] at hhost
    exact ⟨a, b, c, d, hhost.symm, h⟩
  · rintro ⟨a, b, c, d, rfl, ha, hb, hc, hd⟩
    have hdots : ∀ part ∈ [a, b, c, d], '.' ∉ part := by
      simp only [List.forall_mem_cons]
      exact ⟨(isOctet_of_isNumberBetween Nat.one_pos (by decide) ha).dot_notMem,
        (isOctet_of_isMiddleOctet hb).dot_notMem, (isOctet_of_isMiddleOctet hc).dot_notMem,
        (isOctet_of_isNumberBetween Nat.one_pos (by decide) hd).dot_notMem, List.forall_mem_nil _⟩
    rw [isDottedHost, (pieces_eq_iff (List.cons_ne_nil _ _) hdots).mpr rfl]
    simp only [ha, hb, hc, hd, Bool.and_self]

theorem matches_dottedExpr_iff : dottedExpr.Matches before word after ↔ isDottedHost word = true := by
  have hne : ['.'] ≠ [] := List.cons_ne_nil _ _
  have hmiddle : middleExpr.Writes (fun part => isMiddleOctet part = true) id := by
    intro before word after
    simp [matches_middleExpr_iff]
  have hmiddles := (hmiddle.behind hne).counted 2 (some 2) true
  have hfirst : ∀ {before word after : List Char},
      (upToExpr 2 3).Matches before word after ↔ isNumberBetween 1 223 word = true :=
    matches_upToExpr_iff (by decide) (by decide) (by decide)
  have hlast : ∀ {before word after : List Char},
      (upToExpr 5 4).Matches before word after ↔ isNumberBetween 1 254 word = true :=
    matches_upToExpr_iff (by decide) (by decide) (by decide)
  rw [isDottedHost_iff]
  constructor
  · rintro ⟨a, _, rfl, ha, _, _, rfl, hinner, houter⟩
    obtain ⟨d, rfl, hd⟩ := (matches_seq_text_iff hne).mp houter
    obtain ⟨parts, ⟨⟨hleast, hmost⟩, hparts⟩, rfl⟩ := (hmiddles _ _ _).mp hinner
    obtain ⟨b, c, rfl⟩ := List.length_eq_two.mp (Nat.le_antisymm (hmost 2 rfl) hleast)
    simp only [List.forall_mem_cons] at hparts
    refine ⟨a, b, c, d, ?_, hfirst.mp ha, hparts.1, hparts.2.1, hlast.mp hd⟩
    simp
  · rintro ⟨a, b, c, d, rfl, ha, hb, hc, hd⟩
    have hparts : ∀ part ∈ [b, c], isMiddleOctet part = true := by
      simp only [List.forall_mem_cons]
      exact ⟨hb, hc, List.forall_mem_nil _⟩
    exact ⟨a, _, intercalate_cons, hfirst.mpr ha, _, '.' :: d, by simp,
      (hmiddles _ _ _).mpr ⟨[b, c], ⟨⟨le_rfl, by simp⟩, hparts⟩, rfl⟩,
      (matches_seq_text_iff hne).mpr ⟨d, rfl, hlast.mpr hd⟩⟩

/-! ### Names -/

theorem mem_letterSet_iff : letterSet.mem c = true ↔ isDomainLetter c = true := by
  rw [CharSet.mem_iff (by decide), isDomainLetter, Bool.or_eq_true, isAlpha_iff, isLetter_iff_toNat,
    decide_eq_true_eq]
  simp only [letterSet, List.mem_cons, List.not_mem_nil, or_false, exists_eq_or_imp, exists_eq_left]
  omega

theorem mem_hostSet_iff : hostSet.mem c = true ↔ isHostChar c = true := by
  rw [CharSet.mem_iff (by decide), isHostChar, isDomainLetter, Bool.or_eq_true, Bool.or_eq_true, isAlpha_iff,
    isLetter_iff_toNat, decide_eq_true_eq, isAsciiDigit_iff]
  simp only [hostSet, List.mem_cons, List.not_mem_nil, or_false, exists_eq_or_imp, exists_eq_left]
  omega

theorem isHostLabel_iff {label : List Char} : isHostLabel label = true ↔
    (∀ c ∈ label, isHostChar c = true ∨ c = '-') ∧ (∃ c ∈ label.head?, isHostChar c = true) ∧
      ∃ c ∈ label.getLast?, isHostChar c = true := by
  cases hlast : label.getLast? with
  | none => simp [isHostLabel, hlast]
  | some last =>
      cases hfirst : label.head? with
      | none => simp [isHostLabel, hfirst]
      | some first =>
          simp only [isHostLabel, hfirst, hlast, Bool.and_eq_true, List.all_eq_true, Bool.or_eq_true,
            beq_iff_eq, Option.mem_some_iff, exists_eq_left']
          exact and_comm

/-- A character with dashes behind it. -/
def blockText (block : Char × Nat) : List Char := block.1 :: List.replicate block.2 '-'

/-- A row that does not begin with a dash is cut in front of every character but a dash. -/
theorem exists_blocks {row : List Char} (hrow : ∀ c ∈ row, isHostChar c = true ∨ c = '-')
    (hfirst : ∀ c ∈ row.head?, isHostChar c = true) :
    ∃ blocks : List (Char × Nat), (∀ block ∈ blocks, isHostChar block.1 = true) ∧
      row = blocks.flatMap blockText := by
  induction row using List.reverseRecOn with
  | nil => exact ⟨[], List.forall_mem_nil _, rfl⟩
  | append_singleton row c ih =>
      rw [List.forall_mem_append, List.forall_mem_singleton] at hrow
      have hfront : ∀ d ∈ row.head?, isHostChar d = true := by
        intro d hd
        refine hfirst d ?_
        rw [List.head?_append, Option.mem_def.mp hd]
        rfl
      obtain ⟨blocks, hblocks, rfl⟩ := ih hrow.1 hfront
      by_cases hc : isHostChar c = true
      · refine ⟨blocks ++ [(c, 0)], ?_, by simp [blockText]⟩
        exact List.forall_mem_append.mpr ⟨hblocks, List.forall_mem_singleton.mpr hc⟩
      · obtain rfl := hrow.2.resolve_left hc
        obtain rfl | ⟨others, ⟨d, n⟩, rfl⟩ := List.eq_nil_or_concat' blocks
        · exact absurd (hfirst '-' rfl) hc
        · rw [List.forall_mem_append, List.forall_mem_singleton] at hblocks
          refine ⟨others ++ [(d, n + 1)], ?_, by simp [blockText, List.replicate_succ']⟩
          exact List.forall_mem_append.mpr ⟨hblocks.1, List.forall_mem_singleton.mpr hblocks.2⟩

theorem writes_blocksExpr : blocksExpr.Writes
    (fun blocks : List (Char × Nat) => 0 ≤ blocks.length ∧ ∀ block ∈ blocks, isHostChar block.1 = true)
      fun blocks => blocks.flatMap blockText := by
  have hdashes : ∀ {before word after : List Char},
      (Expr.repeated 0 none true (.text ['-'])).Matches before word after ↔
        ∃ n, word = List.replicate n '-' := by
    intro before word after
    have hdash : (Expr.text ['-']).Writes (fun _ : Unit => True) fun _ => ['-'] := by
      intro before word after
      simp [matches_text_iff]
    have hrow : ∀ list : List Unit, (list.flatMap fun _ => ['-']) = List.replicate list.length '-' := by
      intro list
      rw [← List.map_const', List.map_eq_flatMap]
    rw [hdash.repeated 0 true before word after]
    constructor
    · rintro ⟨list, _, rfl⟩
      exact ⟨list.length, hrow list⟩
    · rintro ⟨n, rfl⟩
      refine ⟨List.replicate n (), ⟨Nat.zero_le _, fun _ _ => trivial⟩, ?_⟩
      exact ((hrow _).trans (by rw [List.length_replicate])).symm
  refine Writes.repeated (fun before word after => ?_) 0 true
  rw [matches_seq_chars_iff]
  simp only [mem_hostSet_iff, hdashes]
  constructor
  · rintro ⟨c, _, rfl, hc, n, rfl⟩
    exact ⟨(c, n), hc, rfl⟩
  · rintro ⟨⟨c, n⟩, hc, rfl⟩
    exact ⟨c, _, rfl, hc, n, rfl⟩

theorem matches_hostRunExpr_iff : hostRunExpr.Matches before word after ↔
    word ≠ [] ∧ ∀ c ∈ word, isHostChar c = true := by
  rw [hostRunExpr, matches_counted_chars_iff]
  simp [mem_hostSet_iff, Nat.one_le_iff_ne_zero]

/-- A label is matched as characters with dashes behind them and then characters without. -/
theorem matches_label_iff :
    (Expr.seq blocksExpr hostRunExpr).Matches before word after ↔ isHostLabel word = true := by
  rw [isHostLabel_iff]
  constructor
  · rintro ⟨_, run, rfl, hfront, hback⟩
    obtain ⟨blocks, ⟨_, hblocks⟩, rfl⟩ := (writes_blocksExpr _ _ _).mp hfront
    obtain ⟨hne, hrun⟩ := matches_hostRunExpr_iff.mp hback
    refine ⟨List.forall_mem_append.mpr ⟨fun c hc => ?_, fun c hc => Or.inl (hrun c hc)⟩, ?_, ?_⟩
    · obtain ⟨block, hblock, hc⟩ := List.mem_flatMap.mp hc
      rcases List.mem_cons.mp hc with rfl | hc
      · exact Or.inl (hblocks block hblock)
      · exact Or.inr (List.eq_of_mem_replicate hc)
    · cases blocks with
      | nil =>
          obtain ⟨c, rest, rfl⟩ := List.exists_cons_of_ne_nil hne
          exact ⟨c, rfl, hrun c List.mem_cons_self⟩
      | cons block others => exact ⟨block.1, rfl, hblocks block List.mem_cons_self⟩
    · refine ⟨run.getLast hne, ?_, hrun _ (List.getLast_mem hne)⟩
      rw [List.getLast?_append, List.getLast?_eq_some_getLast hne]
      rfl
  · rintro ⟨hlabel, ⟨first, hfirst, hhost⟩, last, hlast, hend⟩
    obtain ⟨front, rfl⟩ := List.getLast?_eq_some_iff.mp hlast
    rw [List.forall_mem_append] at hlabel
    have hfront : ∀ c ∈ front.head?, isHostChar c = true := by
      intro c hc
      rw [List.head?_append, Option.mem_def.mp hc] at hfirst
      obtain rfl : c = first := Option.some.inj hfirst
      exact hhost
    obtain ⟨blocks, hblocks, rfl⟩ := exists_blocks hlabel.1 hfront
    exact ⟨_, [last], rfl, (writes_blocksExpr _ _ _).mpr ⟨blocks, ⟨Nat.zero_le _, hblocks⟩, rfl⟩,
      matches_hostRunExpr_iff.mpr ⟨List.cons_ne_nil _ _, List.forall_mem_singleton.mpr hend⟩⟩

theorem dot_notMem_of_isHostLabel {label : List Char} (h : isHostLabel label = true) : '.' ∉ label := by
  intro hdot
  rcases (isHostLabel_iff.mp h).1 '.' hdot with hhost | hdash
  · exact absurd hhost (by decide)
  · exact absurd hdash (by decide)

theorem dot_notMem_of_isDomainLetter {top : List Char} (h : ∀ c ∈ top, isDomainLetter c = true) :
    '.' ∉ top :=
  fun hdot => absurd (h '.' hdot) (by decide)

/-- A domain name is put together from labels and a last one of letters. -/
theorem isDomainName_iff {name : List Char} : isDomainName name = true ↔
    ∃ first labels top, name = ['.'].intercalate (first :: labels ++ [top]) ∧
      (∀ label ∈ first :: labels, isHostLabel label = true) ∧ 2 ≤ top.length ∧
        ∀ c ∈ top, isDomainLetter c = true := by
  constructor
  · intro h
    obtain hnil | ⟨labels, top, hpieces⟩ := List.eq_nil_or_concat' (pieces (· == '.') name)
    · exact absurd hnil (pieces_ne_nil _ name)
    · have hname : ['.'].intercalate (pieces (· == '.') name) = name := intercalate_pieces
      rw [hpieces] at hname
      simp only [isDomainName, hpieces, List.length_append, List.length_singleton, List.dropLast_concat,
        List.getLast?_concat, Option.getD_some, Bool.and_eq_true, decide_eq_true_eq, List.all_eq_true] at h
      obtain ⟨⟨⟨hlength, hlabels⟩, hlong⟩, htop⟩ := h
      obtain ⟨first, labels, rfl⟩ := List.exists_cons_of_length_pos (Nat.le_of_succ_le_succ hlength)
      exact ⟨first, labels, top, hname.symm, hlabels, hlong, htop⟩
  · rintro ⟨first, labels, top, rfl, hlabels, hlong, htop⟩
    have hdots : ∀ part ∈ first :: labels ++ [top], '.' ∉ part := by
      rw [List.forall_mem_append, List.forall_mem_singleton]
      exact ⟨fun label hlabel => dot_notMem_of_isHostLabel (hlabels label hlabel),
        dot_notMem_of_isDomainLetter htop⟩
    simp only [isDomainName, (pieces_eq_iff (List.concat_ne_nil _ _) hdots).mpr rfl, List.length_append,
      List.length_singleton, List.dropLast_concat, List.getLast?_concat, Option.getD_some, Bool.and_eq_true,
      decide_eq_true_eq, List.all_eq_true]
    exact ⟨⟨⟨Nat.le_add_left 2 _, hlabels⟩, hlong⟩, htop⟩

theorem matches_nameExpr_iff : nameExpr.Matches before word after ↔ isDomainName word = true := by
  have hne : ['.'] ≠ [] := List.cons_ne_nil _ _
  have hlabel : (Expr.seq blocksExpr hostRunExpr).Writes (fun label => isHostLabel label = true) id := by
    intro before word after
    simp only [matches_label_iff, id_eq, exists_eq_right']
  have hlabels := (hlabel.behind hne).repeated 0 true
  have htop : ∀ {before word after : List Char},
      (Expr.repeated 2 none true (.chars letterSet)).Matches before word after ↔
        2 ≤ word.length ∧ ∀ c ∈ word, isDomainLetter c = true := by
    intro before word after
    rw [matches_counted_chars_iff]
    simp only [mem_letterSet_iff, Option.mem_def, reduceCtorEq, false_imp_iff, implies_true, and_true]
  have hparts : nameExpr.Matches before word after ↔
      (Expr.seq (.seq blocksExpr hostRunExpr) labelsExpr).Matches before word after := by
    have hassoc := Reading.seq_assoc blocksExpr.Matches hostRunExpr.Matches labelsExpr.Matches
    exact iff_of_eq (congrFun (congrFun (congrFun hassoc.symm before) word) after)
  have hname : ∀ (first : List Char) (labels : List (List Char)) (top : List Char),
      ['.'].intercalate (first :: labels ++ [top]) =
        first ++ ((labels.flatMap fun label => ['.'] ++ label) ++ (['.'] ++ top)) := by
    intro first labels top
    rw [List.cons_append, intercalate_cons, List.flatMap_append, List.flatMap_singleton]
  rw [hparts, isDomainName_iff]
  constructor
  · rintro ⟨first, _, rfl, hfirst, _, _, rfl, hmiddle, hlast⟩
    obtain ⟨labels, ⟨_, hmembers⟩, rfl⟩ := (hlabels _ _ _).mp hmiddle
    obtain ⟨top, rfl, hmatches⟩ := (matches_seq_text_iff hne).mp hlast
    exact ⟨first, labels, top, (hname first labels top).symm,
      List.forall_mem_cons.mpr ⟨matches_label_iff.mp hfirst, hmembers⟩, htop.mp hmatches⟩
  · rintro ⟨first, labels, top, rfl, hmembers, hmatches⟩
    rw [List.forall_mem_cons] at hmembers
    rw [hname]
    exact ⟨first, _, rfl, matches_label_iff.mpr hmembers.1, _, _, rfl,
      (hlabels _ _ _).mpr ⟨labels, ⟨Nat.zero_le _, hmembers.2⟩, rfl⟩,
      (matches_seq_text_iff hne).mpr ⟨top, rfl, htop.mpr hmatches⟩⟩

/-! ### What follows a host -/

theorem mem_inkSet_iff : inkSet.mem c = true ↔ isBlank c = false := by
  have hlast := toNat_le c
  rw [CharSet.mem_iff (by decide)]
  simp only [inkSet, isBlank, blankRanges, List.mem_cons, List.not_mem_nil, or_false, exists_eq_or_imp,
    exists_eq_left, List.any_cons, List.any_nil, Bool.or_false, Bool.or_eq_false_iff, decide_eq_false_iff_not]
  omega

theorem isTail_iff {tail : List Char} : isTail tail = true ↔ tail = [] ∨
    ∃ mark rest, tail = mark :: rest ∧ endsAuthority mark = true ∧ ∀ c ∈ rest, isBlank c = false := by
  cases tail with
  | nil => simp [isTail]
  | cons mark rest =>
      simp only [isTail, endsAuthority, Bool.and_eq_true, List.all_eq_true, Bool.not_eq_true',
        reduceCtorEq, false_or, List.cons.injEq]
      constructor
      · exact fun h => ⟨mark, rest, ⟨rfl, rfl⟩, h⟩
      · rintro ⟨_, _, ⟨rfl, rfl⟩, h⟩
        exact h

/-- A tail does not begin with a digit or a colon. -/
theorem head_of_isTail {tail : List Char} (h : isTail tail = true) :
    ∀ c ∈ tail.head?, isAsciiDigit c = false ∧ c ≠ ':' := by
  intro c hc
  have hends := endsAuthority_of_isTail h c hc
  simp only [endsAuthority, Bool.or_eq_true, beq_iff_eq] at hends
  rcases hends with (rfl | rfl) | rfl <;> decide

theorem isPortAndTail_iff {text : List Char} : isPortAndTail text = true ↔ isTail text = true ∨
    ∃ port tail, text = ':' :: (port ++ tail) ∧ (2 ≤ port.length ∧ port.length ≤ 5) ∧
      (∀ c ∈ port, isAsciiDigit c = true) ∧ isTail tail = true := by
  constructor
  · intro h
    unfold isPortAndTail at h
    split at h
    · rename_i rest
      rw [Bool.and_eq_true, decide_eq_true_eq] at h
      refine Or.inr ⟨_, _, ?_, h.1, List.all_eq_true.mp List.all_takeWhile, h.2⟩
      rw [List.takeWhile_append_dropWhile]
    · exact Or.inl h
  · rintro (h | ⟨port, tail, rfl, hlength, hport, htail⟩)
    · unfold isPortAndTail
      split
      · exact absurd rfl (head_of_isTail h ':' rfl).2
      · exact h
    · have hstop : tail.takeWhile isAsciiDigit = [] ∧ tail.dropWhile isAsciiDigit = tail := by
        cases tail with
        | nil => exact ⟨rfl, rfl⟩
        | cons c tail => simp [(head_of_isTail htail c rfl).1]
      rw [isPortAndTail, List.takeWhile_append_of_pos hport, List.dropWhile_append_of_pos hport, hstop.1,
        hstop.2, List.append_nil, Bool.and_eq_true, decide_eq_true_eq]
      exact ⟨hlength, htail⟩

theorem mem_tailMarks_iff :
    (⟨[(35, 35), (47, 47), (63, 63)]⟩ : CharSet).mem c = true ↔ endsAuthority c = true := by
  rw [CharSet.mem_iff (by decide)]
  simp only [endsAuthority, List.mem_cons, List.not_mem_nil, or_false, exists_eq_or_imp, exists_eq_left,
    Bool.or_eq_true, beq_iff_eq, ← Char.toNat_inj, Char.reduceToNat]
  omega

theorem matches_followExpr_iff :
    followExpr.Matches before word after ↔ after = [] ∧ isPortAndTail word = true := by
  have hport : ∀ {before word after : List Char},
      (Expr.repeated 0 (some 1) true (.seq (.text [':']) (.repeated 2 (some 5) true digitExpr))).Matches
        before word after ↔ word = [] ∨ ∃ port, word = ':' :: port ∧ (2 ≤ port.length ∧ port.length ≤ 5) ∧
          ∀ c ∈ port, isAsciiDigit c = true := by
    intro before word after
    rw [matches_optional_iff, matches_seq_text_iff (List.cons_ne_nil _ _)]
    simp only [digitExpr, matches_counted_chars_iff, mem_digitSpan_iff, isAsciiDigit_iff, Option.mem_some_iff,
      forall_eq', List.singleton_append]
    rfl
  have htail : ∀ {before word : List Char}, (Expr.repeated 0 (some 1) true
      (.seq (.chars ⟨[(35, 35), (47, 47), (63, 63)]⟩) (inkExpr 0))).Matches before word [] ↔
        isTail word = true := by
    intro before word
    rw [matches_optional_iff, matches_seq_chars_iff, isTail_iff]
    simp only [inkExpr, matches_counted_chars_iff, mem_tailMarks_iff, mem_inkSet_iff, Nat.zero_le,
      Option.mem_def, reduceCtorEq, false_imp_iff, implies_true, and_self, true_and]
  rw [isPortAndTail_iff]
  constructor
  · rintro ⟨front, tail, rfl, hfront, hback⟩
    obtain ⟨rfl, hmatches⟩ := matches_textEnd_iff.mp hback
    rcases hport.mp hfront with rfl | ⟨port, rfl, hlength, hdigits⟩
    · exact ⟨rfl, Or.inl (htail.mp hmatches)⟩
    · exact ⟨rfl, Or.inr ⟨port, tail, rfl, hlength, hdigits, htail.mp hmatches⟩⟩
  · rintro ⟨rfl, hback | ⟨port, tail, rfl, hlength, hdigits, hback⟩⟩
    · exact ⟨[], word, rfl, hport.mpr (Or.inl rfl), matches_textEnd_iff.mpr ⟨rfl, htail.mpr hback⟩⟩
    · exact ⟨':' :: port, tail, rfl, hport.mpr (Or.inr ⟨port, rfl, hlength, hdigits⟩),
        matches_textEnd_iff.mpr ⟨rfl, htail.mpr hback⟩⟩

/-! ### Hosts with what follows them -/

/-- A host that is kept, if it consists of numbers, with what follows it. -/
def hostExpr : Expr := .seq (.either (.group 1 dottedExpr) nameExpr) followExpr

theorem isHostEnd_of_isPortAndTail {text : List Char} (h : isPortAndTail text = true) :
    ∀ c ∈ text.head?, isHostEnd c = true := by
  rcases isPortAndTail_iff.mp h with htail | ⟨port, tail, rfl, _⟩
  · intro c hc
    rw [isHostEnd_eq, endsAuthority_of_isTail htail c hc, Bool.or_true]
  · rintro c hc
    obtain rfl : ':' = c := Option.some.inj hc
    rfl

/-- No mark that ends a host stands in one. -/
theorem isHostEnd_of_mem {host : List Char} (h : isDottedHost host = true ∨ isDomainName host = true) :
    ∀ c ∈ host, isHostEnd c = false := by
  intro c hc
  refine Bool.eq_false_iff.mpr fun hends => ?_
  simp only [isHostEnd, Bool.or_eq_true, beq_iff_eq] at hends
  rcases hends with ((rfl | rfl) | rfl) | rfl <;> exact absurd (isHostChar_of_mem h hc) (by decide)

/-- A text begins with the host that is matched. -/
theorem hostOf_of_isPortAndTail {host rest : List Char}
    (h : isDottedHost host = true ∨ isDomainName host = true) (hrest : isPortAndTail rest = true) :
    hostOf (host ++ rest) = host :=
  hostOf_append (isHostEnd_of_mem h) (isHostEnd_of_isPortAndTail hrest)

theorem hostOf_append_drop (text : List Char) : hostOf text ++ text.drop (hostOf text).length = text :=
  List.prefix_iff_eq_append.mp (List.takeWhile_prefix _)

theorem matches_hostExpr_iff :
    hostExpr.Matches before word after ↔ after = [] ∧ isHostAndRest word = true := by
  have hhost : ∀ {before word after : List Char},
      (Expr.either (.group 1 dottedExpr) nameExpr).Matches before word after ↔
        isDottedHost word = true ∨ isDomainName word = true :=
    or_congr matches_dottedExpr_iff matches_nameExpr_iff
  constructor
  · rintro ⟨host, rest, rfl, hfront, hback⟩
    obtain ⟨rfl, hfollow⟩ := matches_followExpr_iff.mp hback
    have hproper := hhost.mp hfront
    rw [isHostAndRest, hostOf_of_isPortAndTail hproper hfollow, List.drop_left, Bool.and_eq_true,
      Bool.or_eq_true]
    exact ⟨rfl, hproper, hfollow⟩
  · rintro ⟨rfl, h⟩
    rw [isHostAndRest, Bool.and_eq_true, Bool.or_eq_true] at h
    exact ⟨hostOf word, word.drop (hostOf word).length, (hostOf_append_drop word).symm, hhost.mpr h.1,
      matches_followExpr_iff.mpr ⟨rfl, h.2⟩⟩

/-- The last part of a domain name does not consist of digits. -/
theorem isDottedHost_eq_false_of_isDomainName {host : List Char} (h : isDomainName host = true) :
    isDottedHost host = false := by
  refine Bool.eq_false_iff.mpr fun hdotted => ?_
  obtain ⟨a, b, c, d, hpieces, hoctets⟩ := octets_of_isDottedHost hdotted
  obtain ⟨labels, top, hparts, _, hletters⟩ := labels_of_isDomainName h
  obtain rfl : d = top := by
    have hlast := congrArg List.getLast? (hpieces.symm.trans hparts)
    rw [List.getLast?_concat] at hlast
    exact Option.some.inj hlast
  have hoctet := hoctets d (by simp)
  obtain ⟨digit, rest, rfl⟩ := List.exists_cons_of_ne_nil hoctet.ne_nil
  have hletter := hletters digit List.mem_cons_self
  have hdigit := isAsciiDigit_iff.mp (hoctet.isAsciiDigit_of_mem digit List.mem_cons_self)
  rw [isDomainLetter, Bool.or_eq_true, isAlpha_iff, isLetter_iff_toNat, decide_eq_true_eq] at hletter
  omega

/-- What is left behind a text with a host that is kept if it consists of numbers. -/
def behindHost (place : Place) : Place :=
  if isDottedHost (hostOf place.rest) then (place.advance []).hold 1 (hostOf place.rest) else place.advance []

theorem eq_behindHost_of_mem_ends {place stop : Place} (h : stop ∈ hostExpr.ends place) :
    stop = behindHost place := by
  obtain ⟨middle, hfront, hback⟩ := List.mem_flatMap.mp h
  obtain ⟨tail, ⟨_, htail⟩, hmatches⟩ := spans_of_mem_ends hback
  obtain ⟨hend, hfollow⟩ := matches_followExpr_iff.mp hmatches
  have hstop := eq_advance_of_mem_ends rfl hback
  rw [hend] at hstop htail
  rw [List.append_nil] at htail
  subst htail
  have hlast : ([] : List Char) <:+ middle.rest := List.nil_suffix
  rcases List.mem_append.mp hfront with hnumbers | hname
  · obtain ⟨inner, hinner, rfl⟩ := List.mem_map.mp hnumbers
    obtain ⟨host, ⟨_, hrest⟩, hmatches⟩ := spans_of_mem_ends hinner
    have hdotted := matches_dottedExpr_iff.mp hmatches
    have hhost : hostOf place.rest = host := by
      rw [hrest]
      exact hostOf_of_isPortAndTail (Or.inl hdotted) hfollow
    rw [hstop, behindHost, hhost, if_pos hdotted, eq_advance_of_mem_ends rfl hinner,
      Place.keep_advance hrest, Place.advance_hold, Place.advance_advance ⟨host, hrest.symm⟩ hlast]
  · obtain ⟨host, ⟨_, hrest⟩, hmatches⟩ := spans_of_mem_ends hname
    have hdomain := matches_nameExpr_iff.mp hmatches
    have hhost : hostOf place.rest = host := by
      rw [hrest]
      exact hostOf_of_isPortAndTail (Or.inr hdomain) hfollow
    rw [hstop, behindHost, hhost, isDottedHost_eq_false_of_isDomainName hdomain, if_neg Bool.false_ne_true,
      eq_advance_of_mem_ends rfl hname, Place.advance_advance ⟨host, hrest.symm⟩ hlast]

/-- A host with what follows it is matched up to the end of the text. -/
theorem front?_hostExpr (place : Place) :
    hostExpr.front? place = if isHostAndRest place.rest then some (behindHost place) else none := by
  have hfound : (hostExpr.front? place).isSome = true ↔ isHostAndRest place.rest = true := by
    rw [front?_isSome_iff]
    constructor
    · rintro ⟨word, _, hrest, hmatches⟩
      obtain ⟨rfl, hproper⟩ := matches_hostExpr_iff.mp hmatches
      rwa [hrest, List.append_nil]
    · exact fun h => ⟨place.rest, [], (List.append_nil _).symm, matches_hostExpr_iff.mpr ⟨rfl, h⟩⟩
  cases hfront : hostExpr.front? place with
  | none =>
      rw [hfront] at hfound
      rw [if_neg (mt hfound.mpr Bool.false_ne_true)]
  | some stop =>
      rw [if_pos (hfound.mp (by rw [hfront]; rfl)), ← eq_behindHost_of_mem_ends (List.mem_of_head? hfront)]

end FormRules.Address
