/-
What expressions match.

An expression matches a part of a text, given what stands in front of the part and behind it.  The search by
sets of positions finds exactly the texts in which a part is matched.
-/
import FormRules.Proofs.Pattern.Positions

namespace FormRules.Pattern

/-- A condition on a part of a text, between what stands in front of it and what stands behind. -/
abbrev Reading := List Char → List Char → List Char → Prop

namespace Reading

/-- A part and then another one. -/
def seq (first second : Reading) : Reading := fun before word after =>
  ∃ u v, word = u ++ v ∧ first before u (v ++ after) ∧ second (before ++ u) v after

/-- So many parts, one after another. -/
def rounds (body : Reading) : Nat → Reading
  | 0 => fun _ word _ => word = []
  | n + 1 => body.seq (body.rounds n)

theorem seq_assoc (first second third : Reading) :
    (first.seq second).seq third = first.seq (second.seq third) := by
  funext before word after
  refine propext ⟨?_, ?_⟩
  · rintro ⟨_, w, rfl, ⟨u, v, rfl, hfirst, hsecond⟩, hthird⟩
    rw [← List.append_assoc] at hthird
    refine ⟨u, v ++ w, List.append_assoc u v w, ?_, v, w, rfl, hsecond, hthird⟩
    rwa [List.append_assoc]
  · rintro ⟨u, _, rfl, hfirst, v, w, rfl, hsecond, hthird⟩
    rw [List.append_assoc] at hfirst hthird
    exact ⟨u ++ v, w, (List.append_assoc u v w).symm, ⟨u, v, rfl, hfirst, hsecond⟩, hthird⟩

/-- So many rounds and then more of them. -/
theorem rounds_add (body : Reading) (m n : Nat) :
    body.rounds (m + n) = (body.rounds m).seq (body.rounds n) := by
  induction m with
  | zero =>
      rw [Nat.zero_add]
      funext before word after
      refine propext ⟨fun h => ⟨[], word, rfl, rfl, by rwa [List.append_nil]⟩, ?_⟩
      rintro ⟨_, v, rfl, rfl, h⟩
      rwa [List.append_nil] at h
  | succ m ih => rw [Nat.succ_add, rounds, ih, rounds, seq_assoc]

/-- A condition on the part between two positions of a text. -/
def At (reading : Reading) (text : List Char) (i j : Nat) : Prop :=
  ∃ before word after, text = before ++ (word ++ after) ∧ before.length = i ∧ i + word.length = j ∧
    reading before word after

variable {reading first second body : Reading} {text : List Char} {i j n : Nat}

theorem At.le (h : reading.At text i j) : i ≤ j := by
  obtain ⟨before, word, after, _, _, hj, _⟩ := h
  omega

theorem At.le_length (h : reading.At text i j) : j ≤ text.length := by
  obtain ⟨before, word, after, rfl, rfl, rfl, _⟩ := h
  simp [← Nat.add_assoc]

/-- From the end of a beginning on, the part stands behind this beginning. -/
theorem at_append_iff {before rest : List Char} :
    reading.At (before ++ rest) before.length j ↔
      ∃ word after, rest = word ++ after ∧ before.length + word.length = j ∧ reading before word after := by
  constructor
  · rintro ⟨before', word, after, htext, hlength, hj, hreading⟩
    obtain ⟨rfl, rfl⟩ := List.append_inj htext hlength.symm
    exact ⟨word, after, rfl, hj, hreading⟩
  · rintro ⟨word, after, rfl, hj, hreading⟩
    exact ⟨before, word, after, rfl, rfl, hj, hreading⟩

theorem at_seq_iff :
    (first.seq second).At text i j ↔ ∃ k, first.At text i k ∧ second.At text k j := by
  constructor
  · rintro ⟨before, _, after, rfl, rfl, rfl, u, v, rfl, hfirst, hsecond⟩
    refine ⟨before.length + u.length, ⟨before, u, v ++ after, by simp, rfl, rfl, hfirst⟩,
      ⟨before ++ u, v, after, by simp, by simp, by simp [Nat.add_assoc], hsecond⟩⟩
  · rintro ⟨_, ⟨before, u, rest, rfl, rfl, rfl, hfirst⟩, hsecond⟩
    rw [← List.append_assoc, ← List.length_append, at_append_iff] at hsecond
    obtain ⟨v, after, rfl, rfl, hsecond⟩ := hsecond
    exact ⟨before, u ++ v, after, by simp, rfl, by simp [Nat.add_assoc], u, v, rfl, hfirst, hsecond⟩

theorem at_rounds_iff (hi : i ≤ text.length) :
    (body.rounds n).At text i j ↔ Steps (body.At text) n i j := by
  induction n generalizing i with
  | zero =>
      rw [Steps.zero_iff]
      constructor
      · rintro ⟨before, _, after, rfl, rfl, rfl, rfl⟩
        simp
      · rintro rfl
        refine ⟨text.take i, [], text.drop i, by simp, by simp [hi], rfl, rfl⟩
  | succ n ih =>
      rw [rounds, at_seq_iff, Steps.succ_iff]
      exact exists_congr fun k => and_congr_right fun hk => ih hk.le_length

end Reading

namespace Expr

/-- What an expression matches, between what stands in front and behind. -/
def Matches : Expr → Reading
  | empty, _, word, _ => word = []
  -- A text is looked for at the positions that have a character behind them.
  | text run, _, word, after => word = run ∧ run ++ after ≠ []
  | chars set, _, word, _ => ∃ c, word = [c] ∧ set.mem c = true
  | edge condition, before, word, after =>
      word = [] ∧ condition.holds before.getLast? after.head? = true
  | group _ body, before, word, after => body.Matches before word after
  | seq first second, before, word, after => Reading.seq first.Matches second.Matches before word after
  | either first second, before, word, after =>
      first.Matches before word after ∨ second.Matches before word after
  | repeated least most _ body, before, word, after =>
      ∃ n, least ≤ n ∧ (∀ limit ∈ most, n ≤ max least limit) ∧ body.Matches.rounds n before word after

end Expr

/-- The character behind a beginning is the first of what follows it. -/
theorem getElem?_append_length (before rest : List Char) :
    (before ++ rest).toArray[before.length]? = rest.head? := by
  rw [List.getElem?_toArray, List.getElem?_append_right le_rfl, Nat.sub_self, List.head?_eq_getElem?]

/-- A run stands behind a beginning exactly if what follows the beginning starts with it. -/
theorem standsAt_iff {before rest run : List Char} :
    standsAt (before ++ rest).toArray run before.length = true ↔ run <+: rest := by
  induction run generalizing before rest with
  | nil => simp [standsAt]
  | cons c run ih =>
      rw [standsAt, Bool.and_eq_true, getElem?_append_length, beq_iff_eq]
      cases rest with
      | nil => simp
      | cons d rest =>
          have hnext : standsAt (before ++ [d] ++ rest).toArray run (before ++ [d]).length = true ↔
              run <+: rest := ih
          rw [List.append_assoc, List.singleton_append, List.length_append, List.length_singleton] at hnext
          rw [hnext, List.cons_prefix_cons, List.head?_cons, Option.some.injEq, eq_comm]

/-- The characters around a position are the last in front of it and the first behind it. -/
theorem holdsAt_append (before rest : List Char) (condition : Edge) :
    holdsAt (before ++ rest).toArray condition before.length =
      condition.holds before.getLast? rest.head? := by
  have hfront : (if before.length = 0 then none else (before ++ rest).toArray[before.length - 1]?) =
      before.getLast? := by
    rw [List.getLast?_eq_getElem?]
    cases before with
    | nil => rfl
    | cons c before =>
        rw [if_neg (by simp), List.getElem?_toArray, List.getElem?_append_left (by simp)]
  rw [holdsAt, hfront, getElem?_append_length]

namespace Expr

section Leaves

variable {before rest : List Char} {j : Nat}

theorem leads_empty_iff :
    (empty.movesIn (before ++ rest).toArray).Leads before.length j ↔
      Reading.At empty.Matches (before ++ rest) before.length j := by
  rw [Reading.at_append_iff]
  simp only [movesIn, Moves.Leads, Matches]
  constructor
  · rintro rfl
    exact ⟨[], rest, rfl, rfl, rfl⟩
  · rintro ⟨_, after, _, rfl, rfl⟩
    rfl

theorem leads_text_iff (run : List Char) :
    ((text run).movesIn (before ++ rest).toArray).Leads before.length j ↔
      Reading.At (text run).Matches (before ++ rest) before.length j := by
  rw [Reading.at_append_iff]
  simp only [movesIn, Moves.Leads, Matches, testBit_positionsWhere, standsAt_iff, List.size_toArray,
    List.length_append]
  constructor
  · rintro ⟨⟨hinside, after, rfl⟩, rfl⟩
    exact ⟨run, after, rfl, rfl, rfl, List.length_pos_iff.mp (by omega)⟩
  · rintro ⟨_, after, rfl, rfl, rfl, hne⟩
    have hpos := List.length_pos_iff.mpr hne
    exact ⟨⟨by omega, List.prefix_append _ after⟩, rfl⟩

theorem leads_chars_iff (set : CharSet) :
    ((chars set).movesIn (before ++ rest).toArray).Leads before.length j ↔
      Reading.At (chars set).Matches (before ++ rest) before.length j := by
  rw [Reading.at_append_iff]
  simp only [movesIn, Moves.Leads, Matches, testBit_positionsWhere, belongsAt, getElem?_append_length,
    List.size_toArray, List.length_append]
  constructor
  · rintro ⟨⟨_, hmem⟩, rfl⟩
    cases rest with
    | nil => cases hmem
    | cons c after => exact ⟨[c], after, rfl, rfl, c, rfl, hmem⟩
  · rintro ⟨_, after, rfl, rfl, c, rfl, hmem⟩
    exact ⟨⟨by simp, hmem⟩, rfl⟩

theorem leads_edge_iff (condition : Edge) :
    ((edge condition).movesIn (before ++ rest).toArray).Leads before.length j ↔
      Reading.At (edge condition).Matches (before ++ rest) before.length j := by
  rw [Reading.at_append_iff]
  simp only [movesIn, Moves.Leads, Matches, testBit_positionsWhere, holdsAt_append, List.size_toArray,
    List.length_append]
  constructor
  · rintro ⟨⟨_, hholds⟩, rfl⟩
    exact ⟨[], rest, rfl, rfl, rfl, hholds⟩
  · rintro ⟨_, after, rfl, rfl, rfl, hholds⟩
    exact ⟨⟨by omega, hholds⟩, rfl⟩

end Leaves

section Moves

variable {text : List Char} {i j : Nat}

/-- Every position up to the end stands behind a beginning. -/
theorem exists_split (hi : i ≤ text.length) :
    ∃ before rest, text = before ++ rest ∧ before.length = i :=
  ⟨text.take i, text.drop i, (List.take_append_drop i text).symm, List.length_take_of_le hi⟩

theorem steps_congr {leads : Nat → Nat → Prop} {reading : Reading} {n : Nat}
    (h : ∀ {i j}, i ≤ text.length → (leads i j ↔ reading.At text i j)) (hi : i ≤ text.length) :
    Steps leads n i j ↔ Steps (reading.At text) n i j := by
  induction n generalizing i with
  | zero => rw [Steps.zero_iff, Steps.zero_iff]
  | succ n ih =>
      rw [Steps.succ_iff, Steps.succ_iff]
      refine exists_congr fun k => ?_
      rw [h hi]
      exact and_congr_right fun hk => ih hk.le_length

/-- No more rounds than there are positions are needed beyond the least number of them. -/
theorem exists_rounds_le {reading : Reading} {least n : Nat} (hi : i ≤ text.length) (hleast : least ≤ n)
    (h : Steps (reading.At text) n i j) :
    ∃ m, least ≤ m ∧ m ≤ least + (text.length + 1) ∧ Steps (reading.At text) m i j := by
  have hinside : ∀ i j, i ≤ text.length → reading.At text i j → j ≤ text.length :=
    fun _ _ _ hstep => hstep.le_length
  have hj : j ≤ text.length := h.invariant (· ≤ text.length) hinside hi
  obtain ⟨more, rfl⟩ := Nat.exists_eq_add_of_le hleast
  obtain ⟨k, hfirst, hmore⟩ := Steps.add_iff.mp h
  obtain ⟨_, m, _, hm, hsteps⟩ := hmore.exists_le fun _ _ => Reading.At.le
  exact ⟨least + m, by omega, by omega, Steps.add_iff.mpr ⟨k, hfirst, hsteps⟩⟩

theorem at_repeated_iff {least : Nat} {most : Option Nat} {often : Bool} {body : Expr}
    (hi : i ≤ text.length) :
    Reading.At (repeated least most often body).Matches text i j ↔
      ∃ n, least ≤ n ∧ (∀ limit ∈ most, n ≤ max least limit) ∧
        Steps (Reading.At body.Matches text) n i j := by
  constructor
  · rintro ⟨before, word, after, htext, hlength, hj, n, hleast, hmost, hrounds⟩
    exact ⟨n, hleast, hmost, (Reading.at_rounds_iff hi).mp ⟨before, word, after, htext, hlength, hj, hrounds⟩⟩
  · rintro ⟨n, hleast, hmost, hsteps⟩
    obtain ⟨before, word, after, htext, hlength, hj, hrounds⟩ := (Reading.at_rounds_iff hi).mpr hsteps
    exact ⟨before, word, after, htext, hlength, hj, n, hleast, hmost, hrounds⟩

/-- The moves of an expression lead over the parts that it matches. -/
theorem leads_iff (expr : Expr) (hi : i ≤ text.length) :
    (expr.movesIn text.toArray).Leads i j ↔ Reading.At expr.Matches text i j := by
  induction expr generalizing i j with
  | empty =>
      obtain ⟨before, rest, rfl, rfl⟩ := exists_split hi
      exact leads_empty_iff
  | text run =>
      obtain ⟨before, rest, rfl, rfl⟩ := exists_split hi
      exact leads_text_iff run
  | chars set =>
      obtain ⟨before, rest, rfl, rfl⟩ := exists_split hi
      exact leads_chars_iff set
  | edge condition =>
      obtain ⟨before, rest, rfl, rfl⟩ := exists_split hi
      exact leads_edge_iff condition
  | group number body ih => exact ih hi
  | seq first second ihFirst ihSecond =>
      refine Iff.trans ?_ Reading.at_seq_iff.symm
      refine exists_congr fun k => ?_
      rw [ihFirst hi]
      exact and_congr_right fun hk => ihSecond hk.le_length
  | either first second ihFirst ihSecond =>
      simp only [movesIn, Moves.Leads, ihFirst hi, ihSecond hi, Reading.At, Matches, and_or_left, exists_or]
  | repeated least most often body ih =>
      rw [at_repeated_iff hi]
      simp only [movesIn, Moves.Leads, steps_congr ih hi, List.size_toArray]
      cases most with
      | none =>
          constructor
          · rintro ⟨n, hleast, _, hsteps⟩
            exact ⟨n, hleast, by simp, hsteps⟩
          · rintro ⟨n, hleast, _, hsteps⟩
            exact exists_rounds_le hi hleast hsteps
      | some limit =>
          refine exists_congr fun n => and_congr_right fun hleast => and_congr_left fun _ => ?_
          simp only [Option.map_some, Option.getD_some, Option.mem_some_iff, forall_eq']
          omega

end Moves

/-- An expression occurs in a text exactly if it matches a part of it. -/
theorem occursIn_iff (expr : Expr) (text : List Char) :
    expr.occursIn text = true ↔
      ∃ before word after, text = before ++ (word ++ after) ∧ expr.Matches before word after := by
  have hfound : expr.occursIn text = true ↔
      ∃ j i, i < text.length + 1 ∧ (expr.movesIn text.toArray).Leads i j := by
    have hbits : ∀ marks : Nat, marks ≠ 0 ↔ ∃ j, marks.testBit j = true := by
      refine fun marks => ⟨Nat.exists_testBit_of_ne_zero, ?_⟩
      rintro ⟨j, hj⟩ rfl
      rw [Nat.zero_testBit] at hj
      cases hj
    simp only [occursIn, bne_iff_ne, hbits, Moves.follows_run _ _ _, Nat.pow_eq,
      Nat.testBit_two_pow_sub_one, decide_eq_true_eq, List.size_toArray]
  rw [hfound]
  constructor
  · rintro ⟨j, i, hi, hleads⟩
    obtain ⟨before, word, after, htext, _, _, hmatches⟩ :=
      (expr.leads_iff (Nat.le_of_lt_succ hi)).mp hleads
    exact ⟨before, word, after, htext, hmatches⟩
  · rintro ⟨before, word, after, rfl, hmatches⟩
    have hinside : before.length ≤ (before ++ (word ++ after)).length := by simp
    exact ⟨before.length + word.length, before.length, Nat.lt_succ_of_le hinside,
      (expr.leads_iff hinside).mpr ⟨before, word, after, rfl, rfl, rfl, hmatches⟩⟩

end Expr

end FormRules.Pattern
