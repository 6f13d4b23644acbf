/-
Groups with names.

The name of a group is read over.  So a source can be read up to such a group, and then on behind its name,
which needs no more than that the characters of the name may stand in one.
-/
import FormRules.Pattern.Syntax
import FormRules.Proofs.Text.Ranges

namespace FormRules.Pattern

open Text

variable {state next : State} {source rest name : List Char} {n : Nat}

/-- Reads so many parts of a source. -/
def readSome? : Nat → State → List Char → Option (State × List Char)
  | 0, state, source => some (state, source)
  | n + 1, state, source =>
      match state.switches.gap source with
      | [] => none
      | c :: rest => (state.read? c rest).bind fun (next, rest) => readSome? n next rest

/-- Behind parts that have been read the source is read to its end. -/
theorem readAll?_of_readSome? (h : readSome? n state source = some (next, rest)) (fuel : Nat) :
    readAll? (n + fuel) state source = readAll? fuel next rest := by
  induction n generalizing state source with
  | zero =>
      obtain ⟨rfl, rfl⟩ := Prod.mk.inj (Option.some.inj h)
      rw [Nat.zero_add]
  | succ n ih =>
      rw [readSome?] at h
      rw [Nat.succ_add, readAll?]
      cases hgap : state.switches.gap source with
      | nil =>
          rw [hgap] at h
          cases h
      | cons c tail =>
          rw [hgap] at h
          obtain ⟨⟨middle, behind⟩, hread, hbehind⟩ := Option.bind_eq_some_iff.mp h
          simp only [hread]
          exact ih hbehind

/-- The expression of a source that has been read. -/
def State.finish? (state : State) : Option Expr :=
  if state.outer.isEmpty ∧ state.level.whole.depth ≤ maxDepth then some state.level.whole.expr else none

/-- The state in which nothing has been read. -/
def State.initial : State := ⟨.initial, .start .initial none, [], 0, []⟩

theorem parse?_eq (source : List Char) :
    parse? source = (readAll? (source.length + 1) .initial source).bind State.finish? :=
  rfl

/-! ### Names -/

/-- The name of a group: characters that may stand in one, the first of them at the beginning. -/
def IsGroupName (name : List Char) : Prop :=
  ∃ first others, name = first :: others ∧ isNameChar true first = true ∧
    ∀ c ∈ others, isNameChar false c = true

theorem groupName?_append (h : IsGroupName name) (hmark : '>' ∉ name) :
    groupName? (name ++ '>' :: rest) = some (name, rest) := by
  have hname : ∀ c ∈ name, (c != '>') = true := by
    intro c hc
    rw [bne_iff_ne]
    rintro rfl
    exact hmark hc
  obtain ⟨first, others, rfl, hfirst, hothers⟩ := h
  simp only [groupName?, List.takeWhile_append_of_pos hname, List.dropWhile_append_of_pos hname]
  simp [hfirst, List.all_eq_true.mpr hothers]

/-- Opens a group that keeps what it matches under a name. -/
def State.openNamed (state : State) (name : List Char) : State :=
  { state.openNumbered with names := name :: state.names }

theorem readAll?_named (hspaced : state.switches.spaced = false) (hnew : name ∉ state.names)
    (h : IsGroupName name) (hmark : '>' ∉ name) (fuel : Nat) :
    readAll? (fuel + 1) state ('(' :: '?' :: 'P' :: '<' :: (name ++ '>' :: rest)) =
      readAll? fuel (state.openNamed name) rest := by
  have hgap : ∀ source, state.switches.gap source = source := by
    intro source
    rw [Switches.gap, hspaced, if_neg Bool.false_ne_true]
  have hread : state.read? '(' ('?' :: 'P' :: '<' :: (name ++ '>' :: rest)) =
      some (state.openNamed name, rest) := by
    simp only [State.read?, State.parenthesis?, hgap, groupName?_append h hmark]
    simp [hnew, State.openNamed]
  simp only [readAll?, hgap, hread]

/-- The expression of a source with a named group behind its first parts, where the name is passed over
without a look at its characters. -/
def parseNamed? (n : Nat) (name source : List Char) : Option Expr := do
  let (state, rest) ← readSome? n .initial source
  let opening := '(' :: '?' :: 'P' :: '<' :: (name ++ ['>'])
  if opening <+: rest ∧ name ∉ state.names ∧ state.switches.spaced = false then
    let last ← readAll? (source.length - n) (state.openNamed name) (rest.drop opening.length)
    last.finish?
  else none

theorem parse?_of_parseNamed? {expr : Expr} (hname : IsGroupName name) (hmark : '>' ∉ name)
    (h : parseNamed? n name source = some expr) : parse? source = some expr := by
  obtain ⟨⟨state, rest⟩, hread, hguard⟩ := Option.bind_eq_some_iff.mp h
  obtain ⟨⟨⟨tail, rfl⟩, hnew, hspaced⟩, hrest⟩ := Option.ite_none_right_eq_some.mp hguard
  obtain ⟨last, hlast, hexpr⟩ := Option.bind_eq_some_iff.mp hrest
  rw [List.drop_left] at hlast
  have hle : n ≤ source.length := by
    refine Nat.le_of_not_lt fun hlt => ?_
    rw [Nat.sub_eq_zero_of_le (Nat.le_of_lt hlt)] at hlast
    cases hlast
  have hopening : ('(' :: '?' :: 'P' :: '<' :: (name ++ ['>'])) ++ tail =
      '(' :: '?' :: 'P' :: '<' :: (name ++ '>' :: tail) := by simp
  rw [hopening] at hread
  have hfuel : source.length + 1 = n + ((source.length - n) + 1) := by omega
  rw [parse?_eq, hfuel, readAll?_of_readSome? hread, readAll?_named hspaced hnew hname hmark, hlast,
    Option.bind_some, hexpr]

theorem isNameChar_of_isSmall {c : Char} (first : Bool) (h : 97 ≤ c.toNat ∧ c.toNat ≤ 122) :
    isNameChar first c = true := by
  have hstretch : (List.find? (fun entry => entry.1.contains "ll") categories).any (fun entry =>
      entry.2.any fun line => (readStretches line).contains (97, 122)) = true := by decide +kernel
  obtain ⟨set, hset, hmem⟩ := mem_find? hstretch h
  have hunion : set ∈ ["lu", "ll", "lt", "lm", "lo", "nl"].filterMap singleCategory? :=
    List.mem_filterMap.mpr ⟨"ll", by decide, hset⟩
  have halphabetic : alphabeticSet.mem c = true :=
    CharSet.mem_unionAll List.mem_cons_self (CharSet.mem_unionAll hunion hmem)
  rw [isNameChar, halphabetic, Bool.or_true, Bool.true_or]

theorem isNameChar_of_isDecimalDigit {c : Char} (h : isDecimalDigit c = true) :
    isNameChar false c = true := by
  have hunion : decimalDigitSet ∈ ["nd", "nl", "no"].filterMap singleCategory? :=
    List.mem_filterMap.mpr ⟨"nd", List.mem_cons_self, rfl⟩
  have hnumber : numberSet.mem c = true := by
    refine CharSet.mem_unionAll hunion ?_
    rwa [mem_decimalDigitSet]
  simp [isNameChar, hnumber]

end FormRules.Pattern
