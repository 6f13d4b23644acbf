/-
What expressions without conditions match.

Such an expression matches the same whatever stands around: what is written for certain things, as the
characters of a class or the lists of what the body of a repetition matches.  Between the conditions on the
two ends of a text it has to match all of the text.
-/
import FormRules.Pattern.Syntax
import FormRules.Proofs.Pattern.Matching

namespace FormRules.Pattern.Expr

/-- Whatever stands around, an expression matches what is written for the things with a property. -/
def Writes {α : Type} (expr : Expr) (holds : α → Prop) (write : α → List Char) : Prop :=
  ∀ before word after, expr.Matches before word after ↔ ∃ a, holds a ∧ word = write a

variable {α : Type} {expr : Expr} {holds : α → Prop} {write : α → List Char}
  {before word after run text : List Char} {n : Nat}

theorem matches_text_iff (hne : run ≠ []) :
    (Expr.text run).Matches before word after ↔ word = run := by
  simp [Matches, hne]

theorem writes_chars (set : CharSet) :
    (chars set).Writes (fun c => set.mem c = true) fun c => [c] :=
  fun _ _ _ => exists_congr fun _ => and_comm

/-- A text in front is written in front. -/
theorem Writes.behind (h : expr.Writes holds write) (hne : run ≠ []) :
    (seq (.text run) expr).Writes holds fun a => run ++ write a := by
  intro before word after
  constructor
  · rintro ⟨u, v, rfl, hrun, hmatches⟩
    obtain rfl := (matches_text_iff hne).mp hrun
    obtain ⟨a, ha, rfl⟩ := (h _ _ _).mp hmatches
    exact ⟨a, ha, rfl⟩
  · rintro ⟨a, ha, rfl⟩
    exact ⟨run, write a, rfl, (matches_text_iff hne).mpr rfl, (h _ _ _).mpr ⟨a, ha, rfl⟩⟩

/-- A text behind is written behind. -/
theorem Writes.inFront (h : expr.Writes holds write) (hne : run ≠ []) :
    (seq expr (.text run)).Writes holds fun a => write a ++ run := by
  intro before word after
  constructor
  · rintro ⟨u, v, rfl, hmatches, hrun⟩
    obtain rfl := (matches_text_iff hne).mp hrun
    obtain ⟨a, ha, rfl⟩ := (h _ _ _).mp hmatches
    exact ⟨a, ha, rfl⟩
  · rintro ⟨a, ha, rfl⟩
    exact ⟨write a, run, rfl, (h _ _ _).mpr ⟨a, ha, rfl⟩, (matches_text_iff hne).mpr rfl⟩

theorem Writes.rounds_iff (h : expr.Writes holds write) :
    Reading.rounds expr.Matches n before word after ↔
      ∃ list : List α, list.length = n ∧ (∀ a ∈ list, holds a) ∧ word = list.flatMap write := by
  induction n generalizing before word with
  | zero =>
      constructor
      · rintro rfl
        exact ⟨[], rfl, List.forall_mem_nil _, rfl⟩
      · rintro ⟨list, hlength, _, rfl⟩
        obtain rfl := List.length_eq_zero_iff.mp hlength
        rfl
  | succ n ih =>
      constructor
      · rintro ⟨u, v, rfl, hfirst, hrest⟩
        obtain ⟨a, ha, rfl⟩ := (h _ _ _).mp hfirst
        obtain ⟨list, rfl, hlist, rfl⟩ := ih.mp hrest
        exact ⟨a :: list, rfl, List.forall_mem_cons.mpr ⟨ha, hlist⟩, rfl⟩
      · rintro ⟨list, hlength, hlist, rfl⟩
        obtain ⟨a, list, rfl⟩ := List.exists_cons_of_length_eq_add_one hlength
        rw [List.forall_mem_cons] at hlist
        exact ⟨write a, list.flatMap write, rfl, (h _ _ _).mpr ⟨a, hlist.1, rfl⟩,
          ih.mpr ⟨list, Nat.succ.inj hlength, hlist.2, rfl⟩⟩

/-- A repetition writes lists of what its body writes. -/
theorem Writes.counted (h : expr.Writes holds write) (least : Nat) (most : Option Nat) (often : Bool) :
    (repeated least most often expr).Writes
      (fun list : List α => (least ≤ list.length ∧ ∀ limit ∈ most, list.length ≤ max least limit) ∧
        ∀ a ∈ list, holds a) fun list => list.flatMap write := by
  intro before word after
  constructor
  · rintro ⟨n, hleast, hmost, hrounds⟩
    obtain ⟨list, rfl, hlist, rfl⟩ := h.rounds_iff.mp hrounds
    exact ⟨list, ⟨⟨hleast, hmost⟩, hlist⟩, rfl⟩
  · rintro ⟨list, ⟨⟨hleast, hmost⟩, hlist⟩, rfl⟩
    exact ⟨list.length, hleast, hmost, h.rounds_iff.mpr ⟨list, rfl, hlist, rfl⟩⟩

/-- A repetition without a limit writes lists of any length from the least on. -/
theorem Writes.repeated (h : expr.Writes holds write) (least : Nat) (often : Bool) :
    (repeated least none often expr).Writes
      (fun list : List α => least ≤ list.length ∧ ∀ a ∈ list, holds a) fun list => list.flatMap write := by
  intro before word after
  rw [h.counted least none often before word after]
  simp

/-- A counted class matches the runs of its characters. -/
theorem matches_counted_chars_iff {least : Nat} {most : Option Nat} {often : Bool} {set : CharSet} :
    (Expr.repeated least most often (chars set)).Matches before word after ↔
      (least ≤ word.length ∧ ∀ limit ∈ most, word.length ≤ max least limit) ∧
        ∀ c ∈ word, set.mem c = true := by
  rw [(writes_chars set).counted least most often before word after]
  simp only [List.flatMap_singleton']
  constructor
  · rintro ⟨run, hrun, rfl⟩
    exact hrun
  · exact fun hrun => ⟨word, hrun, rfl⟩

/-- A repeated class matches the runs of its characters. -/
theorem writes_repeated_chars (least : Nat) (often : Bool) (set : CharSet) :
    (Expr.repeated least none often (chars set)).Writes
      (fun run => least ≤ run.length ∧ ∀ c ∈ run, set.mem c = true) id := by
  intro before word after
  rw [matches_counted_chars_iff]
  simp

theorem matches_seq_chars_iff {set : CharSet} :
    (seq (chars set) expr).Matches before word after ↔
      ∃ c rest, word = c :: rest ∧ set.mem c = true ∧ expr.Matches (before ++ [c]) rest after := by
  constructor
  · rintro ⟨_, rest, rfl, ⟨c, rfl, hmem⟩, hmatches⟩
    exact ⟨c, rest, rfl, hmem, hmatches⟩
  · rintro ⟨c, rest, rfl, hmem, hmatches⟩
    exact ⟨[c], rest, rfl, ⟨c, rfl, hmem⟩, hmatches⟩

theorem matches_seq_text_iff (hne : run ≠ []) :
    (seq (.text run) expr).Matches before word after ↔
      ∃ rest, word = run ++ rest ∧ expr.Matches (before ++ run) rest after := by
  constructor
  · rintro ⟨_, rest, rfl, hrun, hmatches⟩
    obtain rfl := (matches_text_iff hne).mp hrun
    exact ⟨rest, rfl, hmatches⟩
  · rintro ⟨rest, rfl, hmatches⟩
    exact ⟨run, rest, rfl, (matches_text_iff hne).mpr rfl, hmatches⟩

theorem matches_optional_iff {often : Bool} :
    (Expr.repeated 0 (some 1) often expr).Matches before word after ↔
      word = [] ∨ expr.Matches before word after := by
  constructor
  · rintro ⟨n, _, hmost, hrounds⟩
    have hn := hmost 1 rfl
    obtain rfl | rfl : n = 0 ∨ n = 1 := by omega
    · exact Or.inl hrounds
    · obtain ⟨u, _, rfl, hmatches, rfl⟩ := hrounds
      rw [List.nil_append] at hmatches
      rw [List.append_nil]
      exact Or.inr hmatches
  · rintro (rfl | hmatches)
    · exact ⟨0, Nat.le_refl 0, by simp, rfl⟩
    · refine ⟨1, Nat.zero_le 1, by simp, word, [], (List.append_nil word).symm, ?_, rfl⟩
      rwa [List.nil_append]

/-! ### The ends of a text -/

theorem occursIn_textStart_iff :
    (seq (edge .textStart) expr).occursIn text = true ↔
      ∃ word after, text = word ++ after ∧ expr.Matches [] word after := by
  rw [occursIn_iff]
  constructor
  · rintro ⟨before, _, after, rfl, _, word, rfl, ⟨rfl, hstart⟩, hmatches⟩
    obtain rfl : before = [] := by simpa [Edge.holds] using hstart
    exact ⟨word, after, rfl, hmatches⟩
  · rintro ⟨word, after, rfl, hmatches⟩
    exact ⟨[], word, after, rfl, [], word, rfl, ⟨rfl, rfl⟩, hmatches⟩

theorem matches_textEnd_iff :
    (seq expr (edge .textEnd)).Matches before word after ↔ after = [] ∧ expr.Matches before word [] := by
  constructor
  · rintro ⟨word, _, rfl, hmatches, rfl, hend⟩
    obtain rfl : after = [] := by simpa [Edge.holds] using hend
    rw [List.append_nil]
    exact ⟨rfl, hmatches⟩
  · rintro ⟨rfl, hmatches⟩
    exact ⟨word, [], (List.append_nil word).symm, hmatches, rfl, rfl⟩

/-- An expression between the ends of a text. -/
def whole (expr : Expr) : Expr := seq (edge .textStart) (seq expr (edge .textEnd))

/-- Between the ends of a text an expression has to match all of it. -/
theorem occursIn_whole_iff : (whole expr).occursIn text = true ↔ expr.Matches [] text [] := by
  rw [whole, occursIn_textStart_iff]
  constructor
  · rintro ⟨word, after, rfl, hmatches⟩
    obtain ⟨rfl, hmatches⟩ := matches_textEnd_iff.mp hmatches
    rwa [List.append_nil]
  · exact fun hmatches => ⟨text, [], (List.append_nil text).symm, matches_textEnd_iff.mpr ⟨rfl, hmatches⟩⟩

/-- A class that is repeated between the ends of a text is found in the texts over it. -/
theorem occursIn_whole_repeated_iff {set : CharSet} {least : Nat} {often : Bool} :
    (whole (.repeated least none often (chars set))).occursIn text = true ↔
      least ≤ text.length ∧ ∀ c ∈ text, set.mem c = true := by
  rw [occursIn_whole_iff, writes_repeated_chars least often set [] text []]
  simp

end FormRules.Pattern.Expr

namespace FormRules.Pattern

/-- The expression that a source denotes occurs in a text. -/
def FoundIn (source text : String) : Prop :=
  ∃ expr, parse? source.toList = some expr ∧ expr.occursIn text.toList = true

theorem foundIn_iff {source : String} {expr : Expr} (h : parse? source.toList = some expr)
    (text : String) : FoundIn source text ↔ expr.occursIn text.toList = true := by
  simp [FoundIn, h]

end FormRules.Pattern
