/-
What a search finds.

A search tries the first side of a choice before the second one, and a further round of a repetition before
or after its end, as the source says.  It finds what comes first in this order at the first place of a text
where there is a match, together with what the groups kept on the way.  Whether there is a match does not
depend on the order.
-/
import FormRules.Pattern.Syntax
import FormRules.Proofs.Pattern.Matching

namespace FormRules.Pattern

/-- A place in a text: what stands in front of it and behind it, and what the groups on the way have kept
under their numbers, the last one first. -/
structure Place where
  before : List Char
  rest : List Char
  kept : List (Nat × List Char)

namespace Place

/-- The place from which only a given rest follows. -/
def advance (place : Place) (after : List Char) : Place :=
  ⟨place.before ++ place.rest.take (place.rest.length - after.length), after, place.kept⟩

/-- Keeps a text under a number. -/
def hold (place : Place) (number : Nat) (part : List Char) : Place :=
  { place with kept := (number, part) :: place.kept }

/-- Keeps what stands between two places. -/
def keep (number : Nat) (start stop : Place) : Place :=
  stop.hold number (stop.before.drop start.before.length)

/-- One place comes before another one, with a word between them. -/
def Spans (start : Place) (word : List Char) (stop : Place) : Prop :=
  stop.before = start.before ++ word ∧ start.rest = word ++ stop.rest

variable {start middle stop : Place} {word more : List Char}

theorem Spans.refl (place : Place) : place.Spans [] place :=
  ⟨(List.append_nil _).symm, rfl⟩

theorem Spans.trans (h : start.Spans word middle) (hmore : middle.Spans more stop) :
    start.Spans (word ++ more) stop := by
  refine ⟨?_, ?_⟩
  · rw [hmore.1, h.1, List.append_assoc]
  · rw [h.2, hmore.2, List.append_assoc]

theorem advance_eq {place : Place} {after : List Char} (h : place.rest = word ++ after) :
    place.advance after = ⟨place.before ++ word, after, place.kept⟩ := by
  rw [advance, h, List.length_append, Nat.add_sub_cancel, List.take_left]

@[simp] theorem advance_rest (place : Place) (after : List Char) : (place.advance after).rest = after :=
  rfl

@[simp] theorem hold_rest (place : Place) (number : Nat) (part : List Char) :
    (place.hold number part).rest = place.rest :=
  rfl

theorem advance_hold (place : Place) (number : Nat) (part after : List Char) :
    (place.hold number part).advance after = (place.advance after).hold number part :=
  rfl

@[simp] theorem advance_self (place : Place) : place.advance place.rest = place := by
  rw [advance_eq (List.nil_append _).symm, List.append_nil]

theorem keep_advance {place : Place} {after : List Char} (h : place.rest = word ++ after) (number : Nat) :
    place.keep number (place.advance after) = (place.advance after).hold number word := by
  rw [keep, advance_eq h, List.drop_left]

theorem spans_advance {place : Place} {after : List Char} (h : place.rest = word ++ after) :
    place.Spans word (place.advance after) := by
  rw [advance_eq h]
  exact ⟨rfl, h⟩

theorem advance_advance {place : Place} {middle after : List Char} (h : middle <:+ place.rest)
    (hafter : after <:+ middle) : (place.advance middle).advance after = place.advance after := by
  obtain ⟨u, hu⟩ := h
  obtain ⟨v, rfl⟩ := hafter
  have hboth : place.rest = (u ++ v) ++ after := by rw [← hu, List.append_assoc]
  have hmiddle : (place.advance (v ++ after)).rest = v ++ after := rfl
  rw [advance_eq hmiddle, advance_eq hu.symm, advance_eq hboth, List.append_assoc]

end Place

/-! ### The order of preference -/

/-- The places behind exactly so many rounds. -/
def exactly (step : Place → List Place) : Nat → Place → List Place
  | 0, place => [place]
  | n + 1, place => (step place).flatMap fun stop => exactly step n stop

/-- The places behind at most so many rounds.  A round that takes no character is the last one. -/
def upTo (step : Place → List Place) (often : Bool) : Nat → Place → List Place
  | 0, place => [place]
  | n + 1, place =>
      let further := (step place).flatMap fun stop =>
        if stop.rest.length < place.rest.length then upTo step often n stop else [stop]
      if often then further ++ [place] else place :: further

namespace Expr

/-- The places behind what an expression matches from a place on, the preferred ones first.  No more rounds
than there are characters take one each. -/
def ends : Expr → Place → List Place
  | empty, place => [place]
  | text run, place =>
      if run <+: place.rest ∧ place.rest ≠ [] then [place.advance (place.rest.drop run.length)] else []
  | chars set, place => if place.rest.head?.any set.mem then [place.advance place.rest.tail] else []
  | edge condition, place =>
      if condition.holds place.before.getLast? place.rest.head? then [place] else []
  | group number body, place => (body.ends place).map (Place.keep number place)
  | seq first second, place => (first.ends place).flatMap fun stop => second.ends stop
  | either first second, place => first.ends place ++ second.ends place
  | repeated least most often body, place =>
      (exactly (fun place => body.ends place) least place).flatMap fun start =>
        upTo (fun place => body.ends place) often ((most.map (· - least)).getD (start.rest.length + 1)) start

/-- The place behind the preferred match from a place on. -/
def front? (expr : Expr) (place : Place) : Option Place := (expr.ends place).head?

/-- What the groups keep in the match that a search finds; the whole match is kept under zero. -/
def search? (expr : Expr) (text : List Char) : Option (List (Nat × List Char)) :=
  (List.range (text.length + 1)).findSome? fun i =>
    ((group 0 expr).front? ⟨text.take i, text.drop i, []⟩).map Place.kept

end Expr

/-- What a search for the expression of a source finds. -/
def find? (source : String) (text : List Char) : Option (List (Nat × List Char)) :=
  (parse? source.toList).bind fun expr => expr.search? text

theorem find?_of_parse? {source : String} {expr : Expr} (h : parse? source.toList = some expr)
    (text : List Char) : find? source text = expr.search? text := by
  rw [find?, h, Option.bind_some]

/-! ### What is matched in any order -/

theorem mem_upTo_succ_iff {step : Place → List Place} {often : Bool} {n : Nat} {start stop : Place} :
    stop ∈ upTo step often (n + 1) start ↔ stop = start ∨ ∃ middle ∈ step start,
      stop ∈ if middle.rest.length < start.rest.length then upTo step often n middle else [middle] := by
  cases often <;> simp [upTo, or_comm]

theorem self_mem_upTo (step : Place → List Place) (often : Bool) (n : Nat) (place : Place) :
    place ∈ upTo step often n place := by
  cases n with
  | zero => exact List.mem_singleton_self place
  | succ n => exact mem_upTo_succ_iff.mpr (Or.inl rfl)

section Rounds

variable {reading : Reading} {step : Place → List Place}
  (hsound : ∀ {start stop}, stop ∈ step start →
    ∃ word, start.Spans word stop ∧ reading start.before word stop.rest)
include hsound

theorem spans_of_mem_exactly {n : Nat} {start stop : Place} (h : stop ∈ exactly step n start) :
    ∃ word, start.Spans word stop ∧ reading.rounds n start.before word stop.rest := by
  induction n generalizing start with
  | zero =>
      obtain rfl := List.mem_singleton.mp h
      exact ⟨[], .refl _, rfl⟩
  | succ n ih =>
      obtain ⟨middle, hfirst, hrest⟩ := List.mem_flatMap.mp h
      obtain ⟨u, hu, hreading⟩ := hsound hfirst
      obtain ⟨v, hv, hrounds⟩ := ih hrest
      rw [hu.1] at hrounds
      rw [hv.2] at hreading
      exact ⟨u ++ v, hu.trans hv, u, v, rfl, hreading, hrounds⟩

theorem spans_of_mem_upTo {often : Bool} {n : Nat} {start stop : Place}
    (h : stop ∈ upTo step often n start) :
    ∃ m ≤ n, ∃ word, start.Spans word stop ∧ reading.rounds m start.before word stop.rest := by
  induction n generalizing start with
  | zero =>
      obtain rfl := List.mem_singleton.mp h
      exact ⟨0, Nat.le_refl 0, [], .refl _, rfl⟩
  | succ n ih =>
      obtain rfl | ⟨middle, hfirst, hrest⟩ := mem_upTo_succ_iff.mp h
      · exact ⟨0, Nat.zero_le _, [], .refl _, rfl⟩
      · obtain ⟨u, hu, hreading⟩ := hsound hfirst
        split at hrest
        · obtain ⟨m, hm, v, hv, hrounds⟩ := ih hrest
          rw [hu.1] at hrounds
          rw [hv.2] at hreading
          exact ⟨m + 1, Nat.succ_le_succ hm, u ++ v, hu.trans hv, u, v, rfl, hreading, hrounds⟩
        · obtain rfl := List.mem_singleton.mp hrest
          refine ⟨1, Nat.succ_le_succ (Nat.zero_le n), u, hu, u, [], (List.append_nil u).symm, ?_, rfl⟩
          rwa [List.nil_append]

end Rounds

section Rounds

variable {step : Place → List Place}
  (hstep : ∀ {start stop}, stop ∈ step start → stop.kept = start.kept)
include hstep

theorem kept_of_mem_exactly {n : Nat} {start stop : Place} (h : stop ∈ exactly step n start) :
    stop.kept = start.kept := by
  induction n generalizing start with
  | zero => rw [List.mem_singleton.mp h]
  | succ n ih =>
      obtain ⟨middle, hfirst, hrest⟩ := List.mem_flatMap.mp h
      rw [ih hrest, hstep hfirst]

theorem kept_of_mem_upTo {often : Bool} {n : Nat} {start stop : Place}
    (h : stop ∈ upTo step often n start) : stop.kept = start.kept := by
  induction n generalizing start with
  | zero => rw [List.mem_singleton.mp h]
  | succ n ih =>
      obtain rfl | ⟨middle, hfirst, hrest⟩ := mem_upTo_succ_iff.mp h
      · rfl
      · rw [← hstep hfirst]
        split at hrest
        · exact ih hrest
        · rw [List.mem_singleton.mp hrest]

end Rounds

section Rounds

variable {reading : Reading} {step : Place → List Place}
  (hcomplete : ∀ {start : Place} {word after : List Char}, start.rest = word ++ after →
    reading start.before word after → ∃ stop ∈ step start, start.Spans word stop)
include hcomplete

theorem exists_mem_exactly {n : Nat} {start : Place} {word after : List Char}
    (hrest : start.rest = word ++ after) (h : reading.rounds n start.before word after) :
    ∃ stop ∈ exactly step n start, start.Spans word stop := by
  induction n generalizing start word with
  | zero =>
      obtain rfl : word = [] := h
      exact ⟨start, List.mem_singleton_self start, .refl start⟩
  | succ n ih =>
      obtain ⟨u, v, rfl, hfirst, hrounds⟩ := h
      rw [List.append_assoc] at hrest
      obtain ⟨middle, hmiddle, hu⟩ := hcomplete hrest hfirst
      have hv : middle.rest = v ++ after := List.append_cancel_left (hu.2.symm.trans hrest)
      rw [← hu.1] at hrounds
      obtain ⟨stop, hstop, hspans⟩ := ih hv hrounds
      exact ⟨stop, List.mem_flatMap.mpr ⟨middle, hmiddle, hstop⟩, hu.trans hspans⟩

/-- Rounds that take no character can be left out, so there is room for all others. -/
theorem exists_mem_upTo (often : Bool) {n m : Nat} {start : Place} {word after : List Char}
    (hrest : start.rest = word ++ after) (h : reading.rounds m start.before word after)
    (hroom : m ≤ n ∨ word.length < n) : ∃ stop ∈ upTo step often n start, start.Spans word stop := by
  induction m generalizing n start word with
  | zero =>
      obtain rfl : word = [] := h
      exact ⟨start, self_mem_upTo step often n start, .refl start⟩
  | succ m ih =>
      obtain ⟨u, v, rfl, hfirst, hrounds⟩ := h
      rw [List.append_assoc] at hrest
      rw [List.length_append] at hroom
      rcases List.eq_nil_or_concat u with rfl | hne
      · rw [List.append_nil] at hrounds
        exact ih hrest hrounds (by simpa using hroom.imp_left Nat.le_of_succ_le)
      · have hpos : 0 < u.length := by
          obtain ⟨front, last, rfl⟩ := hne
          simp
        obtain ⟨middle, hmiddle, hu⟩ := hcomplete hrest hfirst
        have hv : middle.rest = v ++ after := List.append_cancel_left (hu.2.symm.trans hrest)
        have hshorter : middle.rest.length < start.rest.length := by
          rw [hu.2, List.length_append]
          omega
        rw [← hu.1] at hrounds
        obtain ⟨n, rfl⟩ : ∃ k, n = k + 1 := Nat.exists_eq_succ_of_ne_zero (by omega)
        obtain ⟨stop, hstop, hspans⟩ := ih (n := n) hv hrounds (by omega)
        exact ⟨stop, mem_upTo_succ_iff.mpr (Or.inr ⟨middle, hmiddle, by rwa [if_pos hshorter]⟩),
          hu.trans hspans⟩

end Rounds

namespace Expr

variable {expr : Expr} {start stop : Place} {word after text : List Char}

/-- What leads from a place to another one is matched. -/
theorem spans_of_mem_ends (h : stop ∈ expr.ends start) :
    ∃ word, start.Spans word stop ∧ expr.Matches start.before word stop.rest := by
  induction expr generalizing start stop with
  | empty =>
      obtain rfl := List.mem_singleton.mp h
      exact ⟨[], .refl _, rfl⟩
  | text run =>
      obtain ⟨⟨⟨after, hafter⟩, hne⟩, rfl⟩ : (run <+: start.rest ∧ start.rest ≠ []) ∧
          stop = start.advance (start.rest.drop run.length) := by simpa [ends] using h
      have hdrop : start.rest.drop run.length = after := by rw [← hafter, List.drop_left]
      rw [hdrop]
      have hspans := Place.spans_advance hafter.symm
      refine ⟨run, hspans, rfl, ?_⟩
      rwa [← hspans.2]
  | chars set =>
      obtain ⟨before, _ | ⟨c, rest⟩, kept⟩ := start
      · cases h
      · obtain ⟨hmem, rfl⟩ : set.mem c = true ∧ stop = Place.advance ⟨before, c :: rest, kept⟩ rest := by
          rwa [ends, List.mem_ite_nil_right, List.mem_singleton] at h
        exact ⟨[c], Place.spans_advance rfl, c, rfl, hmem⟩
  | edge condition =>
      obtain ⟨hholds, rfl⟩ :
          condition.holds start.before.getLast? start.rest.head? = true ∧ stop = start := by
        simpa [ends] using h
      exact ⟨[], .refl _, rfl, hholds⟩
  | group number body ih =>
      obtain ⟨middle, hmiddle, rfl⟩ := List.mem_map.mp h
      obtain ⟨word, hspans, hmatches⟩ := ih hmiddle
      exact ⟨word, hspans, hmatches⟩
  | seq first second ihFirst ihSecond =>
      obtain ⟨middle, hfirst, hsecond⟩ := List.mem_flatMap.mp h
      obtain ⟨u, hu, hmatches⟩ := ihFirst hfirst
      obtain ⟨v, hv, hrest⟩ := ihSecond hsecond
      rw [hu.1] at hrest
      rw [hv.2] at hmatches
      exact ⟨u ++ v, hu.trans hv, u, v, rfl, hmatches, hrest⟩
  | either first second ihFirst ihSecond =>
      rcases List.mem_append.mp h with h | h
      · obtain ⟨word, hspans, hmatches⟩ := ihFirst h
        exact ⟨word, hspans, Or.inl hmatches⟩
      · obtain ⟨word, hspans, hmatches⟩ := ihSecond h
        exact ⟨word, hspans, Or.inr hmatches⟩
  | repeated least most often body ih =>
      obtain ⟨middle, hleast, hmore⟩ := List.mem_flatMap.mp h
      obtain ⟨u, hu, hrounds⟩ := spans_of_mem_exactly ih hleast
      obtain ⟨m, hm, v, hv, hfurther⟩ := spans_of_mem_upTo ih hmore
      rw [hu.1] at hfurther
      rw [hv.2] at hrounds
      refine ⟨u ++ v, hu.trans hv, least + m, Nat.le_add_right least m, ?_, ?_⟩
      · rintro limit hlimit
        obtain rfl := hlimit
        rw [Option.map_some, Option.getD_some] at hm
        omega
      · rw [Reading.rounds_add]
        exact ⟨u, v, rfl, hrounds, hfurther⟩

/-- What is matched leads from a place to another one. -/
theorem exists_mem_ends (hrest : start.rest = word ++ after)
    (h : expr.Matches start.before word after) : ∃ stop ∈ expr.ends start, start.Spans word stop := by
  induction expr generalizing start word after with
  | empty =>
      obtain rfl : word = [] := h
      exact ⟨start, List.mem_singleton_self start, .refl start⟩
  | text run =>
      obtain ⟨rfl, hne⟩ := h
      refine ⟨start.advance after, ?_, Place.spans_advance hrest⟩
      rw [ends, hrest, if_pos ⟨List.prefix_append word after, hne⟩, List.drop_left]
      exact List.mem_singleton_self _
  | chars set =>
      obtain ⟨c, rfl, hmem⟩ := h
      refine ⟨start.advance after, ?_, Place.spans_advance hrest⟩
      simp [ends, hrest, hmem]
  | edge condition =>
      obtain ⟨rfl, hholds⟩ := h
      rw [← List.nil_append after, ← hrest] at hholds
      refine ⟨start, ?_, .refl start⟩
      rw [ends, if_pos hholds]
      exact List.mem_singleton_self start
  | group number body ih =>
      obtain ⟨stop, hstop, hspans⟩ := ih hrest h
      exact ⟨_, List.mem_map_of_mem hstop, hspans⟩
  | seq first second ihFirst ihSecond =>
      obtain ⟨u, v, rfl, hfirst, hsecond⟩ := h
      rw [List.append_assoc] at hrest
      obtain ⟨middle, hmiddle, hu⟩ := ihFirst hrest hfirst
      rw [← hu.1] at hsecond
      obtain ⟨stop, hstop, hv⟩ := ihSecond (List.append_cancel_left (hu.2.symm.trans hrest)) hsecond
      exact ⟨stop, List.mem_flatMap.mpr ⟨middle, hmiddle, hstop⟩, hu.trans hv⟩
  | either first second ihFirst ihSecond =>
      rcases h with h | h
      · obtain ⟨stop, hstop, hspans⟩ := ihFirst hrest h
        exact ⟨stop, List.mem_append_left _ hstop, hspans⟩
      · obtain ⟨stop, hstop, hspans⟩ := ihSecond hrest h
        exact ⟨stop, List.mem_append_right _ hstop, hspans⟩
  | repeated least most often body ih =>
      obtain ⟨n, hleast, hmost, hrounds⟩ := h
      obtain ⟨more, rfl⟩ := Nat.exists_eq_add_of_le hleast
      rw [Reading.rounds_add] at hrounds
      obtain ⟨u, v, rfl, hrequired, hfurther⟩ := hrounds
      rw [List.append_assoc] at hrest
      obtain ⟨middle, hmiddle, hu⟩ := exists_mem_exactly ih hrest hrequired
      have hv : middle.rest = v ++ after := List.append_cancel_left (hu.2.symm.trans hrest)
      rw [← hu.1] at hfurther
      have hroom : more ≤ (most.map (· - least)).getD (middle.rest.length + 1) ∨
          v.length < (most.map (· - least)).getD (middle.rest.length + 1) := by
        cases most with
        | none =>
            rw [Option.map_none, Option.getD_none, hv, List.length_append]
            omega
        | some limit =>
            have hlimit := hmost limit rfl
            rw [Option.map_some, Option.getD_some]
            omega
      obtain ⟨stop, hstop, hspans⟩ := exists_mem_upTo ih often hv hfurther hroom
      exact ⟨stop, List.mem_flatMap.mpr ⟨middle, hmiddle, hstop⟩, hu.trans hspans⟩

/-- Whether a part of what is matched is kept. -/
def hasGroup : Expr → Bool
  | group .. => true
  | seq first second => first.hasGroup || second.hasGroup
  | either first second => first.hasGroup || second.hasGroup
  | repeated _ _ _ body => body.hasGroup
  | _ => false

/-- Without groups nothing is kept on the way. -/
theorem kept_of_mem_ends (hplain : expr.hasGroup = false) (h : stop ∈ expr.ends start) :
    stop.kept = start.kept := by
  induction expr generalizing start stop with
  | empty => rw [List.mem_singleton.mp h]
  | text run =>
      obtain ⟨_, rfl⟩ : (run <+: start.rest ∧ start.rest ≠ []) ∧
          stop = start.advance (start.rest.drop run.length) := by simpa [ends] using h
      rfl
  | chars set =>
      rw [ends, List.mem_ite_nil_right, List.mem_singleton] at h
      rw [h.2]
      rfl
  | edge condition =>
      rw [ends, List.mem_ite_nil_right, List.mem_singleton] at h
      rw [h.2]
  | group number body => cases hplain
  | seq first second ihFirst ihSecond =>
      obtain ⟨hfirst, hsecond⟩ := Bool.or_eq_false_iff.mp hplain
      obtain ⟨middle, hmiddle, hstop⟩ := List.mem_flatMap.mp h
      rw [ihSecond hsecond hstop, ihFirst hfirst hmiddle]
  | either first second ihFirst ihSecond =>
      obtain ⟨hfirst, hsecond⟩ := Bool.or_eq_false_iff.mp hplain
      exact (List.mem_append.mp h).elim (ihFirst hfirst) (ihSecond hsecond)
  | repeated least most often body ih =>
      obtain ⟨middle, hleast, hmore⟩ := List.mem_flatMap.mp h
      rw [kept_of_mem_upTo (ih hplain) hmore, kept_of_mem_exactly (ih hplain) hleast]

/-- Without groups only what follows depends on the way. -/
theorem eq_advance_of_mem_ends (hplain : expr.hasGroup = false) (h : stop ∈ expr.ends start) :
    stop = start.advance stop.rest := by
  obtain ⟨word, ⟨hbefore, hrest⟩, _⟩ := spans_of_mem_ends h
  rw [Place.advance_eq hrest, ← hbefore, ← kept_of_mem_ends hplain h]

/-- There is a preferred match exactly if there is any. -/
theorem front?_isSome_iff : (expr.front? start).isSome = true ↔
    ∃ word after, start.rest = word ++ after ∧ expr.Matches start.before word after := by
  constructor
  · intro h
    obtain ⟨stop, hstop⟩ := Option.isSome_iff_exists.mp h
    obtain ⟨word, hspans, hmatches⟩ := spans_of_mem_ends (List.mem_of_head? hstop)
    exact ⟨word, stop.rest, hspans.2, hmatches⟩
  · rintro ⟨word, after, hrest, hmatches⟩
    obtain ⟨stop, hstop, _⟩ := exists_mem_ends hrest hmatches
    rw [front?, List.isSome_head?]
    exact List.ne_nil_of_mem hstop

/-- A search finds something exactly in the texts in which the expression occurs. -/
theorem search?_isSome_iff : (expr.search? text).isSome = true ↔ expr.occursIn text = true := by
  rw [occursIn_iff]
  simp only [search?, List.findSome?_isSome_iff, List.mem_range, Option.isSome_map, front?_isSome_iff]
  constructor
  · rintro ⟨i, _, word, after, hrest, hmatches⟩
    exact ⟨text.take i, word, after, by rw [← hrest, List.take_append_drop], hmatches⟩
  · rintro ⟨before, word, after, rfl, hmatches⟩
    refine ⟨before.length, Nat.lt_succ_of_le (by simp), word, after, List.drop_left, ?_⟩
    rwa [List.take_left]

/-- What begins at the start of a text is searched for at no other place. -/
theorem search?_textStart (expr : Expr) (text : List Char) :
    (seq (edge .textStart) expr).search? text =
      ((group 0 expr).front? ⟨[], text, []⟩).map Place.kept := by
  have hends : ∀ before rest, (group 0 (seq (edge .textStart) expr)).ends ⟨before, rest, []⟩ =
      if before = [] then (group 0 expr).ends ⟨before, rest, []⟩ else [] := by
    intro before rest
    cases before with
    | nil => simp [ends, Edge.holds]
    | cons c before => simp [ends, Edge.holds, List.getLast?_cons]
  have hlater : (List.map Nat.succ (List.range text.length)).findSome? (fun i =>
      ((group 0 (seq (edge .textStart) expr)).front? ⟨text.take i, text.drop i, []⟩).map Place.kept) =
        none := by
    refine List.findSome?_eq_none_iff.mpr fun i hi => ?_
    obtain ⟨j, hj, rfl⟩ := List.mem_map.mp hi
    have hne : text.take (j + 1) ≠ [] := by
      rw [ne_eq, List.take_eq_nil_iff, ← List.length_eq_zero_iff]
      have hlength := List.mem_range.mp hj
      omega
    rw [front?, hends, if_neg hne]
    rfl
  have hfirst : (group 0 (seq (edge .textStart) expr)).front? ⟨text.take 0, text.drop 0, []⟩ =
      (group 0 expr).front? ⟨[], text, []⟩ := by
    rw [front?, hends, if_pos (List.take_zero ..)]
    rfl
  rw [search?, List.range_succ_eq_map, List.findSome?_cons, hfirst, hlater]
  cases (group 0 expr).front? ⟨[], text, []⟩ <;> rfl

/-! ### The preferred match, by what is read first -/

variable {second : Expr}

theorem ends_seq (first second : Expr) (place : Place) :
    (seq first second).ends place = (first.ends place).flatMap fun stop => second.ends stop :=
  rfl

theorem ends_either (first second : Expr) (place : Place) :
    (either first second).ends place = first.ends place ++ second.ends place :=
  rfl

theorem front?_seq (first second : Expr) (place : Place) :
    (seq first second).front? place = (first.ends place).findSome? second.front? := by
  rw [front?, ends_seq, List.head?_flatMap]
  rfl

theorem front?_seq_assoc (first second third : Expr) (place : Place) :
    (seq (seq first second) third).front? place = (seq first (seq second third)).front? place := by
  simp only [front?, ends, List.flatMap_assoc]

theorem front?_either (first second : Expr) (place : Place) :
    (either first second).front? place = (first.front? place).or (second.front? place) := by
  rw [front?, ends_either, List.head?_append]
  rfl

theorem front?_group (number : Nat) (body : Expr) (place : Place) :
    (group number body).front? place = (body.front? place).map (Place.keep number place) := by
  rw [front?, ends, List.head?_map]
  rfl

/-- If what follows can always be matched, nothing is tried twice. -/
theorem front?_seq_of_forall {next : Place → Place} (h : ∀ place, second.front? place = some (next place))
    (first : Expr) (place : Place) :
    (seq first second).front? place = (first.front? place).map next := by
  rw [front?_seq, front?]
  cases first.ends place with
  | nil => rfl
  | cons stop others => rw [List.findSome?_cons, h]; rfl

theorem ends_optional (body : Expr) (place : Place) :
    (repeated 0 (some 1) true body).ends place = body.ends place ++ [place] := by
  simp [ends, exactly, upTo]

theorem front?_seq_optional (body second : Expr) (place : Place) :
    (seq (repeated 0 (some 1) true body) second).front? place =
      ((seq body second).front? place).or (second.front? place) := by
  simp only [front?_seq, ends_optional, List.findSome?_append, List.findSome?_singleton]

theorem front?_seq_group_optional (number : Nat) (body second : Expr) (place : Place) :
    (seq (group number (repeated 0 (some 1) true body)) second).front? place =
      ((body.ends place).findSome? fun stop => second.front? (place.keep number stop)).or
        (second.front? (place.keep number place)) := by
  rw [front?_seq, ends, ends_optional, List.findSome?_map, List.findSome?_append, List.findSome?_singleton]
  rfl

theorem front?_optional (body : Expr) (place : Place) :
    (repeated 0 (some 1) true body).front? place = some ((body.front? place).getD place) := by
  rw [front?, ends_optional, List.head?_append, List.head?_singleton]
  cases h : body.front? place <;> rw [front?] at h <;> rw [h] <;> rfl

/-! ### Matches that leave no choice -/

/-- An expression that leads on in one way at most, to what is left of the text. -/
structure Drops (expr : Expr) (drop? : List Char → Option (List Char)) : Prop where
  ends_eq : ∀ place : Place, expr.ends place = ((drop? place.rest).map place.advance).toList
  isSuffix : ∀ {text after : List Char}, drop? text = some after → after <:+ text

theorem drops_text {run : List Char} (hne : run ≠ []) :
    (Expr.text run).Drops fun text => if run <+: text then some (text.drop run.length) else none where
  ends_eq := by
    intro place
    have hprefix : run <+: place.rest ∧ place.rest ≠ [] ↔ run <+: place.rest := by
      refine and_iff_left_of_imp ?_
      rintro hrun hnil
      rw [hnil, List.prefix_nil] at hrun
      exact hne hrun
    simp only [ends, hprefix]
    split <;> rfl
  isSuffix := by
    intro text after h
    obtain ⟨_, hafter⟩ := Option.ite_none_right_eq_some.mp h
    rw [← Option.some.inj hafter]
    exact List.drop_suffix _ _

theorem drops_chars (set : CharSet) :
    (chars set).Drops fun text => if text.head?.any set.mem then some text.tail else none where
  ends_eq := by
    intro place
    simp only [ends]
    split <;> rfl
  isSuffix := by
    intro text after h
    obtain ⟨_, hafter⟩ := Option.ite_none_right_eq_some.mp h
    rw [← Option.some.inj hafter]
    exact List.tail_suffix _

section Drops

variable {first : Expr} {drop? next? : List Char → Option (List Char)}

theorem Drops.front?_seq (h : first.Drops drop?) (second : Expr) (place : Place) :
    (seq first second).front? place =
      (drop? place.rest).bind fun after => second.front? (place.advance after) := by
  rw [Expr.front?_seq, h.ends_eq]
  cases drop? place.rest with
  | none => rfl
  | some after => exact List.findSome?_singleton

theorem Drops.seq (h : first.Drops drop?) (hsecond : second.Drops next?) :
    (seq first second).Drops fun text => (drop? text).bind next? where
  ends_eq := by
    intro place
    rw [ends, h.ends_eq]
    cases hdrop : drop? place.rest with
    | none => rfl
    | some middle =>
        rw [Option.map_some, Option.toList_some, List.flatMap_singleton, hsecond.ends_eq, Place.advance_rest,
          Option.bind_some]
        cases hnext : next? middle with
        | none => rfl
        | some after =>
            exact congrArg (fun stop => [stop])
              (Place.advance_advance (h.isSuffix hdrop) (hsecond.isSuffix hnext))
  isSuffix := by
    intro text after hboth
    obtain ⟨middle, hdrop, hnext⟩ := Option.bind_eq_some_iff.mp hboth
    exact (hsecond.isSuffix hnext).trans (h.isSuffix hdrop)

/-- Of two alternatives of which one at most can be matched, it does not matter which is tried first. -/
theorem Drops.either (h : first.Drops drop?) (hsecond : second.Drops next?)
    (hone : ∀ text, drop? text = none ∨ next? text = none) :
    (either first second).Drops fun text => (drop? text).or (next? text) where
  ends_eq := by
    intro place
    rw [ends, h.ends_eq, hsecond.ends_eq]
    rcases hone place.rest with hnone | hnone
    · rw [hnone]
      rfl
    · rw [hnone, Option.or_none, Option.map_none, Option.toList_none, List.append_nil]
  isSuffix := by
    intro text after heither
    rcases Option.or_eq_some_iff.mp heither with hdrop | ⟨_, hnext⟩
    · exact h.isSuffix hdrop
    · exact hsecond.isSuffix hnext

theorem Drops.congr {expr : Expr} (h : first.Drops drop?)
    (hends : ∀ place, expr.ends place = first.ends place) : expr.Drops drop? where
  ends_eq := fun place => (hends place).trans (h.ends_eq place)
  isSuffix := h.isSuffix

end Drops

theorem front?_seq_chars (set : CharSet) (second : Expr) (place : Place) :
    (seq (chars set) second).front? place =
      if place.rest.head?.any set.mem then second.front? (place.advance place.rest.tail) else none := by
  rw [(drops_chars set).front?_seq]
  split <;> rfl

theorem front?_text {run : List Char} (hne : run ≠ []) (place : Place) :
    (Expr.text run).front? place =
      if run <+: place.rest then some (place.advance (place.rest.drop run.length)) else none := by
  rw [front?, (drops_text hne).ends_eq]
  split <;> rfl

theorem front?_seq_text {run : List Char} (hne : run ≠ []) (second : Expr) (place : Place) :
    (seq (.text run) second).front? place =
      if run <+: place.rest then second.front? (place.advance (place.rest.drop run.length)) else none := by
  rw [(drops_text hne).front?_seq]
  split <;> rfl

/-! ### Repeated classes -/

/-- As many rounds as there are characters are enough. -/
theorem upTo_eq_of_lt {step : Place → List Place} {often : Bool} {n m : Nat} {place : Place}
    (hn : place.rest.length < n) (hm : place.rest.length < m) :
    upTo step often n place = upTo step often m place := by
  induction n generalizing m place with
  | zero => exact absurd hn (Nat.not_lt_zero _)
  | succ n ih =>
      obtain ⟨m, rfl⟩ := Nat.exists_eq_succ_of_ne_zero (Nat.ne_zero_of_lt hm)
      have hfurther : ∀ stop : Place,
          (if stop.rest.length < place.rest.length then upTo step often n stop else [stop]) =
            if stop.rest.length < place.rest.length then upTo step often m stop else [stop] := by
        intro stop
        split
        · exact ih (by omega) (by omega)
        · rfl
      simp only [upTo, hfurther]

/-- A repeated class takes a further character if it can, and otherwise ends. -/
theorem ends_star_chars (set : CharSet) (place : Place) :
    (repeated 0 none true (chars set)).ends place =
      if place.rest.head?.any set.mem then
        (repeated 0 none true (chars set)).ends (place.advance place.rest.tail) ++ [place]
      else [place] := by
  have hends : ∀ place, (repeated 0 none true (chars set)).ends place =
      upTo (fun place => (chars set).ends place) true (place.rest.length + 1) place :=
    fun _ => List.flatMap_singleton ..
  rw [hends, hends, upTo]
  by_cases hmem : place.rest.head?.any set.mem = true
  · have hshorter : (place.advance place.rest.tail).rest.length < place.rest.length := by
      obtain ⟨before, _ | ⟨c, rest⟩, kept⟩ := place
      · cases hmem
      · exact Nat.lt_succ_self _
    simp only [ends, hmem, if_true, List.flatMap_singleton, hshorter]
    rw [upTo_eq_of_lt hshorter (Nat.lt_succ_self _)]
  · simp [ends, hmem]

theorem ends_seq_star_chars (set : CharSet) (second : Expr) (place : Place) :
    (seq (repeated 0 none true (chars set)) second).ends place =
      (if place.rest.head?.any set.mem then
        (seq (repeated 0 none true (chars set)) second).ends (place.advance place.rest.tail) else []) ++
          second.ends place := by
  rw [ends_seq, ends_seq, ends_star_chars]
  split
  · rw [List.flatMap_append, List.flatMap_singleton]
  · rw [List.flatMap_singleton, List.nil_append]

theorem front?_seq_star_chars (set : CharSet) (second : Expr) (place : Place) :
    (seq (repeated 0 none true (chars set)) second).front? place =
      (if place.rest.head?.any set.mem then
        (seq (repeated 0 none true (chars set)) second).front? (place.advance place.rest.tail) else none).or
          (second.front? place) := by
  rw [front?, ends_seq_star_chars, List.head?_append]
  split <;> rfl

theorem front?_star_chars (set : CharSet) (place : Place) :
    (repeated 0 none true (chars set)).front? place =
      some (place.advance (place.rest.dropWhile set.mem)) := by
  induction hrest : place.rest generalizing place with
  | nil =>
      rw [front?, ends_star_chars, hrest, if_neg (by simp), List.dropWhile_nil, ← hrest, place.advance_self]
      rfl
  | cons c rest ih =>
      rw [front?, ends_star_chars, hrest, List.head?_cons, Option.any_some, List.tail_cons]
      by_cases hmem : set.mem c = true
      · have hbehind : rest <:+ place.rest := ⟨[c], hrest.symm⟩
        rw [if_pos hmem, List.head?_append, ← front?, ih _ (place.advance_rest rest), Option.some_or,
          List.dropWhile_cons_of_pos hmem, Place.advance_advance hbehind (List.dropWhile_suffix _)]
      · rw [if_neg hmem, List.dropWhile_cons_of_neg hmem, ← hrest, place.advance_self]
        rfl

/-- One round more is a round and then the others. -/
theorem ends_repeated_succ (n : Nat) (often : Bool) (body : Expr) (place : Place) :
    (repeated (n + 1) none often body).ends place =
      (seq body (repeated n none often body)).ends place := by
  simp only [ends, exactly, List.flatMap_assoc]
  rfl

theorem front?_plus_chars (set : CharSet) (place : Place) :
    (repeated 1 none true (chars set)).front? place =
      if place.rest.head?.any set.mem then some (place.advance (place.rest.dropWhile set.mem))
      else none := by
  rw [front?, ends_repeated_succ, ← front?, front?_seq_chars, front?_star_chars]
  cases hrest : place.rest with
  | nil => rfl
  | cons c rest =>
      rw [List.head?_cons, Option.any_some, List.tail_cons, Place.advance_rest]
      have hbehind : rest <:+ place.rest := ⟨[c], hrest.symm⟩
      refine if_ctx_congr Iff.rfl (fun hmem => ?_) fun _ => rfl
      rw [List.dropWhile_cons_of_pos hmem, Place.advance_advance hbehind (List.dropWhile_suffix _)]

end Expr

end FormRules.Pattern
