/-
The search expression for web addresses.

Scheme and host can be matched in one way only, and credentials end at the last at sign behind which a host
follows, which is the one that the preferred match takes.  So a web address is accepted exactly if the
expression is found in it and no reserved host is kept.
-/
import FormRules.Proofs.Address.Hosts
import FormRules.Proofs.Pattern.Naming

namespace FormRules.Address

open Text Pattern Pattern.Expr

/-! ### The expression -/

/-- The forms of a small letter, of which one has a long form too. -/
def formSet (letter : Char) : CharSet :=
  if letter = 's' then ⟨[(83, 83), (115, 115), (383, 383)]⟩
  else ⟨[(letter.toNat - 32, letter.toNat - 32), (letter.toNat, letter.toNat)]⟩

/-- A small letter of a scheme name in any case, or the colon behind it. -/
def letterExpr (letter : Char) : Expr := if letter = ':' then .text [':'] else .chars (formSet letter)

/-- The letters of a word in any case. -/
def wordExpr : List Char → Expr
  | [] => .empty
  | [letter] => letterExpr letter
  | letter :: word => .seq (letterExpr letter) (wordExpr word)

def schemeExpr : Expr :=
  .seq (.either
    (.seq (letterExpr 'h') (.seq (letterExpr 't') (.seq (letterExpr 't') (.seq (letterExpr 'p')
      (.repeated 0 (some 1) true (letterExpr 's'))))))
    (wordExpr ['f', 't', 'p'])) (letterExpr ':')

/-- A password behind its colon, if there is one. -/
def passwordExpr : Expr := .repeated 0 (some 1) true (.seq (.text [':']) (inkExpr 0))

/-- Credentials with the at sign behind them. -/
def credentialsExpr : Expr := .seq (inkExpr 1) (.seq passwordExpr (.text ['@']))

def webExpr : Expr :=
  .seq (.edge .textStart) (.seq (.repeated 0 (some 1) true schemeExpr) (.seq (.text ['/', '/'])
    (.seq (.repeated 0 (some 1) true credentialsExpr) hostExpr)))

/-- The lines of the source of the search expression for web addresses. -/
def webLines : List String :=
  ["(?i)^(?:(?:(?:https?|ftp):)?//)",
   "(?:\\S+(?::\\S*)?@)?",
   "(?:",
   "(?P<ipv4>(?:[1-9][0-9]?|1[0-9][0-9]|2[01][0-9]|22[0-3])",
   "(?:\\.(?:1?[0-9]\x7b1,2\x7d|2[0-4][0-9]|25[0-5]))\x7b2\x7d",
   "(?:\\.(?:[1-9][0-9]?|1[0-9][0-9]|2[0-4][0-9]|25[0-4])))",
   "|",
   "(?:(?:[a-z\\x\x7b00a1\x7d-\\x\x7bffff\x7d0-9]-*)*[a-z\\x\x7b00a1\x7d-\\x\x7bffff\x7d0-9]+)",
   "(?:\\.(?:[a-z\\x\x7b00a1\x7d-\\x\x7bffff\x7d0-9]-*)*[a-z\\x\x7b00a1\x7d-\\x\x7bffff\x7d0-9]+)*",
   "(?:\\.(?:[a-z\\x\x7b00a1\x7d-\\x\x7bffff\x7d]\x7b2,\x7d))",
   ")",
   "(?::[0-9]\x7b2,5\x7d)?",
   "(?:[/?#]\\S*)?$"]

def webSource : String := String.join webLines

theorem isGroupName_ipv4 : IsGroupName ['i', 'p', 'v', '4'] := by
  refine ⟨'i', ['p', 'v', '4'], rfl, isNameChar_of_isSmall true (by decide), ?_⟩
  simp only [List.forall_mem_cons]
  exact ⟨isNameChar_of_isSmall false (by decide), isNameChar_of_isSmall false (by decide),
    isNameChar_of_isDecimalDigit (by decide), List.forall_mem_nil _⟩

theorem parse?_webSource : parse? webSource.toList = some webExpr := by
  have hread : parseNamed? 35 ['i', 'p', 'v', '4'] webSource.toList = some webExpr := by
    rw [webSource, String.toList_join, webLines]
    simp only [List.flatMap_cons, List.flatMap_nil, String.reduceToList]
    decide +kernel
  exact parse?_of_parseNamed? isGroupName_ipv4 (by decide) hread

/-! ### Schemes -/

theorem toNat_toLower (c : Char) :
    c.toLower.toNat = if 65 ≤ c.toNat ∧ c.toNat ≤ 90 then c.toNat + 32 else c.toNat := by
  by_cases h : 65 ≤ c.toNat ∧ c.toNat ≤ 90
  · have hupper : c.val ≥ 'A'.val ∧ c.val ≤ 'Z'.val := h
    have hsmall : (c.val.toNat + 32) % 2 ^ 32 = c.val.toNat + 32 :=
      Nat.mod_eq_of_lt (Nat.lt_of_le_of_lt (Nat.add_le_add_right h.2 32) (by decide))
    rw [if_pos h]
    exact (congrArg Char.toNat (dif_pos hupper)).trans ((UInt32.toNat_add c.val 32).trans hsmall)
  · have hother : ¬ (c.val ≥ 'A'.val ∧ c.val ≤ 'Z'.val) := h
    rw [if_neg h]
    exact congrArg Char.toNat (dif_neg hother)

/-- A small letter has two forms, and one of them a third. -/
theorem isLetterVariant_iff {letter c : Char} (h : 97 ≤ letter.toNat ∧ letter.toNat ≤ 122) :
    isLetterVariant letter c = true ↔ (c.toNat = letter.toNat - 32 ∨ c.toNat = letter.toNat) ∨
      letter = 's' ∧ c.toNat = 383 := by
  simp only [isLetterVariant, Bool.or_eq_true, Bool.and_eq_true, beq_iff_eq]
  refine or_congr ?_ (and_congr_right fun _ => Char.toNat_inj.symm)
  rw [← Char.toNat_inj, toNat_toLower]
  split_ifs <;> omega

theorem isLetterVariant_colon_iff {c : Char} : isLetterVariant ':' c = true ↔ c = ':' := by
  simp only [isLetterVariant, Bool.or_eq_true, Bool.and_eq_true, beq_iff_eq, ← Char.toNat_inj, toNat_toLower,
    Char.reduceToNat]
  split_ifs <;> omega

theorem mem_formSet_iff {letter c : Char} (h : 97 ≤ letter.toNat ∧ letter.toNat ≤ 122) :
    (formSet letter).mem c = true ↔ isLetterVariant letter c = true := by
  rw [isLetterVariant_iff h, formSet]
  split
  · rename_i hs
    rw [CharSet.mem_iff (by decide), hs]
    simp only [List.mem_cons, List.not_mem_nil, or_false, exists_eq_or_imp, exists_eq_left, Char.reduceToNat,
      true_and]
    omega
  · rename_i hs
    rw [CharSet.mem_iff (List.pairwise_pair.mpr (Nat.sub_le _ _))]
    simp only [List.mem_cons, List.not_mem_nil, or_false, exists_eq_or_imp, exists_eq_left, hs, false_and]
    omega

/-- The colon and the small letters of scheme names. -/
def IsSchemeChar (letter : Char) : Prop := letter = ':' ∨ 97 ≤ letter.toNat ∧ letter.toNat ≤ 122

/-- A character is a form of one letter only. -/
theorem eq_of_isLetterVariant {letter other c : Char} (hletter : IsSchemeChar letter)
    (hother : IsSchemeChar other) (h : isLetterVariant letter c = true)
    (hsame : isLetterVariant other c = true) : letter = other := by
  have hlong : ∀ {letter : Char}, IsSchemeChar letter → '\u017f'.toLower ≠ letter := by
    rintro _ hsmall rfl
    exact absurd hsmall (by simp [IsSchemeChar])
  simp only [isLetterVariant, Bool.or_eq_true, Bool.and_eq_true, beq_iff_eq] at h hsame
  rcases h with rfl | ⟨rfl, rfl⟩ <;> rcases hsame with hsame | ⟨rfl, hc⟩
  · exact hsame
  · rw [hc] at hletter
    exact absurd rfl (hlong hletter)
  · exact absurd hsame (hlong hother)
  · rfl

/-- A text begins with one letter only. -/
theorem dropWord?_eq_none_or {letter other : Char} (hletter : IsSchemeChar letter)
    (hother : IsSchemeChar other) (hne : letter ≠ other) (word more text : List Char) :
    dropWord? (letter :: word) text = none ∨ dropWord? (other :: more) text = none := by
  cases text with
  | nil => exact Or.inl rfl
  | cons c text =>
      by_cases h : isLetterVariant letter c = true
      · refine Or.inr (if_neg fun hsame => ?_)
        exact hne (eq_of_isLetterVariant hletter hother h hsame)
      · exact Or.inl (if_neg h)

theorem dropWord?_append (word more text : List Char) :
    dropWord? (word ++ more) text = (dropWord? word text).bind (dropWord? more) := by
  induction word generalizing text with
  | nil => rfl
  | cons letter word ih =>
      cases text with
      | nil => rfl
      | cons c text =>
          rw [List.cons_append, dropWord?, dropWord?, ih]
          split <;> rfl

theorem dropWord?_singleton (letter : Char) (text : List Char) :
    dropWord? [letter] text = if text.head?.any (isLetterVariant letter) then some text.tail else none := by
  cases text <;> rfl

theorem drops_letterExpr {letter : Char} (h : IsSchemeChar letter) :
    (letterExpr letter).Drops (dropWord? [letter]) := by
  rw [funext (dropWord?_singleton letter)]
  rcases h with rfl | h
  · have hcolon : ∀ text : List Char, [':'] <+: text ↔ text.head?.any (isLetterVariant ':') = true := by
      intro text
      cases text with
      | nil => simp
      | cons c rest =>
          rw [List.head?_cons, Option.any_some, isLetterVariant_colon_iff, List.cons_prefix_cons, eq_comm]
          exact and_iff_left List.nil_prefix
    have hdrops := drops_text (List.cons_ne_nil ':' [])
    simp only [hcolon, List.length_singleton, List.drop_one] at hdrops
    exact hdrops
  · have hne : letter ≠ ':' := by
      rintro rfl
      exact absurd h (by decide)
    have hmem : (formSet letter).mem = isLetterVariant letter :=
      funext fun c => Bool.eq_iff_iff.mpr (mem_formSet_iff h)
    rw [letterExpr, if_neg hne, ← hmem]
    exact drops_chars (formSet letter)

theorem drops_wordExpr {word : List Char} (hne : word ≠ []) (h : ∀ letter ∈ word, IsSchemeChar letter) :
    (wordExpr word).Drops (dropWord? word) := by
  induction word with
  | nil => exact absurd rfl hne
  | cons letter word ih =>
      rw [List.forall_mem_cons] at h
      cases word with
      | nil => exact drops_letterExpr h.1
      | cons second word =>
          have hboth := (drops_letterExpr h.1).seq (ih (List.cons_ne_nil _ _) h.2)
          rwa [← funext (dropWord?_append [letter] (second :: word))] at hboth

/-- The rest behind the scheme of a text, if there is one. -/
def behindScheme? (text : List Char) : Option (List Char) :=
  ["https:", "http:", "ftp:"].findSome? fun scheme => dropWord? scheme.toList text

/-- No scheme begins with a slash. -/
theorem behindScheme?_slash (text : List Char) : behindScheme? ('/' :: text) = none := rfl

theorem dropScheme_eq (text : List Char) : dropScheme text = (behindScheme? text).getD text := by
  rw [dropScheme, behindScheme?]
  split <;> simp only [*, Option.getD_some, Option.getD_none]

/-- Two schemes have a beginning in common, and behind it one goes on and the other ends. -/
theorem behindScheme?_eq (text : List Char) :
    behindScheme? text = ((dropWord? ['h', 't', 't', 'p'] text).bind fun rest =>
      (dropWord? ['s', ':'] rest).or (dropWord? [':'] rest)).or (dropWord? ['f', 't', 'p', ':'] text) := by
  have hor : ∀ (found : Option (List Char)) (first second : List Char → Option (List Char)),
      (found.bind fun rest => (first rest).or (second rest)) = (found.bind first).or (found.bind second) := by
    intro found first second
    cases found <;> rfl
  have hfind : ∀ (find? : String → Option (List Char)) (first second third : String),
      [first, second, third].findSome? find? = ((find? first).or (find? second)).or (find? third) := by
    intro find? first second third
    have happend : [first, second, third] = [first] ++ [second] ++ [third] := rfl
    simp only [happend, List.findSome?_append, List.findSome?_singleton]
  rw [behindScheme?, hfind, hor, ← dropWord?_append, ← dropWord?_append]
  simp only [String.reduceToList, List.cons_append, List.nil_append]

theorem drops_schemeExpr : schemeExpr.Drops behindScheme? := by
  have hhttp : (wordExpr ['h', 't', 't', 'p']).Drops (dropWord? ['h', 't', 't', 'p']) :=
    drops_wordExpr (List.cons_ne_nil _ _) (by simp [IsSchemeChar])
  have hsecure : (wordExpr ['s', ':']).Drops (dropWord? ['s', ':']) :=
    drops_wordExpr (List.cons_ne_nil _ _) (by simp [IsSchemeChar])
  have hcolon : (letterExpr ':').Drops (dropWord? [':']) := drops_letterExpr (Or.inl rfl)
  have hftp : (wordExpr ['f', 't', 'p', ':']).Drops (dropWord? ['f', 't', 'p', ':']) :=
    drops_wordExpr (List.cons_ne_nil _ _) (by simp [IsSchemeChar])
  have hend := hsecure.either hcolon
    (dropWord?_eq_none_or (Or.inr (by decide)) (Or.inl rfl) (by decide) [':'] [])
  have hone : ∀ text, ((dropWord? ['h', 't', 't', 'p'] text).bind fun rest =>
      (dropWord? ['s', ':'] rest).or (dropWord? [':'] rest)) = none ∨
        dropWord? ['f', 't', 'p', ':'] text = none := by
    intro text
    have hh : IsSchemeChar 'h' := Or.inr (by decide)
    have hf : IsSchemeChar 'f' := Or.inr (by decide)
    refine (dropWord?_eq_none_or hh hf (by decide) ['t', 't', 'p'] ['t', 'p', ':'] text).imp_left ?_
    intro hnone
    rw [hnone, Option.bind_none]
  rw [funext behindScheme?_eq]
  refine ((hhttp.seq hend).either hftp hone).congr fun place => ?_
  simp only [schemeExpr, wordExpr, ends_seq, ends_either, ends_optional, List.flatMap_append,
    List.flatMap_assoc, List.flatMap_singleton]

/-! ### Credentials -/

theorem head?_any_inkSet (c : Char) (rest : List Char) :
    (c :: rest).head?.any inkSet.mem = !isBlank c := by
  rw [List.head?_cons, Option.any_some, Bool.eq_iff_iff, mem_inkSet_iff, Bool.not_eq_true']

theorem afterCredentials_suffix {begun : Bool} {text rest : List Char}
    (h : rest ∈ afterCredentials begun text) : rest <:+ text := by
  obtain ⟨before, rfl⟩ := exists_of_mem_afterCredentials h
  exact (List.suffix_cons '@' rest).trans (List.suffix_append before _)

/-- Further on in a text the same places follow credentials. -/
theorem map_advance_afterCredentials {place : Place} {tail : List Char} (h : tail <:+ place.rest)
    (begun : Bool) : (afterCredentials begun tail).map (place.advance tail).advance =
      (afterCredentials begun tail).map place.advance :=
  List.map_congr_left fun _ hmem => Place.advance_advance h (afterCredentials_suffix hmem)

theorem ends_at_of_nil {place : Place} (hrest : place.rest = []) : (Expr.text ['@']).ends place = [] := by
  rw [(drops_text (List.cons_ne_nil _ _)).ends_eq, hrest]
  rfl

theorem ends_at_of_cons {place : Place} {c : Char} {tail : List Char} (hrest : place.rest = c :: tail) :
    (Expr.text ['@']).ends place = (if c == '@' then [tail] else []).map place.advance := by
  rw [(drops_text (List.cons_ne_nil _ _)).ends_eq, hrest]
  simp only [List.cons_prefix_cons, List.nil_prefix, and_true, beq_iff_eq, @eq_comm _ '@' c]
  split <;> rfl

/-- Characters without a blank among them go on as far as they can in front of an at sign. -/
theorem ends_atExpr (place : Place) : (Expr.seq (inkExpr 0) (.text ['@'])).ends place =
    (afterCredentials true place.rest).map place.advance := by
  induction hrest : place.rest generalizing place with
  | nil =>
      rw [inkExpr, ends_seq_star_chars, ends_at_of_nil hrest, hrest]
      rfl
  | cons c tail ih =>
      rw [inkExpr, ends_seq_star_chars, ← inkExpr, hrest, ends_at_of_cons hrest, head?_any_inkSet,
        List.tail_cons, ih _ (place.advance_rest tail), map_advance_afterCredentials ⟨[c], hrest.symm⟩,
        afterCredentials]
      cases hblank : isBlank c with
      | true =>
          have hat : (c == '@') = false := by
            refine beq_eq_false_iff_ne.mpr ?_
            rintro rfl
            exact absurd hblank (by decide)
          rw [hat]
          rfl
      | false =>
          rw [Bool.true_and]
          exact List.map_append.symm

theorem front?_seq_ink (second : Expr) (place : Place) : (Expr.seq (inkExpr 0) second).front? place =
    (if place.rest.head?.any inkSet.mem then
      (Expr.seq (inkExpr 0) second).front? (place.advance place.rest.tail) else none).or
        (second.front? place) :=
  front?_seq_star_chars inkSet second place

theorem front?_password (second : Expr) (place : Place) :
    (Expr.seq (.seq passwordExpr (.text ['@'])) second).front? place =
      (if [':'] <+: place.rest then
        (Expr.seq (inkExpr 0) (.seq (.text ['@']) second)).front? (place.advance place.rest.tail)
      else none).or ((Expr.seq (.text ['@']) second).front? place) := by
  rw [passwordExpr, front?_seq_assoc, front?_seq_optional, front?_seq_assoc,
    front?_seq_text (List.cons_ne_nil _ _), List.length_singleton, List.drop_one]

/-- A password leads to no at sign that would not come first without it. -/
theorem front?_skip_password (second : Expr) (place : Place) :
    (Expr.seq (inkExpr 0) (.seq (.seq passwordExpr (.text ['@'])) second)).front? place =
      (Expr.seq (inkExpr 0) (.seq (.text ['@']) second)).front? place := by
  induction hrest : place.rest generalizing place with
  | nil =>
      rw [front?_seq_ink, front?_seq_ink (.seq (.text ['@']) second), front?_password, hrest]
      rfl
  | cons c tail ih =>
      rw [front?_seq_ink, front?_seq_ink (.seq (.text ['@']) second), front?_password, hrest, List.tail_cons,
        ih _ (place.advance_rest tail)]
      by_cases hcolon : c = ':'
      · subst hcolon
        have hink : (':' :: tail).head?.any inkSet.mem = true := head?_any_inkSet ':' tail
        have hprefix : [':'] <+: ':' :: tail := List.prefix_append [':'] tail
        rw [if_pos hink, if_pos hprefix]
        cases (Expr.seq (inkExpr 0) (.seq (.text ['@']) second)).front? (place.advance tail) <;> rfl
      · have hnone : ¬ [':'] <+: c :: tail := by
          rw [List.cons_prefix_cons]
          exact fun h => hcolon h.1.symm
        rw [if_neg hnone, Option.none_or]

/-- What follows credentials is tried from the farthest at sign on. -/
theorem front?_seq_credentials (second : Expr) (place : Place) :
    (Expr.seq credentialsExpr second).front? place =
      ((afterCredentials false place.rest).map place.advance).findSome? second.front? := by
  have hplus : (Expr.seq credentialsExpr second).front? place =
      (Expr.seq (.chars inkSet) (.seq (inkExpr 0) (.seq (.seq passwordExpr (.text ['@'])) second))).front?
        place := by
    rw [credentialsExpr, front?_seq_assoc, front?_seq, inkExpr, ends_repeated_succ, ← front?_seq,
      front?_seq_assoc]
    rfl
  rw [hplus, front?_seq_chars, front?_skip_password, ← front?_seq_assoc, front?_seq, ends_atExpr,
    Place.advance_rest]
  cases hrest : place.rest with
  | nil => rfl
  | cons c tail =>
      rw [List.tail_cons, map_advance_afterCredentials ⟨[c], hrest.symm⟩, head?_any_inkSet, afterCredentials]
      cases isBlank c with
      | true => rfl
      | false =>
          rw [Bool.false_and, if_neg Bool.false_ne_true, if_neg Bool.false_ne_true, List.append_nil]
          rfl

/-- Without credentials the host follows at once. -/
theorem front?_credentials (second : Expr) (place : Place) :
    (Expr.seq (.repeated 0 (some 1) true credentialsExpr) second).front? place =
      ((afterCredentials false place.rest ++ [place.rest]).map place.advance).findSome? second.front? := by
  rw [front?_seq_optional, front?_seq_credentials, List.map_append, List.findSome?_append, List.map_singleton,
    List.findSome?_singleton, place.advance_self]

/-! ### What is found -/

/-- Of the texts that may begin with the host, the first one that does is found. -/
theorem front?_hosts (place : Place) :
    (Expr.seq (.repeated 0 (some 1) true credentialsExpr) hostExpr).front? place =
      ((afterCredentials false place.rest ++ [place.rest]).find? isHostAndRest).map fun rest =>
        behindHost (place.advance rest) := by
  rw [front?_credentials, List.findSome?_map]
  induction afterCredentials false place.rest ++ [place.rest] with
  | nil => rfl
  | cons rest others ih =>
      rw [List.findSome?_cons, List.find?_cons, Function.comp_apply, front?_hostExpr, Place.advance_rest, ih]
      cases isHostAndRest rest <;> rfl

theorem front?_slashes_of_eq {place : Place} {rest : List Char} (h : place.rest = '/' :: '/' :: rest)
    (second : Expr) :
    (Expr.seq (.text ['/', '/']) second).front? place = second.front? (place.advance rest) := by
  have hprefix : ['/', '/'] <+: '/' :: '/' :: rest := List.prefix_append ['/', '/'] rest
  rw [front?_seq_text (List.cons_ne_nil _ _), h, if_pos hprefix]
  rfl

theorem front?_slashes_of_ne {place : Place} (h : ∀ rest, place.rest ≠ '/' :: '/' :: rest) (second : Expr) :
    (Expr.seq (.text ['/', '/']) second).front? place = none := by
  have hprefix : ¬ ['/', '/'] <+: place.rest := fun ⟨rest, hrest⟩ => h rest hrest.symm
  rw [front?_seq_text (List.cons_ne_nil _ _), if_neg hprefix]

/-- A scheme is passed over if there is one. -/
theorem front?_scheme (second : Expr) (place : Place) :
    (Expr.seq (.repeated 0 (some 1) true schemeExpr) (.seq (.text ['/', '/']) second)).front? place =
      (Expr.seq (.text ['/', '/']) second).front? (place.advance (dropScheme place.rest)) := by
  rw [front?_seq_optional, drops_schemeExpr.front?_seq, dropScheme_eq]
  cases hscheme : behindScheme? place.rest with
  | none => rw [Option.bind_none, Option.none_or, Option.getD_none, place.advance_self]
  | some after =>
      have hslashes : ∀ rest, place.rest ≠ '/' :: '/' :: rest := by
        intro rest hrest
        rw [hrest, behindScheme?_slash] at hscheme
        cases hscheme
      rw [front?_slashes_of_ne hslashes, Option.or_none, Option.bind_some, Option.getD_some]

/-- What the groups keep behind a host. -/
theorem lookup_behindHost {place : Place} (h : place.kept = []) :
    (behindHost place).kept.lookup 1 =
      if isDottedHost (hostOf place.rest) then some (hostOf place.rest) else none := by
  rw [behindHost]
  split
  · rfl
  · have hkept : (place.advance []).kept = [] := h
    rw [hkept]
    rfl

/-- A text is a web address if the search expression is found in it and keeps no reserved host. -/
theorem isWebAddress_eq_search (text : List Char) :
    isWebAddress text = (find? webSource text).any fun kept => !(kept.lookup 1).any isReserved := by
  rw [find?_of_parse? parse?_webSource, webExpr, search?_textStart, front?_group, front?_scheme]
  by_cases hslashes : ∃ rest, dropScheme text = '/' :: '/' :: rest
  · obtain ⟨rest, hrest⟩ := hslashes
    rw [front?_slashes_of_eq hrest, front?_hosts]
    cases hfound : (afterCredentials false rest ++ [rest]).find? isHostAndRest with
    | none =>
        simp only [isWebAddress, hrest, Place.advance_rest, hfound]
        rfl
    | some found =>
        -- The whole match is kept under zero, so the host is looked up behind it.
        have hlookup : ∀ stop : Place,
            (Place.keep 0 ⟨[], text, []⟩ stop).kept.lookup 1 = stop.kept.lookup 1 := fun _ => rfl
        simp only [isWebAddress, hrest, Place.advance_rest, hfound, Option.map_some, Option.any_some, hlookup]
        rw [lookup_behindHost rfl, Place.advance_rest]
        cases isDottedHost (hostOf found) <;> rfl
  · rw [not_exists] at hslashes
    rw [front?_slashes_of_ne hslashes]
    unfold isWebAddress
    split
    · rename_i rest hrest
      exact absurd hrest (hslashes rest)
    · rfl

end FormRules.Address
