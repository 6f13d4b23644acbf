/-
The grammar of mailbox addresses.

A mailbox is read at its last at sign and cut at its dots.  The texts that are accepted in this way are
those of a grammar of labels; and they are those in which the search expression for mailboxes occurs, where
no part of an address can be matched in another way than its grammar says.
-/
import FormRules.Proofs.Pattern.Writing
import FormRules.Proofs.Rule.Passing
import FormRules.Proofs.Text.Pieces
import FormRules.Proofs.Text.Ranges

namespace FormRules

open Text

namespace Address

/-- The characters of a label: neither blank nor one of the marks that structure an address. -/
def IsLabelChar (c : Char) : Prop := isBlank c = false ∧ c ∉ "<>()[].,;:@\"".toList

/-- A label: one character or more of those. -/
def IsLabel (label : List Char) : Prop := label ≠ [] ∧ ∀ c ∈ label, IsLabelChar c

/-- A local part: labels with dots between them, or anything in quotes that does not end the line. -/
inductive IsLocalPart : List Char → Prop
  | dotted {labels : List (List Char)} (hne : labels ≠ []) (hlabels : ∀ label ∈ labels, IsLabel label) :
      IsLocalPart (['.'].intercalate labels)
  | quoted {body : List Char} (hne : body ≠ []) (hline : '\n' ∉ body) :
      IsLocalPart ('"' :: (body ++ ['"']))

/-- A domain: labels with dots between them, two or more, and the last of two characters or more. -/
inductive IsMailDomain : List Char → Prop
  | intro {labels : List (List Char)} {top : List Char} (hne : labels ≠ [])
      (hlabels : ∀ label ∈ labels ++ [top], IsLabel label) (htop : 2 ≤ top.length) :
      IsMailDomain (['.'].intercalate (labels ++ [top]))

/-- A mailbox: a local part and a domain around the last at sign. -/
inductive IsMailbox : List Char → Prop
  | intro {localPart domain : List Char} (hlast : '@' ∉ domain) (hlocal : IsLocalPart localPart)
      (hdomain : IsMailDomain domain) : IsMailbox (localPart ++ '@' :: domain)

variable {c : Char} {label text : List Char} {labels : List (List Char)}

theorem isLabelChar_iff : isLabelChar c = true ↔ IsLabelChar c := by
  simp [isLabelChar, IsLabelChar]

theorem isLabel_iff : isLabel label = true ↔ IsLabel label := by
  simp [isLabel, IsLabel, isLabelChar_iff]

theorem IsLabel.notMem {mark : Char} (h : IsLabel label) (hmark : ¬ IsLabelChar mark) : mark ∉ label :=
  fun hmem => hmark (h.2 mark hmem)

theorem not_isLabelChar_dot : ¬ IsLabelChar '.' := by simp [IsLabelChar]

theorem IsLabel.dot_notMem (h : IsLabel label) : '.' ∉ label := h.notMem not_isLabelChar_dot

theorem not_isLabelChar_at : ¬ IsLabelChar '@' := by simp [IsLabelChar]

/-! ### Reading at the last at sign -/

theorem all_isLabel_iff : labels.all isLabel = true ↔ ∀ label ∈ labels, IsLabel label := by
  simp only [List.all_eq_true, isLabel_iff]

/-- A text in quotes begins and ends with them. -/
theorem isQuoted_iff :
    isQuoted text = true ↔ ∃ body, body ≠ [] ∧ '\n' ∉ body ∧ text = '"' :: (body ++ ['"']) := by
  constructor
  · intro h
    unfold isQuoted at h
    split at h
    · rename_i rest
      simp only [Bool.and_eq_true, beq_iff_eq, Bool.not_eq_true', List.isEmpty_eq_false_iff, List.all_eq_true,
        bne_iff_ne] at h
      obtain ⟨⟨hlast, hne⟩, hline⟩ := h
      obtain ⟨body, rfl⟩ := List.getLast?_eq_some_iff.mp hlast
      rw [List.dropLast_concat] at hne hline
      exact ⟨body, hne, fun hmem => hline '\n' hmem rfl, rfl⟩
    · cases h
  · rintro ⟨body, hne, hline, rfl⟩
    have hlines : ∀ c ∈ body, c ≠ '\n' := by
      rintro c hc rfl
      exact hline hc
    simpa [isQuoted, hne] using hlines

theorem isLocalPart_iff : isLocalPart text = true ↔ IsLocalPart text := by
  rw [isLocalPart, Bool.or_eq_true, all_isLabel_iff, isQuoted_iff]
  constructor
  · rintro (hlabels | ⟨body, hne, hline, rfl⟩)
    · have hdotted := IsLocalPart.dotted (pieces_ne_nil _ text) hlabels
      rwa [intercalate_pieces] at hdotted
    · exact .quoted hne hline
  · rintro (⟨hne, hlabels⟩ | ⟨hne, hline⟩)
    · left
      rwa [(pieces_eq_iff hne fun label hlabel => (hlabels label hlabel).dot_notMem).mpr rfl]
    · exact Or.inr ⟨_, hne, hline, rfl⟩

theorem isMailDomain_iff : isMailDomain text = true ↔ IsMailDomain text := by
  simp only [isMailDomain, Bool.and_eq_true, decide_eq_true_eq, all_isLabel_iff]
  constructor
  · rintro ⟨⟨hlength, hlabels⟩, htop⟩
    obtain hnil | ⟨labels, top, hpieces⟩ := List.eq_nil_or_concat' (pieces (· == '.') text)
    · exact absurd hnil (pieces_ne_nil _ text)
    · have htext : ['.'].intercalate (pieces (· == '.') text) = text := intercalate_pieces
      rw [hpieces] at htext hlength hlabels htop
      rw [List.getLast?_concat] at htop
      have hne : labels ≠ [] := by
        rintro rfl
        simp at hlength
      rw [← htext]
      exact .intro hne hlabels htop
  · rintro ⟨hne, hlabels, htop⟩
    rw [(pieces_eq_iff (List.concat_ne_nil _ _) fun label hlabel => (hlabels label hlabel).dot_notMem).mpr
      rfl, List.length_append, List.length_singleton, List.getLast?_concat]
    have hpos := List.length_pos_iff.mpr hne
    exact ⟨⟨by omega, hlabels⟩, htop⟩

/-- No at sign stands in a domain. -/
theorem IsMailDomain.at_notMem (h : IsMailDomain text) : '@' ∉ text := by
  obtain ⟨hne, hlabels, htop⟩ := h
  rw [intercalate_concat]
  simp only [List.forall_mem_append, List.forall_mem_singleton] at hlabels
  simp only [List.mem_append, List.mem_flatMap, List.mem_singleton, not_or, not_exists, not_and]
  refine ⟨fun label hlabel => ⟨(hlabels.1 label hlabel).notMem not_isLabelChar_at, by decide⟩,
    hlabels.2.notMem not_isLabelChar_at⟩

theorem isMailbox_iff : isMailbox text = true ↔ IsMailbox text := by
  constructor
  · intro h
    unfold isMailbox at h
    split at h
    · rename_i localPart domain hcut
      rw [Bool.and_eq_true, isLocalPart_iff, isMailDomain_iff] at h
      rw [cutAtLast_eq_some hcut]
      exact .intro h.2.at_notMem h.1 h.2
    · cases h
  · rintro ⟨hlast, hlocal, hdomain⟩
    rw [isMailbox, cutAtLast_append hlast]
    exact Bool.and_eq_true_iff.mpr ⟨isLocalPart_iff.mpr hlocal, isMailDomain_iff.mpr hdomain⟩

/-- In quotes, dots and at signs may stand in any order. -/
example : IsMailbox "\"a@b..c\"@d.ef".toList := isMailbox_iff.mp (by decide +kernel)

example : ¬ IsMailbox "a@b.c".toList := mt isMailbox_iff.mpr (by decide +kernel)

/-! ### The search expression -/

section Expressions

open Pattern Pattern.Expr

/-- The characters of a label as a set. -/
def labelSet : CharSet :=
  ⟨[(0, 8), (14, 31), (33, 33), (35, 39), (42, 43), (45, 45), (47, 57), (61, 61), (63, 63), (65, 90),
    (92, 92), (94, 132), (134, 159), (161, 5759), (5761, 8191), (8203, 8231), (8234, 8238), (8240, 8286),
    (8288, 12287), (12289, 1114111)]⟩

/-- All characters but the end of a line. -/
def lineSet : CharSet := ⟨[(0, 9), (11, 1114111)]⟩

/-- Labels of so many characters. -/
def labelExpr (least : Nat) : Expr := .repeated least none true (.chars labelSet)

def localPartExpr : Expr :=
  .either
    (.seq (labelExpr 1) (.repeated 0 none true (.seq (.text ['.']) (labelExpr 1))))
    (.seq (.text ['"']) (.seq (.repeated 1 none true (.chars lineSet)) (.text ['"'])))

/-- A domain up to the end of a text. -/
def domainExpr : Expr :=
  .seq (.repeated 1 none true (.seq (labelExpr 1) (.text ['.']))) (.seq (labelExpr 2) (.edge .textEnd))

def mailboxExpr : Expr :=
  .seq (.edge .textStart) (.seq localPartExpr (.seq (.text ['@']) domainExpr))

/-- The sources of the two sides of a mailbox. -/
def localPartSource : String :=
  "(?i)^(?:(?:[^<>()\\[\\].,;:\\s@\"]+(?:\\.[^<>()\\[\\].,;:\\s@\"]+)*)|(?:\".+\"))"

def domainSource : String :=
  "(?:(?:[^<>()\\[\\].,;:\\s@\"]+\\.)+[^<>()\\[\\].,;:\\s@\"]\x7b2,\x7d)$"

/-- The source of the search expression for mailboxes. -/
def mailboxSource : String := localPartSource ++ "@" ++ domainSource

theorem toList_mailboxSource :
    mailboxSource.toList = localPartSource.toList ++ '@' :: domainSource.toList := by
  rw [mailboxSource, String.toList_append, String.toList_append, List.append_assoc]
  rfl

theorem parse?_mailboxSource : parse? mailboxSource.toList = some mailboxExpr := by
  refine (congrArg parse? toList_mailboxSource).trans ?_
  simp only [localPartSource, domainSource, String.reduceToList]
  decide +kernel

variable {before word after : List Char}

theorem mem_labelSet_iff : labelSet.mem c = true ↔ IsLabelChar c := by
  have hlast := toNat_le c
  rw [CharSet.mem_iff (by decide)]
  simp only [labelSet, IsLabelChar, isBlank, blankRanges, List.mem_cons, List.not_mem_nil, or_false,
    exists_eq_or_imp, exists_eq_left, List.any_cons, List.any_nil, Bool.or_false, Bool.or_eq_false_iff,
    decide_eq_false_iff_not, String.reduceToList, ← Char.toNat_inj, Char.reduceToNat]
  omega

theorem mem_lineSet_iff : lineSet.mem c = true ↔ c ≠ '\n' := by
  have hlast := toNat_le c
  rw [CharSet.mem_iff (by decide), ne_eq, ← Char.toNat_inj]
  simp only [lineSet, List.mem_cons, List.not_mem_nil, or_false, exists_eq_or_imp, exists_eq_left,
    Char.reduceToNat]
  omega

theorem writes_labelExpr : (labelExpr 1).Writes IsLabel id := by
  intro before word after
  rw [labelExpr, writes_repeated_chars 1 true labelSet before word after]
  simp only [mem_labelSet_iff, IsLabel, Nat.one_le_iff_ne_zero, ne_eq, List.length_eq_zero_iff]

/-- What is matched for a local part is one, whatever stands around. -/
theorem matches_localPartExpr_iff : localPartExpr.Matches before word after ↔ IsLocalPart word := by
  have hdot : ['.'] ≠ [] := List.cons_ne_nil _ _
  have hquote : ['"'] ≠ [] := List.cons_ne_nil _ _
  have hbehind := (writes_labelExpr.behind hdot).repeated 0 true
  have hquoted := ((writes_repeated_chars 1 true lineSet).inFront hquote).behind hquote
  constructor
  · rintro (⟨first, _, rfl, hfirst, hrest⟩ | hmatches)
    · obtain ⟨_, hlabel, rfl⟩ := (writes_labelExpr _ _ _).mp hfirst
      obtain ⟨rest, ⟨_, hlabels⟩, rfl⟩ := (hbehind _ _ _).mp hrest
      have hlocal :=
        IsLocalPart.dotted (List.cons_ne_nil first rest) (List.forall_mem_cons.mpr ⟨hlabel, hlabels⟩)
      rwa [intercalate_cons] at hlocal
    · obtain ⟨body, ⟨hlength, hbody⟩, rfl⟩ := (hquoted _ _ _).mp hmatches
      exact .quoted (List.length_pos_iff.mp hlength) fun hmem => mem_lineSet_iff.mp (hbody _ hmem) rfl
  · rintro (@⟨labels, hne, hlabels⟩ | @⟨body, hne, hline⟩)
    · obtain ⟨first, rest, rfl⟩ := List.exists_cons_of_ne_nil hne
      rw [List.forall_mem_cons] at hlabels
      rw [intercalate_cons]
      exact Or.inl ⟨_, _, rfl, (writes_labelExpr _ _ _).mpr ⟨first, hlabels.1, rfl⟩,
        (hbehind _ _ _).mpr ⟨rest, ⟨Nat.zero_le _, hlabels.2⟩, rfl⟩⟩
    · have hbody : ∀ c ∈ body, lineSet.mem c = true := by
        intro c hc
        rw [mem_lineSet_iff]
        rintro rfl
        exact hline hc
      exact Or.inr ((hquoted _ _ _).mpr ⟨body, ⟨List.length_pos_iff.mpr hne, hbody⟩, rfl⟩)

/-- A domain is matched up to the end of the text. -/
theorem matches_domainExpr_iff :
    domainExpr.Matches before word after ↔ after = [] ∧ IsMailDomain word := by
  have hfront := (writes_labelExpr.inFront (List.cons_ne_nil '.' [])).repeated 1 true
  have hback := writes_repeated_chars 2 true labelSet
  constructor
  · rintro ⟨_, top, rfl, hmatches, hend⟩
    obtain ⟨rfl, hlast⟩ := matches_textEnd_iff.mp hend
    obtain ⟨labels, ⟨hlength, hlabels⟩, rfl⟩ := (hfront _ _ _).mp hmatches
    obtain ⟨_, ⟨hlong, hchars⟩, rfl⟩ := (hback _ _ _).mp hlast
    have htop : IsLabel top := by
      refine ⟨List.length_pos_iff.mp (Nat.lt_of_lt_of_le Nat.zero_lt_two hlong), fun c hc => ?_⟩
      exact mem_labelSet_iff.mp (hchars c hc)
    have hdomain := IsMailDomain.intro (List.length_pos_iff.mp hlength)
      (List.forall_mem_append.mpr ⟨hlabels, List.forall_mem_singleton.mpr htop⟩) hlong
    rw [intercalate_concat] at hdomain
    exact ⟨rfl, hdomain⟩
  · rintro ⟨rfl, @⟨labels, top, hne, hlabels, hlong⟩⟩
    rw [List.forall_mem_append, List.forall_mem_singleton] at hlabels
    rw [intercalate_concat]
    exact ⟨_, _, rfl, (hfront _ _ _).mpr ⟨labels, ⟨List.length_pos_iff.mpr hne, hlabels.1⟩, rfl⟩,
      matches_textEnd_iff.mpr ⟨rfl, (hback _ _ _).mpr
        ⟨top, ⟨hlong, fun c hc => mem_labelSet_iff.mpr (hlabels.2.2 c hc)⟩, rfl⟩⟩⟩

/-- The search expression occurs in the texts of mailboxes. -/
theorem occursIn_mailboxExpr_iff : mailboxExpr.occursIn text = true ↔ IsMailbox text := by
  rw [mailboxExpr, occursIn_textStart_iff]
  constructor
  · rintro ⟨_, after, rfl, localPart, _, rfl, hlocal, mark, domain, rfl, hmark, hdomain⟩
    obtain rfl := (matches_text_iff (List.cons_ne_nil _ _)).mp hmark
    obtain ⟨rfl, hgrammar⟩ := matches_domainExpr_iff.mp hdomain
    rw [List.append_nil]
    exact .intro hgrammar.at_notMem (matches_localPartExpr_iff.mp hlocal) hgrammar
  · rintro ⟨hlast, hlocal, hdomain⟩
    refine ⟨_, [], (List.append_nil _).symm, _, _, rfl, matches_localPartExpr_iff.mpr hlocal, ['@'], _, rfl,
      (matches_text_iff (List.cons_ne_nil _ _)).mpr rfl, matches_domainExpr_iff.mpr ⟨rfl, hdomain⟩⟩

end Expressions

end Address

namespace Rule

open Address

/-- The rule on mailbox addresses passes on the texts of mailboxes and on no other value; and these are the
texts that the search expression for mailboxes is found in. -/
theorem passes_email_iff (context : Context) :
    (email.check context = .ok true ↔
      ∃ text, context.value = some (.text text) ∧ IsMailbox text.toList) ∧
    ∀ params text, email.Passes context params text ↔ Pattern.FoundIn mailboxSource text := by
  constructor
  · rw [email, check_onText, Except.ok.injEq, Context.holdsText_iff]
    simp only [isMailbox_iff]
  · intro params text
    rw [email, passes_onText_iff, isMailbox_iff, Pattern.foundIn_iff parse?_mailboxSource,
      occursIn_mailboxExpr_iff]

end Rule

end FormRules
