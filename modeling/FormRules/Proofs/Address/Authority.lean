/-
The host that an address names.

An address names its host in the authority, which ends before the first slash, question mark or number
sign behind the two slashes.  Credentials may be taken to end at any at sign.  So either an at sign behind
the authority is followed by a host, or what is taken for the host is the one that the address names.
-/
import FormRules.Proofs.Address.Dotted

namespace FormRules.Address

open Text

/-- What follows the first two slashes in a row. -/
def afterSlashes : List Char → List Char
  | '/' :: '/' :: rest => rest
  | _ :: rest => afterSlashes rest
  | [] => []

/-- The marks that end the authority of an address. -/
def endsAuthority (c : Char) : Bool := c == '/' || c == '?' || c == '#'

def authorityOf (text : List Char) : List Char :=
  (afterSlashes text).takeWhile fun c => !endsAuthority c

/-- The path, query and fragment of an address. -/
def behindAuthority (text : List Char) : List Char :=
  (afterSlashes text).dropWhile fun c => !endsAuthority c

/-- What follows the last mark in a text, or all of it. -/
def afterLast (mark : Char) (text : List Char) : List Char :=
  match cutAtLast mark text with
  | some (_, after) => after
  | none => text

/-- A text without a colon and digits at its end. -/
def withoutPort (text : List Char) : List Char :=
  match cutAtLast ':' text with
  | some (host, port) => if port.all isAsciiDigit then host else text
  | none => text

/-- The host that an address names. -/
def hostIn (text : List Char) : List Char := withoutPort (afterLast '@' (authorityOf text))

/-- A host with what may follow it, and no reserved one. -/
def isPublic (text : List Char) : Bool :=
  isHostAndRest text && !(isDottedHost (hostOf text) && isReserved (hostOf text))

theorem authorityOf_append_behindAuthority (text : List Char) :
    authorityOf text ++ behindAuthority text = afterSlashes text :=
  List.takeWhile_append_dropWhile

theorem endsAuthority_of_mem {text : List Char} {c : Char} (hc : c ∈ authorityOf text) :
    endsAuthority c = false := by
  simpa using List.all_eq_true.mp List.all_takeWhile c hc

theorem endsAuthority_of_head {text : List Char} :
    ∀ c ∈ (behindAuthority text).head?, endsAuthority c = true := by
  intro c hc
  have hstop := List.head?_dropWhile_not (fun c => !endsAuthority c) (afterSlashes text)
  rw [behindAuthority] at hc
  rw [Option.mem_def.mp hc] at hstop
  simpa using hstop

theorem afterLast_of_notMem {mark : Char} {text : List Char} (h : mark ∉ text) :
    afterLast mark text = text := by
  rw [afterLast, cutAtLast_eq_none_iff.mpr h]

theorem afterLast_append {mark : Char} {before after : List Char} (h : mark ∉ after) :
    afterLast mark (before ++ mark :: after) = after := by
  rw [afterLast, cutAtLast_append h]

theorem withoutPort_of_notMem {host : List Char} (h : ':' ∉ host) : withoutPort host = host := by
  rw [withoutPort, cutAtLast_eq_none_iff.mpr h]

theorem withoutPort_append {host port : List Char} (h : ∀ c ∈ port, isAsciiDigit c = true) :
    withoutPort (host ++ ':' :: port) = host := by
  have hport : ':' ∉ port := fun hmem => absurd (h ':' hmem) (by decide)
  rw [withoutPort, cutAtLast_append hport]
  exact if_pos (List.all_eq_true.mpr h)

/-! ### Schemes -/

theorem afterSlashes_append {before rest : List Char} (h : '/' ∉ before) :
    afterSlashes (before ++ '/' :: '/' :: rest) = rest := by
  induction before with
  | nil => rfl
  | cons c before ih =>
      rw [List.mem_cons, not_or] at h
      rw [List.cons_append, afterSlashes, ih h.2]
      rintro _ rfl
      exact absurd rfl h.1

/-- No slash stands in what is taken for a word without slashes. -/
theorem exists_of_dropWord? {word text rest : List Char} (hword : '/' ∉ word)
    (h : dropWord? word text = some rest) : ∃ before, text = before ++ rest ∧ '/' ∉ before := by
  induction word generalizing text with
  | nil =>
      obtain rfl := Option.some.inj h
      exact ⟨[], rfl, List.not_mem_nil⟩
  | cons letter word ih =>
      rw [List.mem_cons, not_or] at hword
      cases text with
      | nil => cases h
      | cons c text =>
          simp only [dropWord?, Option.ite_none_right_eq_some] at h
          obtain ⟨hvariant, hrest⟩ := h
          obtain ⟨before, rfl, hbefore⟩ := ih hword.2 hrest
          refine ⟨c :: before, rfl, ?_⟩
          rw [List.mem_cons, not_or]
          refine ⟨?_, hbefore⟩
          rintro rfl
          have hslash : '/'.toLower = '/' := by decide
          simp only [isLetterVariant, hslash, Bool.or_eq_true, beq_iff_eq, Bool.and_eq_true] at hvariant
          rcases hvariant with rfl | ⟨_, hlong⟩
          · exact hword.1 rfl
          · exact absurd hlong (by decide)

/-- The first two slashes in a row follow the scheme. -/
theorem afterSlashes_of_dropScheme {text rest : List Char}
    (h : dropScheme text = '/' :: '/' :: rest) : afterSlashes text = rest := by
  unfold dropScheme at h
  split at h
  · rename_i dropped hdropped
    obtain ⟨scheme, hscheme, hword⟩ := List.exists_of_findSome?_eq_some hdropped
    have hslashes : ∀ scheme ∈ ["https:", "http:", "ftp:"], '/' ∉ scheme.toList := by decide
    obtain ⟨before, rfl, hbefore⟩ := exists_of_dropWord? (hslashes scheme hscheme) hword
    rw [h, afterSlashes_append hbefore]
  · rw [h]
    rfl

/-! ### Hosts -/

/-- The last label of a domain name consists of letters, and the others of letters, digits and
dashes. -/
theorem labels_of_isDomainName {host : List Char} (h : isDomainName host = true) :
    ∃ labels top, pieces (· == '.') host = labels ++ [top] ∧
      (∀ label ∈ labels, ∀ c ∈ label, isHostChar c = true ∨ c = '-') ∧
      ∀ c ∈ top, isDomainLetter c = true := by
  have hne := pieces_ne_nil (· == '.') host
  simp only [isDomainName, List.getLast?_eq_some_getLast hne, Option.getD_some, Bool.and_eq_true,
    List.all_eq_true] at h
  obtain ⟨⟨⟨_, hlabels⟩, _⟩, htop⟩ := h
  refine ⟨_, _, (List.dropLast_concat_getLast hne).symm, fun label hlabel => ?_, htop⟩
  have hlabel := hlabels label hlabel
  unfold isHostLabel at hlabel
  split at hlabel
  · rw [Bool.and_eq_true, List.all_eq_true] at hlabel
    simpa using hlabel.2
  · cases hlabel

/-- Letters, digits, dashes and dots make up a host. -/
theorem isHostChar_of_mem {host : List Char} (h : isDottedHost host = true ∨ isDomainName host = true)
    {c : Char} (hc : c ∈ host) : isHostChar c = true ∨ c = '-' ∨ c = '.' := by
  rcases isMark_or_mem_pieces (· == '.') hc with hdot | ⟨piece, hpiece, hmem⟩
  · exact Or.inr (Or.inr (beq_iff_eq.mp hdot))
  · rcases h with hdotted | hname
    · obtain ⟨a, b, c, d, hpieces, hoctets⟩ := octets_of_isDottedHost hdotted
      rw [hpieces] at hpiece
      exact Or.inl (Bool.or_eq_true_iff.mpr (Or.inr ((hoctets piece hpiece).isAsciiDigit_of_mem _ hmem)))
    · obtain ⟨labels, top, hpieces, hlabels, htop⟩ := labels_of_isDomainName hname
      rw [hpieces, List.mem_append, List.mem_singleton] at hpiece
      rcases hpiece with hlabel | rfl
      · exact (hlabels piece hlabel c hmem).imp_right Or.inl
      · exact Or.inl (Bool.or_eq_true_iff.mpr (Or.inl (htop c hmem)))

theorem at_notMem_of_host {host : List Char}
    (h : isDottedHost host = true ∨ isDomainName host = true) : '@' ∉ host :=
  fun hmem => absurd (isHostChar_of_mem h hmem) (by decide)

theorem endsAuthority_of_isTail {text : List Char} (h : isTail text = true) :
    ∀ c ∈ text.head?, endsAuthority c = true := by
  cases text with
  | nil => simp
  | cons d rest =>
      rintro c hc
      obtain rfl : d = c := Option.some.inj hc
      rw [isTail, Bool.and_eq_true] at h
      exact h.1

/-- What stands between a colon and the end of the authority is digits if a tail follows these. -/
theorem isAsciiDigit_of_isTail {port rest : List Char}
    (hport : ∀ c ∈ port, endsAuthority c = false)
    (h : isTail ((port ++ rest).dropWhile isAsciiDigit) = true) :
    ∀ c ∈ port, isAsciiDigit c = true := by
  induction port with
  | nil => simp
  | cons c port ih =>
      rw [List.forall_mem_cons] at hport ⊢
      by_cases hdigit : isAsciiDigit c = true
      · rw [List.cons_append, List.dropWhile_cons_of_pos hdigit] at h
        exact ⟨hdigit, ih hport.2 h⟩
      · rw [List.cons_append, List.dropWhile_cons_of_neg hdigit] at h
        exact absurd (endsAuthority_of_isTail h c rfl) (by simp [hport.1])

theorem exists_beforeColon (text : List Char) :
    ∃ host rest, text = host ++ rest ∧ ':' ∉ host ∧ (rest = [] ∨ ∃ port, rest = ':' :: port) := by
  induction text with
  | nil => exact ⟨[], [], rfl, List.not_mem_nil, Or.inl rfl⟩
  | cons c text ih =>
      by_cases hc : c = ':'
      · exact ⟨[], c :: text, rfl, List.not_mem_nil, Or.inr ⟨text, hc ▸ rfl⟩⟩
      · obtain ⟨host, rest, rfl, hcolon, hrest⟩ := ih
        refine ⟨c :: host, rest, rfl, ?_, hrest⟩
        rw [List.mem_cons, not_or]
        exact ⟨Ne.symm hc, hcolon⟩

/-- A host ends at a colon or with the authority. -/
theorem isHostEnd_eq (c : Char) : isHostEnd c = (c == ':' || endsAuthority c) := by
  simp [isHostEnd, endsAuthority, Bool.or_assoc]

/-- A text begins with the host that ends before its first mark. -/
theorem hostOf_append {host rest : List Char} (hhost : ∀ c ∈ host, isHostEnd c = false)
    (hrest : ∀ c ∈ rest.head?, isHostEnd c = true) : hostOf (host ++ rest) = host := by
  rw [hostOf, List.takeWhile_append_of_pos fun c hc => by simp [hhost c hc]]
  cases rest with
  | nil => simp
  | cons c rest => simp [hrest c rfl]

/-- A host with what may follow it, up to the end of the authority, is a host or a host with a port. -/
theorem withoutPort_of_isHostAndRest {text tail : List Char}
    (htext : ∀ c ∈ text, endsAuthority c = false) (htail : ∀ c ∈ tail.head?, endsAuthority c = true)
    (h : isHostAndRest (text ++ tail) = true) :
    hostOf (text ++ tail) = withoutPort text ∧ '@' ∉ text ∧
      (isDottedHost (withoutPort text) = true ∨ isDomainName (withoutPort text) = true) := by
  obtain ⟨host, rest, rfl, hcolon, hrest⟩ := exists_beforeColon text
  have hhost : ∀ c ∈ host, isHostEnd c = false := by
    intro c hc
    have hne : c ≠ ':' := fun heq => hcolon (heq ▸ hc)
    rw [isHostEnd_eq, htext c (List.mem_append_left rest hc), Bool.or_false]
    simpa using hne
  have hstop : ∀ c ∈ (rest ++ tail).head?, isHostEnd c = true := by
    rcases hrest with rfl | ⟨port, rfl⟩
    · intro c hc
      rw [isHostEnd_eq, htail c hc, Bool.or_true]
    · rintro c hc
      obtain rfl : ':' = c := Option.some.inj hc
      rfl
  have hname : hostOf (host ++ rest ++ tail) = host := by
    rw [List.append_assoc, hostOf_append hhost hstop]
  rw [isHostAndRest, hname, List.append_assoc, List.drop_left, Bool.and_eq_true, Bool.or_eq_true] at h
  obtain ⟨hproper, hfollows⟩ := h
  have hat := at_notMem_of_host hproper
  rcases hrest with rfl | ⟨port, rfl⟩
  · rw [List.append_nil] at hname ⊢
    rw [withoutPort_of_notMem hcolon]
    exact ⟨hname, hat, hproper⟩
  · rw [List.cons_append, isPortAndTail, Bool.and_eq_true] at hfollows
    have hport : ∀ c ∈ port, isAsciiDigit c = true :=
      isAsciiDigit_of_isTail (fun c hc => htext c (by simp [hc])) hfollows.2
    rw [withoutPort_append hport]
    refine ⟨hname, ?_, hproper⟩
    simp only [List.mem_append, List.mem_cons, not_or]
    exact ⟨hat, by decide, fun hmem => absurd (hport '@' hmem) (by decide)⟩

/-! ### Credentials -/

/-- Credentials end at an at sign. -/
theorem exists_of_mem_afterCredentials {begun : Bool} {text found : List Char}
    (h : found ∈ afterCredentials begun text) : ∃ before, text = before ++ '@' :: found := by
  induction text generalizing begun with
  | nil => cases h
  | cons c text ih =>
      unfold afterCredentials at h
      split at h
      · cases h
      · rcases List.mem_append.mp h with hlater | hhere
        · obtain ⟨before, rfl⟩ := ih hlater
          exact ⟨c :: before, rfl⟩
        · split at hhere
          · rename_i hat
            obtain rfl := List.mem_singleton.mp hhere
            rw [Bool.and_eq_true, beq_iff_eq] at hat
            exact ⟨[], hat.2 ▸ rfl⟩
          · cases hhere

/-- An at sign stands in the authority or behind it. -/
theorem at_cases {text before found : List Char}
    (h : authorityOf text ++ behindAuthority text = before ++ '@' :: found) :
    (∃ rest, behindAuthority text = rest ++ '@' :: found) ∨
      ∃ host, authorityOf text = before ++ '@' :: host ∧ found = host ++ behindAuthority text := by
  rcases List.append_eq_append_iff.mp h with ⟨rest, _, hbehind⟩ | ⟨host, hauthority, hat⟩
  · exact Or.inl ⟨rest, hbehind⟩
  · cases host with
    | nil => exact Or.inl ⟨[], hat.symm⟩
    | cons c host =>
        obtain ⟨rfl, hfound⟩ := List.cons.inj hat
        exact Or.inr ⟨host, hauthority, hfound⟩

/-- Whether a text is a proper host and not reserved. -/
def isPublicHost (host : List Char) : Bool :=
  (isDottedHost host || isDomainName host) && !(isDottedHost host && isReserved host)

/-- What is taken for a host within the authority is the host that the address names. -/
theorem isPublicHost_of_isPublic {text host : List Char} (hhost : ∀ c ∈ host, c ∈ authorityOf text)
    (hlast : '@' ∉ host → afterLast '@' (authorityOf text) = host)
    (h : isPublic (host ++ behindAuthority text) = true) : isPublicHost (hostIn text) = true := by
  rw [isPublic, Bool.and_eq_true] at h
  obtain ⟨hname, hat, hproper⟩ := withoutPort_of_isHostAndRest
    (fun c hc => endsAuthority_of_mem (hhost c hc)) endsAuthority_of_head h.1
  rw [hname] at h
  rw [hostIn, hlast hat, isPublicHost, Bool.and_eq_true, Bool.or_eq_true]
  exact ⟨hproper, h.2⟩

theorem exists_public_of_isWebAddress {text : List Char} (h : isWebAddress text = true) :
    ∃ found, isPublic found = true ∧ (found = afterSlashes text ∨
      ∃ before, afterSlashes text = before ++ '@' :: found) := by
  unfold isWebAddress at h
  split at h
  · rename_i rest hscheme
    rw [afterSlashes_of_dropScheme hscheme]
    split at h
    · rename_i found hfound
      refine ⟨found, ?_, ?_⟩
      · rw [isPublic, List.find?_some hfound, h]
        rfl
      · rcases List.mem_append.mp (List.mem_of_find?_eq_some hfound) with hmem | hmem
        · exact Or.inr (exists_of_mem_afterCredentials hmem)
        · exact Or.inl (List.mem_singleton.mp hmem)
    · cases h
  · cases h

/-- An address that is accepted has a host that is not reserved after an at sign behind the authority, or
it names such a host. -/
theorem host_of_isWebAddress {text : List Char} (h : isWebAddress text = true) :
    (∃ before found, behindAuthority text = before ++ '@' :: found ∧ isPublic found = true) ∨
      isPublicHost (hostIn text) = true := by
  obtain ⟨found, hpublic, hwhole | ⟨before, hat⟩⟩ := exists_public_of_isWebAddress h
  · rw [hwhole, ← authorityOf_append_behindAuthority] at hpublic
    exact Or.inr (isPublicHost_of_isPublic (fun _ => id) afterLast_of_notMem hpublic)
  · rw [← authorityOf_append_behindAuthority] at hat
    rcases at_cases hat with ⟨rest, hbehind⟩ | ⟨host, hauthority, rfl⟩
    · exact Or.inl ⟨rest, found, hbehind, hpublic⟩
    · refine Or.inr (isPublicHost_of_isPublic (fun c hc => ?_) (fun hnot => ?_) hpublic)
      · rw [hauthority]
        simp [hc]
      · rw [hauthority, afterLast_append hnot]

end FormRules.Address
