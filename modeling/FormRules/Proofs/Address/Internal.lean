/-
Addresses of internal hosts.

An address that is accepted names no internal host if its host is written without zeros in front of
numbers and no at sign behind its authority is followed by a public host.
-/
import FormRules.Proofs.Address.Authority
import FormRules.Proofs.Rule.Passing
import Mathlib.Data.List.Basic

namespace FormRules.Address

open Text

/-- Whether the numbers of a host begin with those of a loopback, link-local or private network. -/
def IsInternal (a b : Nat) : Prop :=
  a = 10 ∨ a = 127 ∨ a = 169 ∧ b = 254 ∨ a = 192 ∧ b = 168 ∨ a = 172 ∧ 16 ≤ b ∧ b ≤ 31

instance (a b : Nat) : Decidable (IsInternal a b) :=
  inferInstanceAs (Decidable (_ ∨ _ ∨ _ ∨ _ ∨ _))

theorem isReserved_iff_isInternal {host : List Char} {a b c d : Nat}
    (h : ipv4? host = some (a, b, c, d)) : isReserved host = true ↔ IsInternal a b := by
  simp [isReserved, h, IsInternal, or_assoc]

theorem isDomainLetter_of_isAsciiDigit {c : Char} (h : isAsciiDigit c = true) :
    isDomainLetter c = false := by
  have hall : ∀ n ≤ '9'.toNat, '0'.toNat ≤ n → isDomainLetter (Char.ofNat n) = false := by decide
  rw [isAsciiDigit, decide_eq_true_eq] at h
  rw [← Char.ofNat_toNat c]
  exact hall c.toNat h.2 h.1

/-- The last label of a domain name is no number. -/
theorem not_isDomainName_of_numbers? {host : List Char} {a b c d : Nat}
    (h : numbers? host = some (a, b, c, d)) : isDomainName host = false := by
  rw [Bool.eq_false_iff]
  intro hname
  obtain ⟨labels, top, hpieces, _, htop⟩ := labels_of_isDomainName hname
  obtain ⟨hne, hdigits⟩ := digits_of_numbers? h top (by simp [hpieces])
  obtain ⟨first, hfirst⟩ := List.exists_mem_of_ne_nil top hne
  have hletter := htop first hfirst
  rw [isDomainLetter_of_isAsciiDigit (hdigits first hfirst)] at hletter
  cases hletter

/-- A host that is written in four numbers is public exactly if it is taken for a dotted host and the
numbers begin with those of no internal network or a zero stands in front of one of them. -/
theorem isPublicHost_iff {host : List Char} {a b c d : Nat}
    (hnumbers : numbers? host = some (a, b, c, d)) :
    isPublicHost host = true ↔ isDottedHost host = true ∧
      ((∃ digits ∈ pieces (· == '.') host, hasLeadingZero digits = true) ∨ ¬ IsInternal a b) := by
  rw [isPublicHost, not_isDomainName_of_numbers? hnumbers, Bool.or_false, Bool.and_eq_true]
  refine and_congr_right fun hdotted => ?_
  rw [hdotted, Bool.true_and, Bool.not_eq_true']
  by_cases hzero : ∃ digits ∈ pieces (· == '.') host, hasLeadingZero digits = true
  · obtain ⟨digits, hdigits, hleading⟩ := hzero
    rw [isReserved_of_hasLeadingZero hdigits hleading]
    exact iff_of_true rfl (Or.inl ⟨digits, hdigits, hleading⟩)
  · have hzeros : ∀ digits ∈ pieces (· == '.') host, hasLeadingZero digits = false := by
      simpa using hzero
    have hread : ipv4? host = some (a, b, c, d) := (ipv4?_eq_numbers? hdotted hzeros).trans hnumbers
    rw [← isReserved_iff_isInternal hread, or_iff_right hzero, Bool.not_eq_true]

/-- No address of an internal host passes whose host is written without zeros in front, unless a public
host follows an at sign behind the authority. -/
theorem not_isInternal_of_passes (context : Context) (params : List Param) {text : String}
    (hpasses : Rule.url.Passes context params text)
    (hzeros : ∀ digits ∈ pieces (· == '.') (hostIn text.toList), hasLeadingZero digits = false)
    (hat : ∀ before found, behindAuthority text.toList = before ++ '@' :: found →
      isPublic found = false) :
    ∀ a b c d, numbers? (hostIn text.toList) = some (a, b, c, d) → ¬ IsInternal a b := by
  intro a b c d hnumbers
  have haddress : isWebAddress text.toList = true := (Rule.passes_onText_iff ..).mp hpasses
  rcases host_of_isWebAddress haddress with ⟨before, found, hbehind, hfound⟩ | hpublic
  · rw [hat before found hbehind] at hfound
    cases hfound
  · obtain ⟨_, ⟨digits, hdigits, hleading⟩ | houtside⟩ := (isPublicHost_iff hnumbers).mp hpublic
    · rw [hzeros digits hdigits] at hleading
      cases hleading
    · exact houtside

/-- An address with credentials, a port and an at sign in its path. -/
theorem not_isInternal_of_neighbour :
    let context : Context := ⟨"link", none, [], none, none, .none⟩
    let text := "ftp://me:x@172.32.0.1:2121/a@b"
    Rule.url.Passes context [] text ∧ hostIn text.toList = "172.32.0.1".toList ∧
      numbers? (hostIn text.toList) = some (172, 32, 0, 1) ∧ ¬ IsInternal 172 32 := by
  intro context text
  have hpasses : Rule.url.Passes context [] text := (Rule.passes_onText_iff ..).mpr (by decide)
  have hzeros : ∀ digits ∈ pieces (· == '.') (hostIn text.toList), hasLeadingZero digits = false := by
    decide
  have hat : ∀ before found, behindAuthority text.toList = before ++ '@' :: found →
      isPublic found = false := by
    intro before found hbehind
    have hpath : behindAuthority text.toList = ['/', 'a'] ++ '@' :: ['b'] := by decide
    rw [hpath] at hbehind
    obtain ⟨_, _, rfl⟩ := (List.append_cons_inj_of_notMem (by decide) (by decide)).mp hbehind
    decide
  have hnumbers : numbers? (hostIn text.toList) = some (172, 32, 0, 1) := by decide
  exact ⟨hpasses, by decide, hnumbers,
    not_isInternal_of_passes context [] hpasses hzeros hat 172 32 0 1 hnumbers⟩

/-- A zero in front of a number and an at sign behind the authority each let an address of an internal
host pass. -/
theorem isInternal_of_passes :
    let context : Context := ⟨"link", none, [], none, none, .none⟩
    Rule.url.Passes context [] "http://192.168.01.1" ∧
      numbers? (hostIn "http://192.168.01.1".toList) = some (192, 168, 1, 1) ∧
      IsInternal 192 168 ∧
      Rule.url.Passes context [] "http://10.0.0.1/@example.com" ∧
      numbers? (hostIn "http://10.0.0.1/@example.com".toList) = some (10, 0, 0, 1) ∧
      IsInternal 10 0 := by
  refine ⟨(Rule.passes_onText_iff ..).mpr ?_, ?_, ?_, (Rule.passes_onText_iff ..).mpr ?_, ?_, ?_⟩
    <;> decide

end FormRules.Address
