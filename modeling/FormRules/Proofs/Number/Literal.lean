/-
The literals of doubles behind a sign.

A literal may be a word or begin with a sign of its own.  The text behind the sign of a number is looked
through before it is read as a literal, and what is then left over are exactly the numerals.
-/
import FormRules.Proofs.Number.Exact
import FormRules.Proofs.Number.Leading

namespace FormRules

open Text

namespace Precision

/-- A magnitude counted in least steps is rounded to its own rank. -/
theorem nearest_units (p : Precision) (hbits : 0 < p.fractionBits) {rank : Nat} (h : rank ≤ p.top) :
    p.nearest (p.units rank) (2 ^ p.scale) = rank := by
  have hnearest := p.isNearestIn_magnitude hbits (p.units rank) (Nat.two_pow_pos p.scale)
  rw [Nat.cast_pow, Nat.cast_ofNat] at hnearest
  have hrank : p.rankNear (p.units rank) (2 ^ p.scale) = rank :=
    hnearest.unique p.magnitude_strictMono (.of_eq p.magnitude_strictMono rfl)
  rw [nearest_eq, hrank, Nat.min_eq_right h]

end Precision

namespace Double

open Precision (double)

theorem ofRatioVia_double (num den : Nat) : ofRatioVia double num den = ofRatio false num den := by
  have hle := double.nearest_le_top num den
  by_cases htop : double.nearest num den = double.top
  · simp only [ofRatioVia, ofRatio, htop, if_true]
    rfl
  · simp only [ofRatioVia, if_neg htop, ofRatio, Nat.pow_eq, double.nearest_units (by decide) hle]

/-- A decimal that is rounded to a double at once is rounded once. -/
theorem ofDecimalVia_double (d : Decimal) : ofDecimalVia double d = d.toDouble := by
  simp only [ofDecimalVia, Decimal.toDouble, ofRatioVia_double]

end Double

namespace Numeral

variable {isDigit : Char → Bool} {n : Numeral} {body : List Char}

theorem mem_punctuation_of_sign {negative : Bool} {sign : List Char} (h : SpellsSign negative sign) :
    ∀ c ∈ sign, c ∈ punctuation := by
  cases h with
  | bare => exact List.forall_mem_nil _
  | plus | minus => exact List.forall_mem_singleton.mpr (by decide)

theorem SpellsExponent.mem_cases {exponent : Option (Bool × List Char)} {part : List Char}
    (h : SpellsExponent isDigit exponent part) :
    ∀ c ∈ part, isDigit c = true ∨ c ∈ punctuation := by
  cases h with
  | absent => exact List.forall_mem_nil _
  | marked hmark hsign hdigits =>
      refine List.forall_mem_cons.mpr ⟨Or.inr ?_, List.forall_mem_append.mpr ⟨?_, ?_⟩⟩
      · rcases hmark with rfl | rfl <;> decide
      · exact fun c hc => Or.inr (mem_punctuation_of_sign hsign c hc)
      · exact fun c hc => Or.inl (hdigits.2 c hc)

/-- A numeral is written in digits and punctuation. -/
theorem Spells.mem_cases (h : n.Spells isDigit body) :
    ∀ c ∈ body, isDigit c = true ∨ c ∈ punctuation := by
  have hpoint : isDigit '.' = true ∨ '.' ∈ punctuation := Or.inr (by decide)
  cases h with
  | whole hdigits hpart =>
      exact List.forall_mem_append.mpr ⟨fun c hc => Or.inl (hdigits.2 c hc), hpart.mem_cases⟩
  | pointed hdigits hplaces hpart =>
      exact List.forall_mem_append.mpr ⟨fun c hc => Or.inl (hdigits.2 c hc),
        List.forall_mem_cons.mpr ⟨hpoint, List.forall_mem_append.mpr
          ⟨fun c hc => Or.inl (hplaces c hc), hpart.mem_cases⟩⟩⟩
  | fraction hplaces hpart =>
      exact List.forall_mem_cons.mpr ⟨hpoint, List.forall_mem_append.mpr
        ⟨fun c hc => Or.inl (hplaces.2 c hc), hpart.mem_cases⟩⟩

theorem Spells.exists_isDigit (h : n.Spells isDigit body) : ∃ c ∈ body, isDigit c = true := by
  have hfirst : ∀ {digits rest : List Char}, IsDigits isDigit digits →
      ∃ c ∈ digits ++ rest, isDigit c = true := by
    intro digits rest hdigits
    obtain ⟨c, hc⟩ := List.exists_mem_of_ne_nil digits hdigits.1
    exact ⟨c, List.mem_append_left rest hc, hdigits.2 c hc⟩
  cases h with
  | whole hdigits => exact hfirst hdigits
  | pointed hdigits => exact hfirst hdigits
  | fraction hplaces =>
      obtain ⟨c, hc, hdigit⟩ := hfirst hplaces
      exact ⟨c, List.mem_cons_of_mem '.' hc, hdigit⟩

/-- The numerals that are read as a whole are the ones that are written. -/
theorem read?_eq_some_iff : read? body = some n ↔ n.Spells isAsciiDigit body := by
  rw [← (readsLongest_scan? isDigitClass_isAsciiDigit).read?_eq_some_nil_iff, read?]
  split
  · rename_i hscan
    simp [hscan]
  · rename_i hscan
    simp only [reduceCtorEq, false_iff]
    exact hscan n

end Numeral

theorem toLower_of_isDecimalDigit {c : Char} (h : isDecimalDigit c = true) : c.toLower = c := by
  refine dif_neg fun hupper => ?_
  have houtside : ∀ first ∈ digitZeros, first + 10 ≤ 'A'.toNat ∨ 'Z'.toNat < first := by decide
  obtain ⟨first, hmem, hinside⟩ := List.any_eq_true.mp h
  obtain ⟨hfirst, hlast⟩ := of_decide_eq_true hinside
  have hlower : 'A'.toNat ≤ c.toNat := hupper.1
  have hupper : c.toNat ≤ 'Z'.toNat := hupper.2
  have hdisjoint := houtside first hmem
  omega

/-- The words of literals have no digit and no point, so a text that has one is read as a numeral. -/
theorem Double.ofLiteral?_of_mem {negative : Bool} {sign body : List Char} {c : Char}
    (hsign : SpellsSign negative sign) (hbody : IsUnsigned body) (hc : c ∈ body)
    (hdigit : (isDecimalDigit c || c == '.') = true) (p : Precision) :
    ofLiteral? p (sign ++ body) =
      (Numeral.read? body).map fun n => (ofDecimalVia p n.toDecimal).withSign negative := by
  have hlower : c.toLower = c := by
    rcases Bool.or_eq_true_iff.mp hdigit with h | h
    · exact toLower_of_isDecimalDigit h
    · obtain rfl := eq_of_beq h
      rfl
  have hword : ∀ word : String, word.toList.any (fun d => isDecimalDigit d || d == '.') = false →
      String.ofList (body.map Char.toLower) ≠ word := by
    rintro word hword rfl
    rw [String.toList_ofList, List.any_eq_false] at hword
    exact hword c (List.mem_map.mpr ⟨c, hc, hlower⟩) hdigit
  have hinf := hword "inf" (by simp only [String.reduceToList]; decide)
  have hinfinity := hword "infinity" (by simp only [String.reduceToList]; decide)
  have hnan := hword "nan" (by simp only [String.reduceToList]; decide)
  have hscan := scanSign_append hsign hbody []
  rw [List.append_nil] at hscan
  simp only [ofLiteral?, hscan, hinf, hinfinity, hnan, or_false, if_false]

/-- A numeral in digits of any script is a literal only if all its digits are common ones. -/
theorem Numeral.Spells.getD_ofLiteral? {negative : Bool} {sign body : List Char} {n : Numeral}
    (hsign : SpellsSign negative sign) (h : n.Spells isDecimalDigit body) :
    (Double.ofLiteral? .double (sign ++ body)).getD .nan = n.toDouble.withSign negative := by
  have hnotation := Numeral.isNotation
  obtain ⟨c, rest, rfl, hc⟩ := h.head
  have hdigit : (isDecimalDigit c || c == '.') = true := by simpa using hc
  rw [Double.ofLiteral?_of_mem hsign (h.isUnsigned isDigitClass_isDecimalDigit) List.mem_cons_self hdigit,
    Numeral.toDouble]
  split
  · rename_i hcommon
    have hspells := hnotation.of_digits h (List.all_eq_true.mp hcommon)
    rw [Numeral.read?_eq_some_iff.mpr hspells, Option.map_some, Option.getD_some,
      Double.ofDecimalVia_double]
  · rename_i hother
    have hnone : Numeral.read? (c :: rest) = none := by
      refine Option.eq_none_iff_forall_ne_some.mpr fun m hread => hother ?_
      have hspells := Numeral.read?_eq_some_iff.mp hread
      have hdigits := hnotation.isDigit_of_mem hspells
      have hany := hnotation.of_digits hspells fun d hd => isDecimalDigit_of_isAsciiDigit (hdigits d hd)
      obtain rfl := (Numeral.readsLongest_scan? isDigitClass_isDecimalDigit).unique hany h
      exact List.all_eq_true.mpr hdigits
    rw [hnone, Option.map_none, Option.getD_none]
    cases negative <;> rfl

namespace Coercion

variable {body : List Char}

theorem isUnsigned_iff : IsUnsigned body ↔ body ≠ [] ∧ beginsWithSign body = false := by
  cases body with
  | nil => exact iff_of_false (by simp [IsUnsigned]) (by simp)
  | cons c rest =>
      have hsign : beginsWithSign (c :: rest) = false ↔ c ≠ '+' ∧ c ≠ '-' := by
        unfold beginsWithSign
        split <;> simp_all
      simp [IsUnsigned, hsign]

/-- What a text has to be before it is read as a literal. -/
def IsGuarded (body : List Char) : Prop :=
  isDecimalShaped body = true ∧ beginsWithSign body = false ∧ body.any isAsciiDigit = true

theorem isGuarded_of_spells {n : Numeral} (h : n.Spells isAsciiDigit body) : IsGuarded body := by
  obtain ⟨c, hc, hdigit⟩ := h.exists_isDigit
  refine ⟨List.all_eq_true.mpr fun d hd => ?_, ?_, List.any_eq_true.mpr ⟨c, hc, hdigit⟩⟩
  · rw [Bool.or_eq_true, List.contains_iff_mem]
    exact h.mem_cases d hd
  · exact (isUnsigned_iff.mp (h.isUnsigned isDigitClass_isAsciiDigit)).2

theorem ofLiteral?_of_isGuarded (h : IsGuarded body) (p : Precision) :
    Double.ofLiteral? p body = (Numeral.read? body).map fun n => Double.ofDecimalVia p n.toDecimal := by
  obtain ⟨_, hsign, hdigit⟩ := h
  obtain ⟨c, hc, hcommon⟩ := List.any_eq_true.mp hdigit
  have hbody := isUnsigned_iff.mpr ⟨List.ne_nil_of_mem hc, hsign⟩
  have hread := Double.ofLiteral?_of_mem .bare hbody hc
    (Bool.or_eq_true_iff.mpr (Or.inl (isDecimalDigit_of_isAsciiDigit hcommon))) p
  rwa [List.nil_append] at hread

/-- What passes the guards and is read as a literal is a numeral. -/
theorem readNumeral_eq (body : List Char) :
    readNumeral body = (Numeral.read? body).elim .nan Numeral.toDouble := by
  have hguard : (!isDecimalShaped body || beginsWithSign body || !body.any isAsciiDigit) = false ↔
      IsGuarded body := by
    simp [IsGuarded, and_assoc]
  by_cases hguarded : IsGuarded body
  · rw [readNumeral, hguard.mpr hguarded, if_neg Bool.false_ne_true, ofLiteral?_of_isGuarded hguarded]
    cases hread : Numeral.read? body with
    | none => rfl
    | some n =>
        have hdigits := Numeral.isNotation.isDigit_of_mem (Numeral.read?_eq_some_iff.mp hread)
        rw [Option.map_some, Option.getD_some, Option.elim_some, Double.ofDecimalVia_double,
          Numeral.toDouble, if_pos (List.all_eq_true.mpr hdigits)]
  · have hnone : Numeral.read? body = none :=
      Option.eq_none_iff_forall_ne_some.mpr fun n hread =>
        hguarded (isGuarded_of_spells (Numeral.read?_eq_some_iff.mp hread))
    rw [readNumeral, if_pos (Bool.of_not_eq_false (mt hguard.mp hguarded)), hnone, Option.elim_none]

end Coercion

end FormRules
