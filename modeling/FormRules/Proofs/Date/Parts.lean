/-
The parts of a date and time.

A date and time has six parts, and a letter of a format stands for one of them.  A reading holds what
has been taken for each part; it gives a date and time when all parts of one have been taken.
-/
import FormRules.Proofs.Date.Reading

namespace FormRules

namespace Date

/-- A part of a date and time. -/
inductive Part where
  | year
  | month
  | day
  | hour
  | minute
  | second
deriving DecidableEq, Repr

/-- The part that a letter of a format stands for; other characters stand for themselves. -/
def Part.ofLetter? (letter : Char) : Option Part :=
  match letter with
  | 'Y' | 'y' => some year
  | 'm' | 'n' => some month
  | 'd' | 'j' => some day
  | 'g' | 'G' | 'h' | 'H' => some hour
  | 'i' => some minute
  | 's' => some second
  | _ => none

end Date

/-- The number of a part in a date and time. -/
def DateTime.part (d : DateTime) : Date.Part → Nat
  | .year => d.year
  | .month => d.month
  | .day => d.day
  | .hour => d.hour
  | .minute => d.minute
  | .second => d.second

namespace Date

namespace Component

/-- The part that a component gives. -/
def part : Component → Part
  | year | shortYear => .year
  | month => .month
  | day => .day
  | hour => .hour
  | minute => .minute
  | second => .second

/-- The number of a part that is given by the digits of a component. -/
def number (component : Component) (n : Nat) : Nat :=
  match component with
  | shortYear => 1900 + n
  | _ => n

/-- The digits of a component give the part back, unless a year is too early for two of them. -/
theorem number_of {component : Component} {d : DateTime}
    (h : component = .shortYear → 1900 ≤ d.year) :
    component.number (component.of d) = d.part component.part := by
  cases component with
  | shortYear => exact (Nat.add_sub_cancel' (h rfl) : 1900 + (d.year - 1900) = d.year)
  | year | month | day | hour | minute | second => rfl

/-- The digits of a component come from the part. -/
theorem of_eq {component : Component} {d : DateTime} {n : Nat}
    (h : component.number n = d.part component.part) : component.of d = n := by
  cases component with
  | shortYear =>
      have hyear : 1900 + n = d.year := h
      exact (Nat.sub_eq_of_eq_add' hyear.symm : d.year - 1900 = n)
  | year | month | day | hour | minute | second => exact h.symm

end Component

/-- The part that a token gives, if it is a field. -/
def Token.part? : Token → Option Part
  | .field _ component _ => some component.part
  | .literal _ => none

namespace Reading

/-- What has been taken for a part; a part of the time and the year are zero from the start. -/
def part? (reading : Reading) : Part → Option Nat
  | .year => some reading.year
  | .month => reading.month
  | .day => reading.day
  | .hour => some reading.hour
  | .minute => some reading.minute
  | .second => some reading.second

theorem part?_set (reading : Reading) (component : Component) (n : Nat) (part : Part) :
    (reading.set component n).part? part =
      if component.part = part then some (component.number n) else reading.part? part := by
  cases component <;> cases part <;> rfl

/-- A reading gives the date and time that all its parts belong to, if that is real. -/
theorem toDateTime?_eq_some_iff (reading : Reading) (d : DateTime) :
    reading.toDateTime? = some d ↔
      (∀ part, reading.part? part = some (d.part part)) ∧ d.IsReal := by
  obtain ⟨year, month, day, hour, minute, second⟩ := reading
  obtain ⟨year', month', day', hour', minute', second'⟩ := d
  have hparts : (∀ part, Reading.part? ⟨year, month, day, hour, minute, second⟩ part =
      some ((⟨year', month', day', hour', minute', second'⟩ : DateTime).part part)) ↔
      year = year' ∧ month = some month' ∧ day = some day' ∧ hour = hour' ∧ minute = minute' ∧
        second = second' := by
    constructor
    · intro h
      have hyear := h .year
      have hhour := h .hour
      have hminute := h .minute
      have hsecond := h .second
      simp only [part?, DateTime.part, Option.some.injEq] at hyear hhour hminute hsecond
      exact ⟨hyear, h .month, h .day, hhour, hminute, hsecond⟩
    · rintro ⟨rfl, rfl, rfl, rfl, rfl, rfl⟩ part
      cases part <;> rfl
  rw [hparts]
  unfold toDateTime?
  cases month with
  | none => simp
  | some month =>
      cases day with
      | none => simp
      | some day =>
          simp only [Option.ite_none_right_eq_some, Option.some.injEq, DateTime.mk.injEq]
          constructor
          · rintro ⟨hreal, rfl, rfl, rfl, rfl, rfl, rfl⟩
            exact ⟨⟨rfl, rfl, rfl, rfl, rfl, rfl⟩, hreal⟩
          · rintro ⟨⟨rfl, rfl, rfl, rfl, rfl, rfl⟩, hreal⟩
            exact ⟨hreal, rfl, rfl, rfl, rfl, rfl, rfl⟩

/-- A word of a token is taken for the part that the token gives. -/
theorem part?_take (token : Token) (word : List Char) (reading : Reading) (part : Part)
    (h : token.part? ≠ some part) : (token.take word reading).part? part = reading.part? part := by
  cases token with
  | literal c => rfl
  | field letter component spellings =>
      have hother : component.part ≠ part := fun heq => h (congrArg some heq)
      rw [Token.take, part?_set, if_neg hother]

/-- What a token takes for the part that it gives does not depend on what has been read before. -/
theorem part?_take_eq (token : Token) (word : List Char) {part : Part}
    (h : token.part? = some part) (reading other : Reading) :
    (token.take word reading).part? part = (token.take word other).part? part := by
  cases token with
  | literal c => cases h
  | field letter component spellings =>
      obtain rfl := Option.some.inj h
      rw [Token.take, Token.take, part?_set, part?_set, if_pos rfl, if_pos rfl]

/-- Tokens that do not give a part leave it alone. -/
theorem part?_along_of_notMem {tokens : List Token} {part : Part}
    (h : some part ∉ tokens.map Token.part?) (words : List (List Char)) (reading : Reading) :
    (along tokens words reading).part? part = reading.part? part := by
  induction tokens generalizing words reading with
  | nil => rfl
  | cons token tokens ih =>
      rw [List.map_cons, List.mem_cons, not_or] at h
      cases words with
      | nil => rfl
      | cons word words =>
          rw [along, ih h.2, part?_take token word reading part (Ne.symm h.1)]

end Reading

end Date

end FormRules
