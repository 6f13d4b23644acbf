/-
Dates with a time of day in the Gregorian calendar, extended backwards without end.
-/
namespace FormRules

/-- A date and a time of day. -/
structure DateTime where
  year : Nat
  month : Nat
  day : Nat
  hour : Nat
  minute : Nat
  second : Nat
deriving DecidableEq, Repr

namespace DateTime

def isLeapYear (year : Nat) : Bool :=
  year % 4 == 0 && (year % 100 != 0 || year % 400 == 0)

/-- The length of a month; 0 for a number that is no month. -/
def daysIn (year month : Nat) : Nat :=
  match month with
  | 1 | 3 | 5 | 7 | 8 | 10 | 12 => 31
  | 4 | 6 | 9 | 11 => 30
  | 2 => if isLeapYear year then 29 else 28
  | _ => 0

/-- A day of the calendar with a time of day. -/
def IsReal (d : DateTime) : Prop :=
  1 ≤ d.day ∧ d.day ≤ daysIn d.year d.month ∧ d.hour < 24 ∧ d.minute < 60 ∧ d.second < 60

instance (d : DateTime) : Decidable d.IsReal := by
  unfold IsReal
  infer_instance

/-- The components from the greatest to the least. -/
def components (d : DateTime) : List Nat := [d.year, d.month, d.day, d.hour, d.minute, d.second]

/-- Whether one date and time comes before another: the greatest differing component decides. -/
def isBefore (a b : DateTime) : Bool := decide (a.components < b.components)

theorem daysIn_le (year month : Nat) : daysIn year month ≤ 31 := by
  unfold daysIn
  split <;> (try split) <;> omega

example : isLeapYear 2000 ∧ ¬ isLeapYear 1900 ∧ isLeapYear 0 := by decide

end DateTime

end FormRules
