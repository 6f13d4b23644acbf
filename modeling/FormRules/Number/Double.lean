/-
Sixty-four-bit floating-point numbers as plain data.

A number is not-a-number, or a sign with the rank of a magnitude.  Comparison goes by signed rank,
so the two zeros are equal and not-a-number is neither equal to nor ordered with anything.
-/
import FormRules.Number.Precision

namespace FormRules

open Precision (double)

/-- A double: not-a-number, or a sign and a rank no higher than that of infinity. -/
inductive Double where
  | nan
  | signed (negative : Bool) (rank : Nat) (rank_le_top : rank ≤ Precision.double.top)
deriving DecidableEq, Repr

namespace Double

/-- The double of a sign and a rank; ranks above infinity are cut down to it. -/
def ofRank (negative : Bool) (rank : Nat) : Double :=
  .signed negative (min double.top rank) (Nat.min_le_left _ _)

def zero : Double := ofRank false 0

def infinity : Double := ofRank false double.top

def negInfinity : Double := ofRank true double.top

/-- The double nearest to a quotient of whole numbers with the given sign. -/
def ofRatio (negative : Bool) (num den : Nat) : Double :=
  .signed negative (double.nearest num den) (double.nearest_le_top num den)

def ofNat (n : Nat) : Double := ofRatio false n 1

/-- The double nearest to an integer; zero is positive. -/
def ofInt (n : Int) : Double := ofRatio (decide (n < 0)) n.natAbs 1

def ofBool (b : Bool) : Double := ofNat b.toNat

/-- The opposite number; both zeros have an opposite of their own. -/
def neg : Double → Double
  | nan => nan
  | signed negative rank h => signed (!negative) rank h

/-- `x.withSign true` is the opposite of `x`, `x.withSign false` is `x`. -/
def withSign (negative : Bool) (x : Double) : Double :=
  if negative then x.neg else x

/-- The position of a number on the line of ranks; both zeros stand at 0. -/
def position : Double → Option Int
  | nan => none
  | signed negative rank _ => some (if negative then -(rank : Int) else rank)

/-- Numeric equality: the zeros are equal, not-a-number equals nothing. -/
def numEq (x y : Double) : Bool :=
  match x.position, y.position with
  | some a, some b => a == b
  | _, _ => false

/-- Numeric order, false when either side is not-a-number. -/
def numLe (x y : Double) : Bool :=
  match x.position, y.position with
  | some a, some b => decide (a ≤ b)
  | _, _ => false

def isNan : Double → Bool
  | nan => true
  | signed .. => false

def isFinite : Double → Bool
  | nan => false
  | signed _ rank _ => decide (rank < double.top)

/-- The magnitude in steps of the least positive double; zero for not-a-number. -/
def units : Double → Nat
  | nan => 0
  | signed _ rank _ => double.units rank

/-- Whether a finite number has no fractional part. -/
def isWhole (x : Double) : Bool :=
  x.isFinite && x.units % Nat.pow 2 double.scale == 0

/-- The number without its fractional part, keeping the sign; infinities and not-a-number stay. -/
def trunc : Double → Double
  | nan => nan
  | signed negative rank h =>
      if rank < double.top then ofRatio negative (double.units rank / Nat.pow 2 double.scale) 1
      else signed negative rank h

/-- The product of two finite magnitudes, rounded once. -/
def mulMagnitude (x y : Double) : Double :=
  ofRatio false (x.units * y.units) (Nat.pow 2 double.scale * Nat.pow 2 double.scale)

/-- The quotient of two finite magnitudes, rounded once. -/
def divMagnitude (x y : Double) : Double :=
  ofRatio false x.units y.units

/-- The sixty-four bits of a double: the sign, then the rank.  There is one not-a-number. -/
def toBits : Double → Nat
  | nan => 0x7FF8000000000000
  | signed negative rank _ => rank + if negative then Nat.pow 2 63 else 0

/-- The double of sixty-four bits. -/
def ofBits (bits : Nat) : Double :=
  let rank := bits % Nat.pow 2 63
  if h : rank ≤ double.top then signed (decide (Nat.pow 2 63 ≤ bits)) rank h else nan

theorem withSign_true (x : Double) : x.withSign true = x.neg := rfl

theorem withSign_false (x : Double) : x.withSign false = x := rfl

theorem neg_neg (x : Double) : x.neg.neg = x := by
  cases x <;> simp [neg]

end Double

end FormRules
