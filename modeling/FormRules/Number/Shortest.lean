/-
The shortest decimal text that reads back as a given double.

A decimal grid is the set of whole multiples of a power of ten.  Grids are tried from coarse to
fine; the first that has a point inside the rounding interval of the number gives the digits.  A
grid with a point in the interval has one of the two neighbours of the number itself there, so
only those two are tested, in exact whole-number arithmetic.
-/
import FormRules.Number.Double

namespace FormRules

open Precision (double)

/-- A decimal numeral: `digits` times ten to the power `exponent`. -/
structure Decimal where
  digits : Nat
  exponent : Int
deriving DecidableEq, Repr

/-- Which of two equally near points of a grid is taken. -/
inductive TieRule where
  | upward
  | toEven
deriving DecidableEq, Repr

namespace Shortest

/-- The step of the grid of `10 ^ exponent` as a quotient, counted in halves of the least positive
double. -/
def step (exponent : Int) : Nat × Nat :=
  (Nat.pow 10 exponent.toNat * Nat.pow 2 (double.scale + 1), Nat.pow 10 (-exponent).toNat)

/-- Whether `point` lies between the bounds; the bounds themselves count when `closed`. -/
def inside (closed : Bool) (low point high : Nat) : Bool :=
  if closed then decide (low ≤ point ∧ point ≤ high) else decide (low < point ∧ point < high)

/-- The neighbour of the number on one grid that reads back, the nearer one if both do.  The
rounding interval ends halfway to the ranks next to `rank`, and holds its ends when `rank` is
even. -/
def onGrid (rank : Nat) (tie : TieRule) (exponent : Int) : Option Nat :=
  let (stepNum, stepDen) := step exponent
  let low := (double.units (rank - 1) + double.units rank) * stepDen
  let mid := 2 * double.units rank * stepDen
  let high := (double.units rank + double.units (rank + 1)) * stepDen
  let below := mid / stepNum
  let closed := rank % 2 == 0
  let belowFits := inside closed low (below * stepNum) high
  let aboveFits := inside closed low ((below + 1) * stepNum) high
  if belowFits && aboveFits then
    let toBelow := mid - below * stepNum
    let toAbove := (below + 1) * stepNum - mid
    if toBelow < toAbove then some below
    else if toAbove < toBelow then some (below + 1)
    else match tie with
      | .upward => some (below + 1)
      | .toEven => some (below + below % 2)
  else if belowFits then some below
  else if aboveFits then some (below + 1)
  else none

/-- The first fitting grid at or below the given exponent, trying so many finer ones. -/
def search (rank : Nat) (tie : TieRule) : Nat → Int → Decimal
  | 0, exponent => ⟨double.units rank * Nat.pow 5 double.scale, exponent - double.scale⟩
  | finer + 1, exponent =>
      match onGrid rank tie exponent with
      | some digits => ⟨digits, exponent⟩
      | none => search rank tie finer (exponent - 1)

end Shortest

/-- The shortest numeral that reads back as the positive finite double of a rank.  Exponents run
from the greatest of any double down to one at which every rounding interval holds a point. -/
def shortest (tie : TieRule) (rank : Nat) : Decimal :=
  Shortest.search rank tie 640 308

namespace Decimal

/-- Digits of a natural number, most significant first. -/
def digitChars (n : Nat) : List Char :=
  (toString n).toList

/-- The numeral without an exponent part: zeros are written out on either side, and a whole number
has no point. -/
def positional (d : Decimal) : List Char :=
  let digits := digitChars d.digits
  if 0 ≤ d.exponent then digits ++ List.replicate d.exponent.toNat '0'
  else
    let places := (-d.exponent).toNat
    if places < digits.length then
      digits.take (digits.length - places) ++ '.' :: digits.drop (digits.length - places)
    else '0' :: '.' :: List.replicate (places - digits.length) '0' ++ digits

end Decimal

namespace Double

/-- The text of a number in messages: the fewest digits that read back, never with an exponent.
Both zeros are written `0`. -/
def toText : Double → String
  | nan => "NaN"
  | signed negative rank _ =>
      if rank = 0 then "0"
      else
        let magnitude :=
          if rank < double.top then String.ofList (shortest .upward rank).positional
          else "Infinity"
        if negative then "-" ++ magnitude else magnitude

end Double

end FormRules
