/-
Field values from JSON texts.

A text is refused when it nests too deep, holds an unpaired surrogate, or a number beyond the
greatest double.  A number without point and exponent that fits in sixty-four bits is whole; any
other is read by scaling: as many digits as fit in sixty-four bits make a significand, and one
multiplication or division by a power of ten, in double arithmetic, does the rest.
-/
import FormRules.Json.Tree
import FormRules.Value

namespace FormRules.Json

namespace Significand

/-- Appends digits to a significand while it stays below two to the power of sixty-four; gives
the number of digits taken too. -/
def absorb (significand : Nat) : List Char → Nat × Nat
  | [] => (significand, 0)
  | c :: rest =>
      let next := significand * 10 + (Text.digitValue? c).getD 0
      if next < Nat.pow 2 64 then
        let (total, taken) := absorb next rest
        (total, taken + 1)
      else (significand, 0)

/-- The power of ten as a double. -/
def powerOfTen (exponent : Nat) : Double :=
  .ofNat (Nat.pow 10 exponent)

/-- Divides by the greatest power of ten until the rest of the exponent is a power of ten itself.
Three divisions take any significand to zero. -/
def scaleDown (x : Double) (places : Nat) : Nat → Double
  | 0 => .zero
  | more + 1 =>
      if places ≤ 308 then x.divMagnitude (powerOfTen places)
      else if x = .zero then .zero
      else scaleDown (x.divMagnitude (powerOfTen 308)) (places - 308) more

/-- A significand times a power of ten; none when the result exceeds the greatest double. -/
def scale? (significand : Nat) (exponent : Int) : Option Double :=
  if significand = 0 then some .zero
  else if exponent < 0 then some (scaleDown (.ofNat significand) (-exponent).toNat 4)
  else if exponent ≤ 308 then
    let product := Double.mulMagnitude (.ofNat significand) (powerOfTen exponent.toNat)
    if product.isFinite then some product else none
  else none

end Significand

namespace NumberText

/-- The real number of a text; none when it exceeds the greatest double. -/
def real? (n : NumberText) : Option Double :=
  let fraction := n.numeral.fraction.getD []
  let (high, highTaken) := Significand.absorb 0 n.numeral.whole
  let (significand, lowTaken) := Significand.absorb high fraction
  let dropped : Int := n.numeral.whole.length - highTaken
  let written := (Numeral.mk [] none n.numeral.exponent).toDecimal.exponent
  (Significand.scale? significand (dropped - lowTaken + written)).map
    fun magnitude => magnitude.withSign n.negative

/-- The value of a number: whole when it has neither point nor exponent and fits in sixty-four
bits, except that a negative zero is real. -/
def value? (n : NumberText) : Option Value :=
  let magnitude := Text.numberOf 10 n.numeral.whole
  if n.numeral.fraction = none ∧ n.numeral.exponent = none then
    if n.negative ∧ 0 < magnitude ∧ magnitude ≤ Nat.pow 2 63 then
      some (.whole (-(magnitude : Int)))
    else if ¬ n.negative ∧ magnitude < Nat.pow 2 64 then some (.whole magnitude)
    else n.real?.map .real
  else n.real?.map .real

end NumberText

namespace Tree

mutual

/-- The value of a tree with at most so many levels of lists and records. -/
def value? (levels : Nat) : Tree → Option Value
  | null => some .null
  | flag b => some (.flag b)
  | number n => n.value?
  | text content => content.map .text
  | list items =>
      if levels = 0 then none else (items? (levels - 1) items).map .list
  | record members =>
      if levels = 0 then none else (members? (levels - 1) members).map .ofMembers

def items? (levels : Nat) : List Tree → Option (List Value)
  | [] => some []
  | item :: rest => do
      let value ← value? levels item
      let values ← items? levels rest
      pure (value :: values)

def members? (levels : Nat) : List (Option String × Tree) → Option (List (String × Value))
  | [] => some []
  | (name, tree) :: rest => do
      let name ← name
      let value ← value? levels tree
      let values ← members? levels rest
      pure ((name, value) :: values)

end

end Tree

/-- Lists and records may be nested so deep. -/
def maxLevels : Nat := 127

/-- The value of a JSON text. -/
def read? (text : List Char) : Option Value := do
  let tree ← Tree.parse? text
  tree.value? maxLevels

end FormRules.Json
