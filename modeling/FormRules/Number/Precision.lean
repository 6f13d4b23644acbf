/-
Magnitudes of a binary floating-point format, named by rank.

The magnitudes of one format are finitely many, so each has a rank: zero has rank 0, the least
positive magnitude rank 1, and so on up to the rank of infinity.  The rank is also the bit pattern
of the magnitude.  `units` gives the magnitude of a rank as a whole number of least steps, and
`nearest` gives the rank closest to a quotient.
-/
namespace FormRules

/-- The shape of a binary floating-point format. -/
structure Precision where
  /-- Stored bits of the significand. -/
  fractionBits : Nat
  /-- The least positive magnitude is two to the power of minus this. -/
  scale : Nat
  /-- The rank of infinity. -/
  top : Nat
deriving DecidableEq, Repr

namespace Precision

/-- Sixty-four-bit numbers. -/
def double : Precision := ⟨52, 1074, 0x7FF0000000000000⟩

/-- Thirty-two-bit numbers. -/
def single : Precision := ⟨23, 149, 0x7F800000⟩

/-- The magnitude of a rank, counted in least positive magnitudes.  The first two blocks of ranks
are spaced one step apart, and every further block twice as wide as the one before. -/
def units (p : Precision) (rank : Nat) : Nat :=
  let block := Nat.pow 2 p.fractionBits
  if rank < block then rank
  else (rank % block + block) * Nat.pow 2 (rank / block - 1)

end Precision

/-- The quotient rounded to a whole number, a half going to the even neighbour. -/
def roundHalfEven (num den : Nat) : Nat :=
  let quotient := num / den
  let remainder := num % den
  if 2 * remainder < den then quotient
  else if den < 2 * remainder then quotient + 1
  else quotient + quotient % 2

namespace Precision

/-- The rank nearest to `num / den`, a tie going to the even rank.  Dropping `shift` low bits
leaves one leading bit and the stored bits; the dropped block count then completes the rank, also
when the rounding carries into the next block. -/
def nearest (p : Precision) (num den : Nat) : Nat :=
  let scaled := num * Nat.pow 2 p.scale
  let shift := (scaled / den).log2 - p.fractionBits
  min p.top (roundHalfEven scaled (den * Nat.pow 2 shift) + shift * Nat.pow 2 p.fractionBits)

theorem nearest_le_top (p : Precision) (num den : Nat) : p.nearest num den ≤ p.top :=
  Nat.min_le_left _ _

end Precision

end FormRules
