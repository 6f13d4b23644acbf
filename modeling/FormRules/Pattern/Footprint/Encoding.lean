/-
Sets of characters as sequences of byte ranges.

A range of characters is cut into pieces whose characters have equally many bytes, such that the
bytes at each place run through a range on their own: every choice of one byte from each range is
the encoding of a character of the piece.
-/
import FormRules.Text.CharSet

namespace FormRules.Pattern.Footprint

/-- A closed range of bytes. -/
structure ByteRange where
  first : Nat
  last : Nat
deriving DecidableEq, Repr

/-- The bytes of a character. -/
def bytesOf (code : Nat) : List Nat :=
  let trailing (shift : Nat) : Nat := 0x80 + code / Nat.pow 64 shift % 64
  if code < 0x80 then [code]
  else if code < 0x800 then [0xC0 + code / 64, trailing 0]
  else if code < 0x10000 then [0xE0 + code / Nat.pow 64 2, trailing 1, trailing 0]
  else [0xF0 + code / Nat.pow 64 3, trailing 2, trailing 1, trailing 0]

/-- The greatest characters of one, two and three bytes. -/
def lengthBounds : List Nat := [0x7F, 0x7FF, 0xFFFF]

/-- Where a range has to be cut, if it is no piece: the beginning of its second part. -/
def cut? (first last : Nat) : Option Nat :=
  match lengthBounds.find? fun bound => decide (first ≤ bound ∧ bound < last) with
  | some bound => some (bound + 1)
  | none =>
      if last ≤ 0x7F then none
      else [64, Nat.pow 64 2, Nat.pow 64 3].findSome? fun block =>
        if first / block = last / block then none
        else if first % block ≠ 0 then some ((first / block + 1) * block)
        else if last % block ≠ block - 1 then some (last / block * block)
        else none

/-- The pieces of a range in ascending order. -/
def pieces (first last : Nat) : List (Nat × Nat) :=
  match cut? first last with
  | none => [(first, last)]
  | some middle =>
      if first < middle ∧ middle ≤ last then pieces first (middle - 1) ++ pieces middle last
      else [(first, last)]
termination_by last - first

/-- The byte ranges of a piece. -/
def rangesOf (piece : Nat × Nat) : List ByteRange :=
  (bytesOf piece.1).zipWith ByteRange.mk (bytesOf piece.2)

/-- A range without the surrogates in it. -/
def withoutSurrogates (range : Nat × Nat) : List (Nat × Nat) :=
  if range.1 < 0xE000 ∧ 0xD7FF < range.2 then
    [(range.1, 0xD7FF), (0xE000, range.2)].filter fun part => decide (part.1 ≤ part.2)
  else [range]

/-- The sequences of byte ranges that spell the members of a set. -/
def sequencesOf (set : CharSet) : List (List ByteRange) :=
  (set.ranges.flatMap withoutSurrogates).flatMap fun range => (pieces range.1 range.2).map rangesOf

end FormRules.Pattern.Footprint
