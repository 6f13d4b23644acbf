/-
Blank characters, trimming, and the words of a text.

A character is blank when it has the white-space property of the character standard.
-/
import FormRules.Text.Pieces

namespace FormRules.Text

/-- Code points with the white-space property, as closed ranges. -/
def blankRanges : List (Nat × Nat) :=
  [(0x9, 0xD), (0x20, 0x20), (0x85, 0x85), (0xA0, 0xA0), (0x1680, 0x1680), (0x2000, 0x200A),
    (0x2028, 0x2029), (0x202F, 0x202F), (0x205F, 0x205F), (0x3000, 0x3000)]

def isBlank (c : Char) : Bool :=
  blankRanges.any fun (first, last) => decide (first ≤ c.toNat ∧ c.toNat ≤ last)

/-- The text without its leading blanks. -/
def trimStart (text : List Char) : List Char :=
  text.dropWhile isBlank

/-- The text without its trailing blanks. -/
def trimEnd (text : List Char) : List Char :=
  (text.reverse.dropWhile isBlank).reverse

/-- The text without its leading and trailing blanks. -/
def trim (text : List Char) : List Char :=
  trimEnd (trimStart text)

/-- Whether a text has no character other than blanks. -/
def allBlank (text : List Char) : Bool :=
  text.all isBlank

/-- The maximal runs of characters that are not blank. -/
def words (text : List Char) : List (List Char) :=
  (pieces isBlank text).filter fun word => !word.isEmpty

theorem trimStart_eq_nil_iff (text : List Char) : trimStart text = [] ↔ allBlank text := by
  induction text with
  | nil => simp [trimStart, allBlank]
  | cons c rest ih =>
      by_cases hblank : isBlank c
      · rw [trimStart, allBlank] at ih
        simp [trimStart, allBlank, hblank, ih]
      · simp [trimStart, allBlank, hblank]

end FormRules.Text
