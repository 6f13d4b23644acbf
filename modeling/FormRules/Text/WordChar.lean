/-
Word characters: letters, marks, decimal digits, letter-like numbers and symbols, connecting
punctuation, and the two join controls.
-/
import FormRules.Text.Trait.Derived

namespace FormRules.Text

/-- The characters that make up words, in every script. -/
def wordSet : CharSet :=
  .unionAll [alphabeticSet, categoryUnion ["mn", "mc", "me", "nd", "pc"], listed "joincontrol"]

def isWordChar (c : Char) : Bool := wordSet.mem c

/-- Characters that numbers are written with, letter-like ones included. -/
def numberSet : CharSet := categoryUnion ["nd", "nl", "no"]

end FormRules.Text
