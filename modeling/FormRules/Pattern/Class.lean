/-
Named classes of characters in patterns.
-/
import FormRules.Pattern.Edge
import FormRules.Text.CaseFold
import FormRules.Text.Property

namespace FormRules.Pattern

def blankSet : CharSet := ⟨Text.blankRanges⟩

/-- The class of an escape letter; a capital letter names the complement. -/
def everyScriptClass? (letter : Char) : Option CharSet :=
  match letter with
  | 'd' => some Text.decimalDigitSet
  | 'D' => some Text.decimalDigitSet.complement
  | 's' => some blankSet
  | 'S' => some blankSet.complement
  | 'w' => some Text.wordSet
  | 'W' => some Text.wordSet.complement
  | _ => none

/-- The ASCII characters of such a class; a complement is refused because it would go beyond them. -/
def asciiClass? (letter : Char) : Option CharSet :=
  match letter with
  | 'd' => some (.ofRange '0'.toNat '9'.toNat)
  | 's' => some ⟨[(0x9, 0xD), (0x20, 0x20)]⟩
  | 'w' => some asciiWordSet
  | _ => none

/-- The class of an escape letter.  Without the other scripts only ASCII characters count. -/
def letterClass? (everyScript : Bool) (letter : Char) : Option CharSet :=
  if everyScript then everyScriptClass? letter else asciiClass? letter

/-- The classes that have a name between colons inside brackets. -/
def bracketClass? (name : String) : Option CharSet :=
  match name with
  | "alnum" => some ⟨[(0x30, 0x39), (0x41, 0x5A), (0x61, 0x7A)]⟩
  | "alpha" => some ⟨[(0x41, 0x5A), (0x61, 0x7A)]⟩
  | "ascii" => some ⟨[(0x0, 0x7F)]⟩
  | "blank" => some ⟨[(0x9, 0x9), (0x20, 0x20)]⟩
  | "cntrl" => some ⟨[(0x0, 0x1F), (0x7F, 0x7F)]⟩
  | "digit" => some ⟨[(0x30, 0x39)]⟩
  | "graph" => some ⟨[(0x21, 0x7E)]⟩
  | "lower" => some ⟨[(0x61, 0x7A)]⟩
  | "print" => some ⟨[(0x20, 0x7E)]⟩
  | "punct" => some ⟨[(0x21, 0x2F), (0x3A, 0x40), (0x5B, 0x60), (0x7B, 0x7E)]⟩
  | "space" => some ⟨[(0x9, 0xD), (0x20, 0x20)]⟩
  | "upper" => some ⟨[(0x41, 0x5A)]⟩
  | "word" => some asciiWordSet
  | "xdigit" => some ⟨[(0x30, 0x39), (0x41, 0x46), (0x61, 0x66)]⟩
  | _ => none

/-- The set with all case variants, of ASCII letters only when other scripts do not count. -/
def foldCase (everyScript : Bool) (set : CharSet) : CharSet :=
  if everyScript then set.withVariants else set.withAsciiVariants

end FormRules.Pattern
