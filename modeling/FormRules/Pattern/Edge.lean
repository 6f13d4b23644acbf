/-
Conditions on the two characters around a position of a text.
-/
import FormRules.Text.WordChar

namespace FormRules.Pattern

/-- Conditions on the two characters around a position. -/
inductive Edge where
  | textStart
  | textEnd
  | lineStart
  | lineEnd
  /-- Line ends where a carriage return with a line feed counts as one. -/
  | pairedLineStart
  | pairedLineEnd
  /-- The conditions on words count word characters of every script, or those of ASCII only. -/
  | wordBoundary (ascii : Bool)
  | notWordBoundary (ascii : Bool)
  | wordStart (ascii : Bool)
  | wordEnd (ascii : Bool)
  | beforeNotWord (ascii : Bool)
  | afterNotWord (ascii : Bool)
deriving DecidableEq, Repr

/-- The word characters of ASCII. -/
def asciiWordSet : CharSet := ⟨[(0x30, 0x39), (0x41, 0x5A), (0x5F, 0x5F), (0x61, 0x7A)]⟩

/-- Whether there is a character and it is a word character. -/
def isWordAt (ascii : Bool) : Option Char → Bool
  | none => false
  | some c => if ascii then asciiWordSet.mem c else Text.isWordChar c

/-- Whether a condition holds between two characters; either may be missing at an end. -/
def Edge.holds (edge : Edge) (before after : Option Char) : Bool :=
  match edge with
  | textStart => before.isNone
  | textEnd => after.isNone
  | lineStart => before.isNone || before == some '\n'
  | lineEnd => after.isNone || after == some '\n'
  | pairedLineStart =>
      before.isNone || before == some '\n' || (before == some '\r' && after != some '\n')
  | pairedLineEnd =>
      after.isNone || after == some '\r' || (after == some '\n' && before != some '\r')
  | wordBoundary ascii => isWordAt ascii before != isWordAt ascii after
  | notWordBoundary ascii => isWordAt ascii before == isWordAt ascii after
  | wordStart ascii => !isWordAt ascii before && isWordAt ascii after
  | wordEnd ascii => isWordAt ascii before && !isWordAt ascii after
  | beforeNotWord ascii => !isWordAt ascii before
  | afterNotWord ascii => !isWordAt ascii after

end FormRules.Pattern
