/-
Reading the source of a pattern: the switches in force, and the gaps between its parts.
-/
import FormRules.Text.Blank

namespace FormRules.Pattern

/-- The switches that a pattern may set for what follows. -/
structure Switches where
  ignoreCase : Bool
  multiLine : Bool
  dotMatchesLineFeed : Bool
  swapGreed : Bool
  everyScript : Bool
  pairedLineEnds : Bool
  /-- Blanks and comments in the source count for nothing. -/
  spaced : Bool
deriving DecidableEq, Repr

def Switches.initial : Switches := ⟨false, false, false, false, true, false, false⟩

/-- Skips blanks and comments; a comment runs to the end of its line. -/
def skipNotes : Bool → List Char → List Char
  | _, [] => []
  | true, c :: rest => if c = '\n' then skipNotes false rest else skipNotes true rest
  | false, c :: rest =>
      if Text.isBlank c then skipNotes false rest
      else if c = '#' then skipNotes true rest
      else c :: rest

/-- Skips a gap where the switches allow one. -/
def Switches.gap (switches : Switches) (source : List Char) : List Char :=
  if switches.spaced then skipNotes false source else source

/-- Skips one character and the gap after it. -/
def Switches.next (switches : Switches) (source : List Char) : List Char :=
  switches.gap (source.drop 1)

/-- Characters that have a meaning of their own somewhere in a pattern. -/
def isMeta (c : Char) : Bool :=
  "\\.+*?()|[]\x7b\x7d^$#&-~".toList.contains c

/-- Characters that may be escaped without changing their meaning. -/
def isEscapable (c : Char) : Bool :=
  isMeta c ||
    (decide (c.toNat < 0x80) && !c.isAlphanum && c != '<' && c != '>')

end FormRules.Pattern
