/-
Sets of characters written as text, and tables of them by name.

A set is written as stretches of code points in hexadecimal, separated by blanks: a single one,
`first-last`, or `first-last/step` for every so many-th from the first on.
-/
import FormRules.Text.CharSet
import FormRules.Text.Digit
import FormRules.Text.Pieces

namespace FormRules.Text

/-- Reads one stretch of code points. -/
def readStretch (text : List Char) : List (Nat × Nat) :=
  let code (digits : List Char) : Nat := numberOf 16 digits
  match pieces (· == '-') text with
  | [first, rest] =>
      match pieces (· == '/') rest with
      | [last, step] =>
          (List.range ((code last - code first) / code step + 1)).map fun i =>
            (code first + i * code step, code first + i * code step)
      | _ => [(code first, code rest)]
  | _ => [(code text, code text)]

/-- Reads the stretches of a set. -/
def readStretches (text : String) : List (Nat × Nat) :=
  (pieces (· == ' ') text.toList).flatMap readStretch

/-- Reads a set of characters. -/
def readSet (text : String) : CharSet := .ofRanges (readStretches text)

/-- A table of sets.  Each entry has the names of its set, in small letters without separators, and
the lines that the set is written in. -/
abbrev RangeTable := List (List String × List String)

namespace RangeTable

def setOf (lines : List String) : CharSet :=
  .ofRanges (lines.flatMap fun line => (readSet line).ranges)

/-- The set of a name. -/
def find? (table : RangeTable) (name : String) : Option CharSet :=
  (List.find? (fun entry => entry.1.contains name) table).map fun entry => setOf entry.2

/-- The set of a name; without an entry it is empty. -/
def get (table : RangeTable) (name : String) : CharSet := (table.find? name).getD .empty

/-- All characters of a table. -/
def union (table : RangeTable) : CharSet := .unionAll (table.map fun entry => setOf entry.2)

end RangeTable

end FormRules.Text
