/-
Writing dates by a format.
-/
import FormRules.Date.Format

namespace FormRules.Date

/-- The decimal digits of a number, with zeros in front up to a width. -/
def paddedDigits (width n : Nat) : List Char :=
  let digits := (toString n).toList
  List.replicate (width - digits.length) '0' ++ digits

/-- The number of a component in a date and time. -/
def Component.of (component : Component) (d : DateTime) : Nat :=
  match component with
  | .year => d.year
  | .shortYear => d.year - 1900
  | .month => d.month
  | .day => d.day
  | .hour => d.hour
  | .minute => d.minute
  | .second => d.second

/-- Writes one token: a component in the width of its shortest spelling, or the character itself. -/
def Token.write (token : Token) (d : DateTime) : List Char :=
  match token with
  | .field _ component spellings =>
      paddedDigits ((spellings.head?.map List.length).getD 0) (component.of d)
  | .literal c => [c]

/-- Writes a date and time by a format. -/
def Format.write (format : Format) (d : DateTime) : List Char :=
  format.tokens.flatMap fun token => token.write d

/-- The usual written form, with a year of at least four digits. -/
def DateTime.print (d : DateTime) : String :=
  String.ofList ((Format.ofText "Y-m-d H:i:s").write d)

end FormRules.Date
