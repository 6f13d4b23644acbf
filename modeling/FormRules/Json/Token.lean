/-
The tokens of a JSON text.

The characters are read one by one into a growing list of tokens.  A word or a number ends at the
first character that cannot belong to it; a quoted text collects code units, so that an escape may
name one half of a surrogate pair and the halves are joined when the closing quote is read.
-/
import FormRules.Number.Numeral

namespace FormRules.Json

/-- A number as written: the minus sign, and the numeral after it. -/
structure NumberText where
  negative : Bool
  numeral : Numeral
deriving DecidableEq, Repr

inductive Token where
  | openList
  | closeList
  | openRecord
  | closeRecord
  | comma
  | colon
  | null
  | flag (b : Bool)
  | number (n : NumberText)
  /-- A quoted text; without content if an escape in it names an unpaired surrogate. -/
  | text (content : Option String)
deriving DecidableEq, Repr

/-- A number: an optional minus, digits without a leading zero, a fraction and an exponent that
are not empty if they are there. -/
def NumberText.read? (chars : List Char) : Option NumberText :=
  let (negative, body) := match chars with
    | '-' :: rest => (true, rest)
    | _ => (false, chars)
  match Numeral.read? body with
  | some numeral =>
      if numeral.whole = [] ∨ numeral.fraction = some [] then none
      else if numeral.whole.head? = some '0' ∧ numeral.whole ≠ ['0'] then none
      else some ⟨negative, numeral⟩
  | none => none

/-- The character that a one-letter escape stands for. -/
def escaped? : Char → Option Char
  | '"' => some '"'
  | '\\' => some '\\'
  | '/' => some '/'
  | 'b' => some '\x08'
  | 'f' => some '\x0c'
  | 'n' => some '\n'
  | 'r' => some '\r'
  | 't' => some '\t'
  | _ => none

def isHighSurrogate (unit : Nat) : Bool := decide (0xD800 ≤ unit ∧ unit ≤ 0xDBFF)

def isLowSurrogate (unit : Nat) : Bool := decide (0xDC00 ≤ unit ∧ unit ≤ 0xDFFF)

/-- The text of code units, joining the halves of surrogate pairs; none if a half stands alone. -/
def textOfUnits? : List Nat → Option (List Char)
  | [] => some []
  | [unit] =>
      if isHighSurrogate unit || isLowSurrogate unit then none else some [Char.ofNat unit]
  | high :: low :: rest =>
      if isHighSurrogate high then
        if isLowSurrogate low then
          (textOfUnits? rest).map
            (Char.ofNat (0x10000 + (high - 0xD800) * 0x400 + (low - 0xDC00)) :: ·)
        else none
      else if isLowSurrogate high then none
      else (textOfUnits? (low :: rest)).map (Char.ofNat high :: ·)

/-- How far the escape at the end of an unfinished quoted text has been read. -/
inductive Escape where
  | none
  | begun
  /-- So many hexadecimal digits are missing, and those read so far make this number. -/
  | hex (missing : Nat) (unit : Nat)
deriving DecidableEq, Repr

/-- The unfinished token at the end of the characters read so far, its characters in reverse. -/
inductive Pending where
  | nothing
  | word (letters : List Char)
  | number (chars : List Char)
  | text (units : List Nat) (escape : Escape)
deriving DecidableEq, Repr

/-- The tokens read so far in reverse, and the unfinished one. -/
structure Scan where
  tokens : List Token
  pending : Pending
deriving Repr

def wordToken? (word : List Char) : Option Token :=
  if word = "true".toList then some (.flag true)
  else if word = "false".toList then some (.flag false)
  else if word = "null".toList then some .null
  else none

/-- Blanks between tokens. -/
def isGap (c : Char) : Bool :=
  c == ' ' || c == '\t' || c == '\n' || c == '\r'

def isNumberChar (c : Char) : Bool :=
  Text.isAsciiDigit c || c == '-' || c == '+' || c == '.' || c == 'e' || c == 'E'

def isLetter (c : Char) : Bool :=
  decide ('a' ≤ c ∧ c ≤ 'z')

namespace Scan

/-- Ends a pending word or number. -/
def finish (scan : Scan) : Option Scan :=
  match scan.pending with
  | .nothing => some scan
  | .word letters => (wordToken? letters.reverse).map fun token => ⟨token :: scan.tokens, .nothing⟩
  | .number chars =>
      (NumberText.read? chars.reverse).map fun n => ⟨.number n :: scan.tokens, .nothing⟩
  | .text .. => none

/-- Reads a character where no token is pending. -/
def begin (tokens : List Token) (c : Char) : Option Scan :=
  match c with
  | '[' => some ⟨.openList :: tokens, .nothing⟩
  | ']' => some ⟨.closeList :: tokens, .nothing⟩
  | '{' => some ⟨.openRecord :: tokens, .nothing⟩
  | '}' => some ⟨.closeRecord :: tokens, .nothing⟩
  | ',' => some ⟨.comma :: tokens, .nothing⟩
  | ':' => some ⟨.colon :: tokens, .nothing⟩
  | '"' => some ⟨tokens, .text [] .none⟩
  | _ =>
      if isGap c then some ⟨tokens, .nothing⟩
      else if isLetter c then some ⟨tokens, .word [c]⟩
      else if isNumberChar c then some ⟨tokens, .number [c]⟩
      else none

/-- Reads a character of a quoted text. -/
def inText (tokens : List Token) (units : List Nat) (escape : Escape) (c : Char) :
    Option Scan :=
  match escape with
  | .none =>
      if c = '"' then
        some ⟨.text ((textOfUnits? units.reverse).map String.ofList) :: tokens, .nothing⟩
      else if c = '\\' then some ⟨tokens, .text units .begun⟩
      else if c.toNat < 0x20 then none
      else some ⟨tokens, .text (c.toNat :: units) .none⟩
  | .begun =>
      if c = 'u' then some ⟨tokens, .text units (.hex 4 0)⟩
      else (escaped? c).map fun d => ⟨tokens, .text (d.toNat :: units) .none⟩
  | .hex missing unit =>
      match Text.digitValue? c with
      | some value =>
          if 16 ≤ value then none
          else if missing ≤ 1 then some ⟨tokens, .text ((unit * 16 + value) :: units) .none⟩
          else some ⟨tokens, .text units (.hex (missing - 1) (unit * 16 + value))⟩
      | none => none

/-- Reads one character. -/
def read (scan : Scan) (c : Char) : Option Scan :=
  match scan.pending with
  | .text units escape => inText scan.tokens units escape c
  | .word letters =>
      if isLetter c then some ⟨scan.tokens, .word (c :: letters)⟩
      else scan.finish.bind fun done => begin done.tokens c
  | .number chars =>
      if isNumberChar c then some ⟨scan.tokens, .number (c :: chars)⟩
      else scan.finish.bind fun done => begin done.tokens c
  | .nothing => begin scan.tokens c

end Scan

/-- The tokens of a text, if it consists of tokens. -/
def tokens? (text : List Char) : Option (List Token) := do
  let scan ← text.foldlM Scan.read ⟨[], .nothing⟩
  let done ← scan.finish
  pure done.tokens.reverse

end FormRules.Json
