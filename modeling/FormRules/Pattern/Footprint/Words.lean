/-
Automata for choices between fixed texts.

The texts are read along a tree that branches where they differ.  A text that ends where another
goes on splits the branches there: those of texts before it are tried before its end, and those of
texts after it are tried later.
-/
import FormRules.Pattern.Footprint.Encoding
import FormRules.Pattern.Footprint.Tally

namespace FormRules.Pattern.Footprint

/-- The stretches of words between words without bytes: one more than there are of the latter. -/
def stretches : List (List Nat) → List (List (List Nat))
  | [] => [[]]
  | word :: rest =>
      match stretches rest with
      | [] => [[word]]
      | stretch :: others =>
          if word.isEmpty then [] :: stretch :: others else (word :: stretch) :: others

/-- The words without what repeats an end at the very beginning. -/
def dropRepeatedEnds (words : List (List Nat)) : List (List Nat) :=
  match words with
  | [] :: rest => [] :: rest.dropWhile List.isEmpty
  | _ => words

/-- The bytes that words begin with, each once. -/
def firstBytes (words : List (List Nat)) : List Nat := (words.filterMap List.head?).eraseDups

/-- What follows a first byte in the words that begin with it. -/
def restsAfter (byte : Nat) (words : List (List Nat)) : List (List Nat) :=
  words.filterMap fun word =>
    match word with
    | first :: rest => if first = byte then some rest else none
    | [] => none

/-- Lays out the tree of some words.  Where all words have ended nothing is laid out.  The depth is
bounded by the length of the words. -/
def layTree : Nat → List (List Nat) → Tally → Tally
  | 0, _, tally => tally
  | depth + 1, words, tally =>
      if words.all List.isEmpty then tally
      else
        let all := stretches (dropRepeatedEnds words)
        let filled := all.filter fun stretch => !stretch.isEmpty
        let tally := filled.foldl (fun tally stretch =>
          let bytes := firstBytes stretch
          let tally := bytes.foldl (fun tally byte => layTree depth (restsAfter byte stretch) tally)
            tally
          tally.add 1 (if bytes.length = 1 then 0 else Tally.branchSize * bytes.length)) tally
        tally.add 1 (Tally.choiceSize * (filled.length + (all.length - 1)))

/-- Lays out a choice between words. -/
def layWords (words : List (List Nat)) (tally : Tally) : Tally :=
  layTree ((words.map List.length).foldl max 0 + 1) words (tally.add 1 0)

end FormRules.Pattern.Footprint
