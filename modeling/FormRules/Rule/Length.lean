/-
Rules on the number of characters and of words.
-/
import FormRules.Rule.Registry

namespace FormRules.Rule

def lengthOf (text : List Char) : Double := .ofNat text.length

/-- Exactly parameter 1 characters. -/
def length : Rule :=
  configured "length" "Should be %s characters long" fun params => do
    let expected := (← argument "length" params 0).toNumber
    pure fun context => context.holdsText fun text => (lengthOf text).numEq expected

/-- Between parameter 1 and parameter 2 characters, both included. -/
def lengthBetween : Rule :=
  configured "lengthbetween" "Should be between %s and %s characters long" fun params => do
    let least := (← argument "lengthbetween" params 0).toNumber
    let most := (← argument "lengthbetween" params 1).toNumber
    pure fun context => context.holdsText fun text =>
      least.numLe (lengthOf text) && (lengthOf text).numLe most

/-- At most parameter 1 characters. -/
def lengthMax : Rule :=
  configured "lengthmax" "Maximum %s characters" fun params => do
    let most := (← argument "lengthmax" params 0).toNumber
    pure fun context => context.holdsText fun text => (lengthOf text).numLe most

/-- At least parameter 1 characters. -/
def lengthMin : Rule :=
  configured "lengthmin" "Minimum %s characters" fun params => do
    let least := (← argument "lengthmin" params 0).toNumber
    pure fun context => context.holdsText fun text => least.numLe (lengthOf text)

/-- The number of words of a value: none in an absent one, and no answer for one that is no
text. -/
def wordCount? (value : Option Value) : Option Double :=
  match given value with
  | none => some (.ofNat 0)
  | some (.text s) => some (.ofNat (Text.words s.toList).length)
  | some _ => none

/-- Whether the words of a field can be counted and their number has some property. -/
def countsWords (context : Context) (property : Double → Bool) : Bool :=
  match wordCount? context.value with
  | some count => property count
  | none => false

/-- Exactly parameter 1 words. -/
def words : Rule :=
  configured "words" "Amount of words is not equal to %s" fun params => do
    let expected := (← argument "words" params 0).parseInt
    pure fun context => countsWords context fun count => count.numEq expected

/-- At most parameter 1 words. -/
def maxWords : Rule :=
  configured "maxwords" "Maximum of %s words exceeded" fun params => do
    let most := (← argument "maxwords" params 0).parseInt
    pure fun context => countsWords context fun count => count.numLe most

/-- At least parameter 1 words. -/
def minWords : Rule :=
  configured "minwords" "A minimum of %s words is required" fun params => do
    let least := (← argument "minwords" params 0).parseInt
    pure fun context => countsWords context fun count => least.numLe count

end FormRules.Rule
