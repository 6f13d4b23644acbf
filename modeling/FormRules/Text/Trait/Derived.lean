/-
Traits of characters that follow from their categories and from other traits.
-/
import FormRules.Text.Blank
import FormRules.Text.Category
import FormRules.Text.Trait.Listed

namespace FormRules.Text

def listed (name : String) : CharSet := listedTraits.get name

/-! ### Letters and their case -/

def lowercaseSet : CharSet := (categoryUnion ["ll"]).union (listed "otherlowercase")

def uppercaseSet : CharSet := (categoryUnion ["lu"]).union (listed "otheruppercase")

def alphabeticSet : CharSet :=
  .unionAll [categoryUnion ["lu", "ll", "lt", "lm", "lo", "nl"], lowercaseSet, uppercaseSet,
    listed "otheralphabetic"]

def casedSet : CharSet := .unionAll [lowercaseSet, uppercaseSet, categoryUnion ["lt"]]

/-- Marks that may stand between the letters of a word. -/
def midLetterSet : CharSet := readSet "3A B7 387 55F 5F4 2027 FE13 FE55 FF1A"

/-- Marks that may stand between the letters of a word and between the digits of a number. -/
def midLetterNumberSet : CharSet := readSet "2E 2018-2019 2024 FE52 FF07 FF0E"

/-- Characters that the case of their neighbours is found across. -/
def caseIgnorableSet : CharSet :=
  .unionAll [categoryUnion ["mn", "me", "cf", "lm", "sk"], midLetterSet, midLetterNumberSet,
    .ofChar '\'']

/-- Characters that some mapping between the cases changes. -/
def caseMappedSet : CharSet :=
  .unionAll [listed "changeswhenlowercased", listed "changeswhenuppercased",
    listed "changeswhentitlecased"]

/-! ### Graphemes -/

def graphemeExtendSet : CharSet := (categoryUnion ["mn", "me"]).union (listed "othergraphemeextend")

def graphemeBaseSet : CharSet :=
  (CharSet.unionAll [categoryUnion ["cc", "cf", "co", "zl", "zp"], surrogateSet, unassignedSet,
    graphemeExtendSet]).complement

/-- Characters that are not shown where they are not supported. -/
def defaultIgnorableSet : CharSet :=
  (CharSet.unionAll [categoryUnion ["cf"], listed "variationselector",
      listed "otherdefaultignorablecodepoint"]).diff
    ((listed "prependedconcatenationmark").union (readSet "FFF9-FFFB 13430-1343F"))

/-! ### Identifiers -/

def patternSyntaxSet : CharSet := listed "patternsyntax"

def idStartSet : CharSet :=
  (CharSet.unionAll [categoryUnion ["lu", "ll", "lt", "lm", "lo", "nl"],
    listed "otheridstart"]).diff (patternSyntaxSet.union (listed "patternwhitespace"))

def idContinueSet : CharSet :=
  (CharSet.unionAll [idStartSet, categoryUnion ["mn", "mc", "nd", "pc"],
    listed "otheridcontinue"]).diff patternSyntaxSet

/-- Characters that may not continue an identifier after compatibility forms are replaced. -/
def unstableContinueSet : CharSet :=
  readSet "37A 309B-309C FC5E-FC63 FDFA-FDFB FE70 FE72 FE74 FE76 FE78 FE7A FE7C FE7E"

/-- Characters that may not begin an identifier after compatibility forms are replaced. -/
def unstableStartSet : CharSet := unstableContinueSet.union (readSet "E33 EB3 FF9E-FF9F")

/-! ### All of them by name -/

/-- A trait that follows from others. -/
def derivedTrait? (name : String) : Option CharSet :=
  match name with
  | "alphabetic" | "alpha" => some alphabeticSet
  | "caseignorable" | "ci" => some caseIgnorableSet
  | "cased" => some casedSet
  | "changeswhencasemapped" | "cwcm" => some caseMappedSet
  | "defaultignorablecodepoint" | "di" => some defaultIgnorableSet
  | "graphemebase" | "grbase" => some graphemeBaseSet
  | "graphemeextend" | "grext" => some graphemeExtendSet
  | "idcontinue" | "idc" => some idContinueSet
  | "idstart" | "ids" => some idStartSet
  | "lowercase" | "lower" => some lowercaseSet
  | "math" => some ((categoryUnion ["sm"]).union (listed "othermath"))
  | "uppercase" | "upper" => some uppercaseSet
  | "whitespace" | "wspace" | "space" => some ⟨blankRanges⟩
  | "xidcontinue" | "xidc" => some (idContinueSet.diff unstableContinueSet)
  | "xidstart" | "xids" => some (idStartSet.diff unstableStartSet)
  | _ => none

/-- A trait by name. -/
def trait? (name : String) : Option CharSet := (derivedTrait? name).or (listedTraits.find? name)

end FormRules.Text
