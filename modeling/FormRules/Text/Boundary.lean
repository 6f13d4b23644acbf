/-
The parts that characters play at the boundaries of graphemes, words and sentences.

A character has one part in each of the three; those that play none are not listed.
-/
import FormRules.Text.Script
import FormRules.Text.Trait.Derived

namespace FormRules.Text

/-! ### Graphemes -/

/-- Format characters and separators that end a grapheme. -/
def graphemeControlSet : CharSet :=
  ((categoryUnion ["zl", "zp", "cc", "cf"]).union (defaultIgnorableSet.inter unassignedSet)).diff
    (.unionAll [graphemeExtendSet, listed "prependedconcatenationmark", readSet "A D 200D"])

/-- Characters that extend the grapheme before them. -/
def graphemeExtenderSet : CharSet := graphemeExtendSet.union (listed "emojimodifier")

def hangulSyllableSet : CharSet := .ofRange 0xAC00 0xD7A3

/-- Syllables without a trailing consonant; each is followed by its 27 that have one. -/
def openSyllableSet : CharSet :=
  .ofRanges ((List.range 399).map fun i => (0xAC00 + 28 * i, 0xAC00 + 28 * i))

/-- Spacing marks, but those of some scripts stand by themselves. -/
def graphemeSpacingSet : CharSet :=
  ((categoryUnion ["mc"]).diff (graphemeExtendSet.union
    (readSet ("102B-102C 1038 1062-1064 1067-106D 1083 1087-108C 108F 109A-109C 1A61 1A63-1A64 " ++
      "AA7B AA7D 11720-11721")))).union (readSet "E33 EB3")

/-- The part in the boundaries of graphemes. -/
def graphemePart? (name : String) : Option CharSet :=
  match name with
  | "control" | "cn" => some graphemeControlSet
  | "cr" => some (.ofChar '\r')
  | "extend" | "ex" => some graphemeExtenderSet
  | "l" => some (readSet "1100-115F A960-A97C")
  | "lf" => some (.ofChar '\n')
  | "lv" => some openSyllableSet
  | "lvt" => some (hangulSyllableSet.diff openSyllableSet)
  | "prepend" | "pp" =>
      some (readSet ("600-605 6DD 70F 890-891 8E2 D4E 110BD 110CD 111C2-111C3 113D1 1193F 11941 " ++
        "11A3A 11A84-11A89 11D46 11F02"))
  | "regionalindicator" | "ri" => some (listed "regionalindicator")
  | "spacingmark" | "sm" => some graphemeSpacingSet
  | "t" => some (readSet "11A8-11FF D7CB-D7FB")
  | "v" => some (readSet "1160-11A7 D7B0-D7C6 16D63 16D67-16D6A")
  | "zwj" => some (readSet "200D")
  | _ => none

/-! ### Words -/

def wordExtenderSet : CharSet := graphemeExtenderSet.union (categoryUnion ["mc"])

def katakanaWordSet : CharSet :=
  (scripts.get "kana").union (readSet "3031-3035 309B-309C 30A0 30FC FF70")

def hebrewLetterSet : CharSet := (scripts.get "hebr").inter (categoryUnion ["lo"])

/-- Digits, and the marks that belong to the digits around them. -/
def numericSet : CharSet :=
  .unionAll [decimalDigitSet, (listed "prependedconcatenationmark").diff (readSet "70F"),
    readSet "66B 19DA"]

/-- Letters and marks of scripts that are written without gaps between words. -/
def gaplessSet : CharSet :=
  readSet ("E01-E3A E40-E4E E81-E82 E84 E86-E8A E8C-EA3 EA5 EA7-EBD EC0-EC4 EC6 EC8-ECE EDC-EDF " ++
    "1000-103F 1050-108F 109A-109F 1780-17D3 17D7 17DC-17DD 1950-196D 1970-1974 1980-19AB " ++
    "19B0-19C9 19DE-19DF 1A20-1A5E 1A60-1A7C 1AA0-1AAD A9E0-A9EF A9FA-A9FE AA60-AAC2 " ++
    "AADB-AADF 11700-1171A 1171D-1172B 1173A-1173B 1173F-11746")

/-- Letters of words that gaps set apart. -/
def wordLetterSet : CharSet :=
  (alphabeticSet.diff (.unionAll [listed "ideographic", katakanaWordSet, scripts.get "hira",
      gaplessSet, wordExtenderSet, hebrewLetterSet])).union
    (readSet ("2C2-2C5 2D2-2D7 2DE-2DF 2E5-2EB 2ED 2EF-2FF 55A-55C 55E 58A 5F3 70F A708-A716 " ++
      "A720-A721 A789-A78A AB5B"))

/-- The part in the boundaries of words. -/
def wordPart? (name : String) : Option CharSet :=
  match name with
  | "aletter" | "le" => some wordLetterSet
  | "cr" => some (.ofChar '\r')
  | "doublequote" | "dq" => some (.ofChar '"')
  | "extend" => some wordExtenderSet
  | "extendnumlet" | "ex" => some ((categoryUnion ["pc"]).union (readSet "202F"))
  | "format" | "fo" =>
      some ((categoryUnion ["cf"]).diff (.unionAll [wordExtenderSet,
        listed "prependedconcatenationmark", readSet "200B 200D"]))
  | "hebrewletter" | "hl" => some hebrewLetterSet
  | "katakana" | "ka" => some katakanaWordSet
  | "lf" => some (.ofChar '\n')
  | "midletter" | "ml" => some midLetterSet
  | "midnum" | "mn" =>
      some (readSet "2C 3B 37E 589 60C-60D 66C 7F8 2044 FE10 FE14 FE50 FE54 FF0C FF1B")
  | "midnumlet" | "mb" => some midLetterNumberSet
  | "newline" | "nl" => some (readSet "B-C 85 2028-2029")
  | "numeric" | "nu" => some numericSet
  | "regionalindicator" | "ri" => some (listed "regionalindicator")
  | "singlequote" | "sq" => some (.ofChar '\'')
  | "wsegspace" => some ((categoryUnion ["zs"]).diff (readSet "A0 2007 202F"))
  | "zwj" => some (readSet "200D")
  | _ => none

/-! ### Sentences -/

def sentenceExtenderSet : CharSet :=
  .unionAll [graphemeExtendSet, categoryUnion ["mc"], readSet "200D"]

def sentenceNumericSet : CharSet := numericSet.union (readSet "66C")

def sentenceLowerSet : CharSet :=
  lowercaseSet.diff (sentenceExtenderSet.union (readSet "10D0-10FA 10FD-10FF"))

def sentenceUpperSet : CharSet :=
  (uppercaseSet.union (categoryUnion ["lt"])).diff (readSet "1C90-1CBA 1CBD-1CBF")

/-- Full stops, which do not always end a sentence. -/
def fullStopSet : CharSet := readSet "2E 2024 FE52 FF0E"

/-- The part in the boundaries of sentences. -/
def sentencePart? (name : String) : Option CharSet :=
  match name with
  | "aterm" | "at" => some fullStopSet
  | "close" | "cl" =>
      some ((categoryUnion ["ps", "pe", "pi", "pf"]).union
        (readSet "22 27 275B-2760 2E00-2E01 2E06-2E08 2E0B 1F676-1F678"))
  | "cr" => some (.ofChar '\r')
  | "extend" | "ex" => some sentenceExtenderSet
  | "format" | "fo" =>
      some ((categoryUnion ["cf"]).diff (sentenceNumericSet.union sentenceExtenderSet))
  | "lf" => some (.ofChar '\n')
  | "lower" | "lo" => some sentenceLowerSet
  | "numeric" | "nu" => some sentenceNumericSet
  | "oletter" | "le" =>
      some ((alphabeticSet.diff (.unionAll [sentenceExtenderSet, sentenceLowerSet,
        sentenceUpperSet])).union (readSet "5F3"))
  | "scontinue" | "sc" =>
      some (readSet ("2C-2D 3A-3B 37E 55D 60C-60D 7F8 1802 1808 2013-2014 3001 FE10-FE11 " ++
        "FE13-FE14 FE31-FE32 FE50-FE51 FE54-FE55 FE58 FE63 FF0C-FF0D FF1A-FF1B FF64"))
  | "sep" | "se" => some (readSet "85 2028-2029")
  | "sp" => some (CharSet.diff ⟨blankRanges⟩ (readSet "A D 85 2028-2029"))
  | "sterm" | "st" => some ((listed "sentenceterminal").diff fullStopSet)
  | "upper" | "up" => some sentenceUpperSet
  | _ => none

end FormRules.Text
