import SqlVerbs.Pattern.Class.Derived
import SqlVerbs.Pattern.Class.Script

/-!
# Classes for segmentation

What a character counts as when text is divided into graphemes, words and sentences.
-/

namespace SqlVerbs.Pattern

open Text (CharSet)

/-- Characters of a listed set of code points. -/
def listed (line : String) : CharSet := .ofLines [line]

/-- The carriage return, the line feed and the joiner have classes of their own. -/
def ownBreak : CharSet := listed "a d 200d"

def formats : CharSet := ofCategory .format

def spacingMarks : CharSet := ofCategory .spacingMark

/-! ## Graphemes -/

/-- Extending characters and skin tones. -/
def graphemeBreakExtend : CharSet := graphemeExtend.union emojiModifier

/-- Controls, separators of lines, formats, and ignorable code points without a character. -/
def graphemeBreakControl : CharSet :=
  (CharSet.unionAll [
    categorySet (fun category => category = .control || category = .format
      || category = .lineSeparator || category = .paragraphSeparator),
    (ofCategory .unassigned).inter defaultIgnorable]).diff
    (.unionAll [ownBreak, prependedConcatenationMark, graphemeBreakExtend])

/-- Characters that join the one after them. -/
def graphemeBreakPrepend : CharSet :=
  prependedConcatenationMark.union
    (listed "d4e 111c2-111c3 113d1 1193f 11941 11a3a 11a84-11a89 11d46 11f02")

/-- Spacing marks, except those that stand apart. -/
def graphemeBreakSpacingMark : CharSet :=
  ((spacingMarks.diff graphemeExtend).union (listed "e33 eb3")).diff (.ofLines
    ["102b-102c 1038 1062-1064 1067-106d 1083 1087-108c 108f 109a-109c 1a61 1a63-1a64 aa7b aa7d",
     "11720-11721"])

/-- Syllables without a final consonant: every 28th one. -/
def openSyllables : CharSet :=
  .ofRanges ((List.range 399).map (fun i => (0xac00 + 28 * i, 0xac00 + 28 * i)))

/-- The grapheme class with a name. -/
def graphemeBreak? : String → Option CharSet
  | "cn" | "control" => some graphemeBreakControl
  | "cr" => some (listed "d")
  | "ex" | "extend" => some graphemeBreakExtend
  | "l" => some (listed "1100-115f a960-a97c")
  | "lf" => some (listed "a")
  | "lv" => some openSyllables
  | "lvt" => some ((listed "ac00-d7a3").diff openSyllables)
  | "pp" | "prepend" => some graphemeBreakPrepend
  | "ri" | "regionalindicator" => some regionalIndicator
  | "sm" | "spacingmark" => some graphemeBreakSpacingMark
  | "t" => some (listed "11a8-11ff d7cb-d7fb")
  | "v" => some (listed "1160-11a7 d7b0-d7c6 16d63 16d67-16d6a")
  | "zwj" => some (listed "200d")
  | _ => none

/-! ## Words -/

/-- Extending characters, spacing marks and skin tones. -/
def wordBreakExtend : CharSet :=
  .unionAll [graphemeExtend, spacingMarks, emojiModifier]

/-- Digits, and marks that belong to digits. -/
def breakNumeric : CharSet :=
  digits.union (listed "600-605 66b 6dd 890-891 8e2 19da 110bd 110cd")

def wordBreakKatakana : CharSet :=
  ((script? "kana").getD .empty).union (listed "3031-3035 309b-309c 30a0 30fc ff70")

def wordBreakHebrew : CharSet := ((script? "hebr").getD .empty).inter (ofCategory .otherLetter)

/-- Letters of scripts that write words without blanks between them. -/
def unspacedLetters : CharSet := .ofLines
  ["e01-e30 e32-e33 e40-e46 e81-e82 e84 e86-e8a e8c-ea3 ea5 ea7-eb0 eb2-eb3 ebd ec0-ec4 ec6",
   "edc-edf 1000-102a 103f 1050-1055 105a-105d 1061 1065-1066 106e-1070 1075-1081 108e",
   "1780-17b3 17d7 17dc 1950-196d 1970-1974 1980-19ab 19b0-19c9 1a20-1a54 1aa7 a9e0-a9e4",
   "a9e6-a9ef a9fa-a9fe aa60-aa76 aa7a aa7e-aaaf aab1 aab5-aab6 aab9-aabd aac0 aac2 aadb-aadd",
   "11700-1171a 11740-11746"]

/-- Characters that stand inside words like letters. -/
def letterMarks : CharSet := .ofLines
  ["2c2-2c5 2d2-2d7 2de-2df 2e5-2eb 2ed 2ef-2ff 55a-55c 55e 58a 5f3 70f a708-a716 a720-a721",
   "a789-a78a ab5b"]

/-- Letters of words that are divided by blanks. -/
def wordBreakLetter : CharSet :=
  (alphabetic.diff (.unionAll [ideographic, wordBreakKatakana, wordBreakHebrew, wordBreakExtend,
    unspacedLetters, (script? "hira").getD .empty])).union letterMarks

def wordBreakFormat : CharSet :=
  formats.diff (.unionAll [listed "200b-200d", wordBreakExtend, breakNumeric, letterMarks])

/-- The word class with a name. -/
def wordBreak? : String → Option CharSet
  | "le" | "aletter" => some wordBreakLetter
  | "cr" => some (listed "d")
  | "dq" | "doublequote" => some (listed "22")
  | "extend" => some wordBreakExtend
  | "ex" | "extendnumlet" => some ((ofCategory .connectorPunctuation).union (listed "202f"))
  | "fo" | "format" => some wordBreakFormat
  | "hl" | "hebrewletter" => some wordBreakHebrew
  | "ka" | "katakana" => some wordBreakKatakana
  | "lf" => some (listed "a")
  | "ml" | "midletter" => some (listed "3a b7 387 55f 5f4 2027 fe13 fe55 ff1a")
  | "mn" | "midnum" => some (listed "2c 3b 37e 589 60c-60d 66c 7f8 2044 fe50 fe54 ff0c ff1b")
  | "mb" | "midnumlet" => some (listed "2e 2018-2019 2024 fe52 ff07 ff0e")
  | "nl" | "newline" => some (listed "b-c 85 2028-2029")
  | "nu" | "numeric" => some breakNumeric
  | "ri" | "regionalindicator" => some regionalIndicator
  | "sq" | "singlequote" => some (listed "27")
  | "wsegspace" => some (listed "20 1680 2000-2006 2008-200a 205f 3000")
  | "zwj" => some (listed "200d")
  | _ => none

/-! ## Sentences -/

def sentenceBreakExtend : CharSet :=
  .unionAll [graphemeExtend, spacingMarks, listed "200d"]

/-- Line ends and separators of paragraphs. -/
def sentenceBreakSep : CharSet := listed "85 2028-2029"

/-- Small letters; in one script letters have capitals and are no small letters. -/
def sentenceBreakLower : CharSet :=
  lowercase.diff (graphemeExtend.union (listed "10d0-10fa 10fd-10ff"))

def sentenceBreakUpper : CharSet :=
  (uppercase.union (ofCategory .titlecaseLetter)).diff (listed "1c90-1cba 1cbd-1cbf")

/-- Full stops, which may also end an abbreviation. -/
def sentenceBreakFullStop : CharSet := listed "2e 2024 fe52 ff0e"

def sentenceBreakNumeric : CharSet := breakNumeric.union (listed "66c")

/-- Brackets and quotation marks. -/
def sentenceBreakClose : CharSet :=
  (CharSet.unionAll [
    categorySet (fun category => category = .openPunctuation || category = .closePunctuation
      || category = .initialPunctuation || category = .finalPunctuation),
    quotationMark, listed "275b-2760 2e00-2e01 2e06-2e08 2e0b 1f676-1f678"]).diff
    (listed "ff02 ff07")

/-- Punctuation after which a sentence goes on. -/
def sentenceBreakContinue : CharSet := .ofLines
  ["2c-2d 3a-3b 37e 55d 60c-60d 7f8 1802 1808 2013-2014 3001 fe10-fe11 fe13-fe14 fe31-fe32",
   "fe50-fe51 fe54-fe55 fe58 fe63 ff0c-ff0d ff1a-ff1b ff64"]

/-- The sentence class with a name. -/
def sentenceBreak? : String → Option CharSet
  | "at" | "aterm" => some sentenceBreakFullStop
  | "cr" => some (listed "d")
  | "cl" | "close" => some sentenceBreakClose
  | "ex" | "extend" => some sentenceBreakExtend
  | "fo" | "format" =>
    some (formats.diff (.unionAll [listed "200c-200d", sentenceBreakExtend, sentenceBreakNumeric]))
  | "lf" => some (listed "a")
  | "lo" | "lower" => some sentenceBreakLower
  | "nu" | "numeric" => some sentenceBreakNumeric
  | "le" | "oletter" =>
    some ((alphabetic.diff (.unionAll [sentenceBreakLower, sentenceBreakUpper,
      sentenceBreakExtend])).union (listed "5f3"))
  | "sc" | "scontinue" => some sentenceBreakContinue
  | "st" | "sterm" => some (sentenceTerminal.diff sentenceBreakFullStop)
  | "se" | "sep" => some sentenceBreakSep
  | "sp" => some (blanks.diff (sentenceBreakSep.union ownBreak))
  | "up" | "upper" => some sentenceBreakUpper
  | _ => none

end SqlVerbs.Pattern
