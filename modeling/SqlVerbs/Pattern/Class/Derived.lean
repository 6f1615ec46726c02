import SqlVerbs.Pattern.Class.Edition
import SqlVerbs.Pattern.Class.Listed
import SqlVerbs.Text.Alphabetic

/-!
# Derived properties of characters

Each is made of general categories, listed sets and letter case.
-/

namespace SqlVerbs.Pattern

open Text (Category CharSet)

/-! ## Letters and their case -/

def lowercase : CharSet := (ofCategory .lowercaseLetter).union otherLowercase

def uppercase : CharSet := (ofCategory .uppercaseLetter).union otherUppercase

/-- Characters with a letter case. -/
def cased : CharSet := .unionAll [lowercase, uppercase, ofCategory .titlecaseLetter]

/-- Letters and letter numbers. -/
def letterLike : CharSet :=
  categorySet (fun category => category.isLetter || category = .letterNumber)

/-- Alphabetic characters that are neither letters nor letter numbers. -/
def otherAlphabetic : CharSet := Text.otherAlphabetic.diff recent

def alphabetic : CharSet := letterLike.union otherAlphabetic

/-- Characters that are passed over when the letter case of their surroundings is determined. -/
def caseIgnorable : CharSet :=
  (categorySet fun category =>
    category = .nonspacingMark || category = .enclosingMark || category = .format
      || category = .modifierLetter || category = .modifierSymbol).union
    (.ofRanges Text.otherCaseIgnorableRanges)

/-- The characters that the runs send to another one. -/
def shifted (runs : List Text.CaseRun) : CharSet :=
  let moves := runs.flatMap fun run =>
    (runPoints run).map (fun (point : Nat) => (point, ((point : Int) + run.offset).toNat))
  let known := moves.filter fun move =>
    !recent.holdsPoint move.1 && !recent.holdsPoint move.2
  .ofRanges (known.map (fun move => (move.1, move.1)))

def changesWhenLowercased : CharSet := (shifted Text.lowerRuns).union (.ofLines ["130"])

def changesWhenUppercased : CharSet :=
  (shifted Text.upperRuns).union
    (.ofRanges (Text.wideUppers.map (fun entry => (entry.1, entry.1))))

/-- Titlecase letters and the letters that have no titlecase do not change; the capital digraphs
do. -/
def changesWhenTitlecased : CharSet :=
  (changesWhenUppercased.diff
    ((ofCategory .titlecaseLetter).union (.ofLines ["10d0-10fa 10fd-10ff"]))).union
    (.ofLines ["1c4 1c7 1ca 1f1"])

def changesWhenCasemapped : CharSet := changesWhenLowercased.union changesWhenUppercased

/-- Where folding differs from lower case: it has ligatures of its own, and it goes to capitals in
one script. -/
def foldedOtherwise : CharSet := .ofLines
  ["df 149 587 13a0-13f5 13f8-13fd 1e9a 1f80-1f87 1f90-1f97 1fa0-1fa7 1fb2-1fb4 1fb7 1fbe",
   "1fc2-1fc4 1fc7 1fd3 1fe3 1ff2-1ff4 1ff7 ab70-abbf fb00-fb05 fb13-fb17"]

def changesWhenCasefolded : CharSet :=
  (changesWhenLowercased.union
    (.ofRanges (Text.otherFolds.map (fun entry => (entry.1, entry.1))))).symmDiff foldedOtherwise

/-! ## Digits, blanks and words -/

def digits : CharSet := ofCategory .decimalNumber

def blanks : CharSet := .ofRanges Text.blankRanges

/-- What words consist of: alphabetic characters, marks, decimal digits, connectors and joiners. -/
def wordChars : CharSet :=
  .unionAll [alphabetic, joinControl,
    categorySet fun category =>
      category.isMark || category = .decimalNumber || category = .connectorPunctuation]

/-! ## Graphemes, identifiers and the rest -/

def math : CharSet := (ofCategory .mathSymbol).union otherMath

/-- Characters that extend the one before them. -/
def graphemeExtend : CharSet :=
  (categorySet fun category =>
    category = .nonspacingMark || category = .enclosingMark).union otherGraphemeExtend

/-- Characters that begin something visible. -/
def graphemeBase : CharSet :=
  (categorySet fun category =>
    !(category.isOther || category = .lineSeparator || category = .paragraphSeparator)).diff
    graphemeExtend

/-- Code points that are not shown where they are not supported. -/
def defaultIgnorable : CharSet :=
  (CharSet.unionAll [ofCategory .format, variationSelector, otherDefaultIgnorable]).diff
    (.union (.ofLines ["fff9-fffb 13430-1343f"]) prependedConcatenationMark)

/-- What no identifier contains. -/
def identifierStop : CharSet := patternSyntax.union patternWhiteSpace

def idStart : CharSet := (letterLike.union otherIdStart).diff identifierStop

def idContinue : CharSet :=
  (CharSet.unionAll [idStart, otherIdContinue,
    categorySet fun category =>
      category = .nonspacingMark || category = .spacingMark || category = .decimalNumber
        || category = .connectorPunctuation]).diff identifierStop

/-- Characters that may stand in an identifier, but not when it is normalized. -/
def normalizedOtherwise : CharSet :=
  .ofLines ["37a 309b-309c fc5e-fc63 fdfa-fdfb fe70 fe72 fe74 fe76 fe78 fe7a fe7c fe7e"]

def xidStart : CharSet := idStart.diff (normalizedOtherwise.union (.ofLines ["e33 eb3 ff9e-ff9f"]))

def xidContinue : CharSet := idContinue.diff normalizedOtherwise

end SqlVerbs.Pattern
