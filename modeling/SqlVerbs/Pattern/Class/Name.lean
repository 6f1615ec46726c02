import SqlVerbs.Pattern.Class.Age
import SqlVerbs.Pattern.Class.Break

/-!
# Classes by name

The classes that a property escape can name. A bare name is that of a yes-or-no property, of a
general category or of a script, in this order. A name with a value gives the value of a property
that has several. Names are compared without regard to case, blanks, dashes and underscores.
-/

namespace SqlVerbs.Pattern

open Text (Category CharSet)

/-- A name for comparison: without a leading `is`, without blanks, dashes, underscores and
characters outside ASCII, and in small letters. The name `isc` is not shortened to a category. -/
def looseName (name : List Char) : String :=
  let startsWithIs := match name with
    | i :: s :: _ => i.toLower = 'i' && s.toLower = 's'
    | _ => false
  let letters := (if startsWithIs then name.drop 2 else name).filter fun c =>
    c.toNat < 128 && c ≠ ' ' && c ≠ '_' && c ≠ '-'
  let letters := letters.map Char.toLower
  if startsWithIs && letters = ['c'] then "isc" else String.ofList letters

/-- The general categories and their unions, by name. Surrogates are no characters, so they have no
class. -/
def categoryNamed? : String → Option (Category → Bool)
  | "c" | "other" => some Category.isOther
  | "cc" | "control" | "cntrl" => some (· = .control)
  | "cf" | "format" => some (· = .format)
  | "cn" | "unassigned" => some (· = .unassigned)
  | "co" | "privateuse" => some (· = .privateUse)
  | "l" | "letter" => some Category.isLetter
  | "lc" | "casedletter" => some (fun category =>
    category = .uppercaseLetter || category = .lowercaseLetter || category = .titlecaseLetter)
  | "ll" | "lowercaseletter" => some (· = .lowercaseLetter)
  | "lm" | "modifierletter" => some (· = .modifierLetter)
  | "lo" | "otherletter" => some (· = .otherLetter)
  | "lt" | "titlecaseletter" => some (· = .titlecaseLetter)
  | "lu" | "uppercaseletter" => some (· = .uppercaseLetter)
  | "m" | "mark" | "combiningmark" => some Category.isMark
  | "mc" | "spacingmark" => some (· = .spacingMark)
  | "me" | "enclosingmark" => some (· = .enclosingMark)
  | "mn" | "nonspacingmark" => some (· = .nonspacingMark)
  | "n" | "number" => some Category.isNumber
  | "nd" | "decimalnumber" | "digit" => some (· = .decimalNumber)
  | "nl" | "letternumber" => some (· = .letterNumber)
  | "no" | "othernumber" => some (· = .otherNumber)
  | "p" | "punctuation" | "punct" => some Category.isPunctuation
  | "pc" | "connectorpunctuation" => some (· = .connectorPunctuation)
  | "pd" | "dashpunctuation" => some (· = .dashPunctuation)
  | "pe" | "closepunctuation" => some (· = .closePunctuation)
  | "pf" | "finalpunctuation" => some (· = .finalPunctuation)
  | "pi" | "initialpunctuation" => some (· = .initialPunctuation)
  | "po" | "otherpunctuation" => some (· = .otherPunctuation)
  | "ps" | "openpunctuation" => some (· = .openPunctuation)
  | "s" | "symbol" => some Category.isSymbol
  | "sc" | "currencysymbol" => some (· = .currencySymbol)
  | "sk" | "modifiersymbol" => some (· = .modifierSymbol)
  | "sm" | "mathsymbol" => some (· = .mathSymbol)
  | "so" | "othersymbol" => some (· = .otherSymbol)
  | "z" | "separator" => some Category.isSeparator
  | "zl" | "lineseparator" => some (· = .lineSeparator)
  | "zp" | "paragraphseparator" => some (· = .paragraphSeparator)
  | "zs" | "spaceseparator" => some (· = .spaceSeparator)
  | _ => none

/-- The class of a general category; three further classes count among them. -/
def categoryClass? : String → Option CharSet
  | "any" => some .full
  | "assigned" => some (categorySet (· ≠ .unassigned))
  | "ascii" => some (.ofRanges [(0, 127)])
  | name => (categoryNamed? name).map categorySet

/-- The yes-or-no properties by name. -/
def binaryClass? : String → Option CharSet
  | "ahex" | "asciihexdigit" => some asciiHexDigit
  | "alpha" | "alphabetic" => some alphabetic
  | "bidic" | "bidicontrol" => some bidiControl
  | "bidim" | "bidimirrored" => some bidiMirrored
  | "ci" | "caseignorable" => some caseIgnorable
  | "cased" => some cased
  | "cwcf" | "changeswhencasefolded" => some changesWhenCasefolded
  | "cwcm" | "changeswhencasemapped" => some changesWhenCasemapped
  | "cwl" | "changeswhenlowercased" => some changesWhenLowercased
  | "cwt" | "changeswhentitlecased" => some changesWhenTitlecased
  | "cwu" | "changeswhenuppercased" => some changesWhenUppercased
  | "dash" => some dash
  | "di" | "defaultignorablecodepoint" => some defaultIgnorable
  | "dep" | "deprecated" => some deprecated
  | "dia" | "diacritic" => some diacritic
  | "emoji" => some emoji
  | "ecomp" | "emojicomponent" => some emojiComponent
  | "emod" | "emojimodifier" => some emojiModifier
  | "ebase" | "emojimodifierbase" => some emojiModifierBase
  | "epres" | "emojipresentation" => some emojiPresentation
  | "extpict" | "extendedpictographic" => some extendedPictographic
  | "ext" | "extender" => some extender
  | "grbase" | "graphemebase" => some graphemeBase
  | "grext" | "graphemeextend" => some graphemeExtend
  | "grlink" | "graphemelink" => some graphemeLink
  | "hex" | "hexdigit" => some hexDigit
  | "hyphen" => some hyphen
  | "idsb" | "idsbinaryoperator" => some idsBinaryOperator
  | "idst" | "idstrinaryoperator" => some idsTrinaryOperator
  | "idsu" | "idsunaryoperator" => some idsUnaryOperator
  | "idcompatmathcontinue" => some idCompatMathContinue
  | "idcompatmathstart" => some idCompatMathStart
  | "idc" | "idcontinue" => some idContinue
  | "ids" | "idstart" => some idStart
  | "ideo" | "ideographic" => some ideographic
  | "joinc" | "joincontrol" => some joinControl
  | "loe" | "logicalorderexception" => some logicalOrderException
  | "lower" | "lowercase" => some lowercase
  | "math" => some math
  | "mcm" | "modifiercombiningmark" => some modifierCombiningMark
  | "nchar" | "noncharactercodepoint" => some noncharacter
  | "oalpha" | "otheralphabetic" => some otherAlphabetic
  | "odi" | "otherdefaultignorablecodepoint" => some otherDefaultIgnorable
  | "ogrext" | "othergraphemeextend" => some otherGraphemeExtend
  | "oidc" | "otheridcontinue" => some otherIdContinue
  | "oids" | "otheridstart" => some otherIdStart
  | "olower" | "otherlowercase" => some otherLowercase
  | "omath" | "othermath" => some otherMath
  | "oupper" | "otheruppercase" => some otherUppercase
  | "patsyn" | "patternsyntax" => some patternSyntax
  | "patws" | "patternwhitespace" => some patternWhiteSpace
  | "pcm" | "prependedconcatenationmark" => some prependedConcatenationMark
  | "qmark" | "quotationmark" => some quotationMark
  | "radical" => some radical
  | "ri" | "regionalindicator" => some regionalIndicator
  | "sterm" | "sentenceterminal" => some sentenceTerminal
  | "sd" | "softdotted" => some softDotted
  | "term" | "terminalpunctuation" => some terminalPunctuation
  | "uideo" | "unifiedideograph" => some unifiedIdeograph
  | "upper" | "uppercase" => some uppercase
  | "vs" | "variationselector" => some variationSelector
  | "wspace" | "whitespace" | "space" => some blanks
  | "xidc" | "xidcontinue" => some xidContinue
  | "xids" | "xidstart" => some xidStart
  | _ => none

/-- The class with a bare name. -/
def classNamed? (name : List Char) : Option CharSet :=
  let loose := looseName name
  (binaryClass? loose).or ((categoryClass? loose).or (script? loose))

/-- The class of a value of a property. -/
def classValued? (property value : List Char) : Option CharSet :=
  let value := looseName value
  match looseName property with
  | "gc" | "generalcategory" => categoryClass? value
  | "sc" | "script" => script? value
  | "scx" | "scriptextensions" => scriptExtensions? value
  | "age" => aged? value
  | "gcb" | "graphemeclusterbreak" => graphemeBreak? value
  | "wb" | "wordbreak" => wordBreak? value
  | "sb" | "sentencebreak" => sentenceBreak? value
  | _ => none

end SqlVerbs.Pattern
