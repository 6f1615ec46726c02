import SqlVerbs.Pattern.Blanks
import SqlVerbs.Pattern.Form
import SqlVerbs.Text.Hex

/-!
# Escapes

What may stand after a backslash: characters by number, classes, anchors, and punctuation that
stands for itself.
-/

namespace SqlVerbs.Pattern

def isHexDigit (c : Char) : Bool := (Text.hexDigit? c).isSome

/-- A character by its number after the letter of the escape: in braces, or in so many digits. -/
def readHex? (verbose : Bool) (width : Nat) (chars : List Char) : Option (Atom × List Char) :=
  match skip verbose chars with
  | '\x7b' :: rest =>
    let (digits, rest) := collectAll verbose isHexDigit (skip verbose rest)
    match rest with
    | '\x7d' :: after =>
      (Text.hexChar? digits).map (fun c => (.char c false, skip verbose after))
    | _ => none
  | chars => do
    let (digits, rest) ← collectExactly verbose isHexDigit width chars
    (Text.hexChar? digits).map (fun c => (.char c (width = 2), rest))

/-- Splits a list before and after the first place where `mark` stands. -/
def splitAtMark (mark : List Char) : List Char → Option (List Char × List Char)
  | [] => none
  | c :: rest =>
    if mark.isPrefixOf (c :: rest) then some ([], (c :: rest).drop mark.length)
    else (splitAtMark mark rest).map (fun (before, after) => (c :: before, after))

/-- A class name: a property and a value with a sign between them, or a bare name. -/
def ClassQuery.ofName (name : List Char) : ClassQuery :=
  match splitAtMark ['!', '='] name, splitAtMark [':'] name, splitAtMark ['='] name with
  | some (property, value), _, _ => .valued property value true
  | none, some (property, value), _ => .valued property value false
  | none, none, some (property, value) => .valued property value false
  | none, none, none => .bare name

/-- A property escape after its letter. -/
def readProperty? (verbose negated : Bool) (chars : List Char) : Option (Atom × List Char) :=
  match skip verbose chars with
  | '\x7b' :: rest =>
    let (name, rest) := collectAll verbose (· ≠ '\x7d') (skip verbose rest)
    match rest with
    | _ :: after => some (.property (.ofName name) negated, after)
    | [] => none
  | c :: rest =>
    if c = '\\' then none else some (.property (.bare [c]) negated, skip verbose rest)
  | [] => none

/-- The kinds of word boundaries that have a name. -/
def boundaryOf? : String → Option Anchor
  | "start" => some .wordStart
  | "end" => some .wordEnd
  | "start-half" => some .wordStartHalf
  | "end-half" => some .wordEndHalf
  | _ => none

/-- A word boundary after `\b`, which may have a name in braces. Braces that begin with anything but
a letter or a dash belong to a repetition. -/
def readBoundary? (verbose : Bool) (chars : List Char) : Option (Anchor × List Char) :=
  let isNameChar (c : Char) : Bool := c.isAlpha || c = '-'
  match chars with
  | '\x7b' :: rest =>
    match skip verbose rest with
    | [] => none
    | c :: others =>
      if isNameChar c then
        let (name, rest) := collectAll verbose isNameChar (c :: others)
        match rest with
        | '\x7d' :: after => (boundaryOf? (String.ofList name)).map (fun a => (a, after))
        | _ => none
      else some (.wordBoundary, chars)
  | _ => some (.wordBoundary, chars)

/-- Characters with a meaning of their own in patterns. -/
def metaChars : List Char :=
  ['\\', '.', '+', '*', '?', '(', ')', '|', '[', ']', '\x7b', '\x7d', '^', '$', '#', '&', '-', '~']

/-- May the character stand after a backslash for itself? -/
def isEscapable (c : Char) : Bool :=
  metaChars.contains c || (c.toNat < 128 && !c.isAlphanum && c ≠ '<' && c ≠ '>')

/-- The escapes of one letter. -/
def letterEscape? : Char → Option Atom
  | 'd' => some (.shorthand .digit false)
  | 'D' => some (.shorthand .digit true)
  | 's' => some (.shorthand .space false)
  | 'S' => some (.shorthand .space true)
  | 'w' => some (.shorthand .word false)
  | 'W' => some (.shorthand .word true)
  | 'a' => some (.char (Char.ofNat 7) false)
  | 'f' => some (.char (Char.ofNat 12) false)
  | 't' => some (.char '\t' false)
  | 'n' => some (.char '\n' false)
  | 'r' => some (.char '\r' false)
  | 'v' => some (.char (Char.ofNat 11) false)
  | 'A' => some (.anchor .textStart)
  | 'z' => some (.anchor .textEnd)
  | 'B' => some (.anchor .notWordBoundary)
  | '<' => some (.anchor .wordStart)
  | '>' => some (.anchor .wordEnd)
  | c => if isEscapable c then some (.char c false) else none

/-- An escape after its backslash. -/
def readEscape? (verbose : Bool) : List Char → Option (Atom × List Char)
  | [] => none
  | 'x' :: rest => readHex? verbose 2 rest
  | 'u' :: rest => readHex? verbose 4 rest
  | 'U' :: rest => readHex? verbose 8 rest
  | 'p' :: rest => readProperty? verbose false rest
  | 'P' :: rest => readProperty? verbose true rest
  | 'b' :: rest => (readBoundary? verbose rest).map (fun (a, rest) => (.anchor a, rest))
  | c :: rest => (letterEscape? c).map (fun a => (a, rest))

/-- The pattern that matches a text literally. -/
def escape (text : String) : String :=
  String.ofList (text.toList.flatMap (fun c => if metaChars.contains c then ['\\', c] else [c]))

end SqlVerbs.Pattern
