import SqlVerbs.Text.Hex

/-!
# Settings documents

A settings document has one `key = value` a line, blank lines and comments. Keys are bare words or
quoted; values are `true`, `false` and strings. Strings come in four kinds: in double quotes with
escapes or in single quotes without, and each of them on one line or, between three quotes, on
several.
-/

namespace SqlVerbs.Settings

/-- The value of a setting. -/
inductive Entry where
  | text (value : String)
  | flag (value : Bool)
deriving DecidableEq, Repr

/-! ## Characters and line ends -/

/-- Blanks within a line. -/
def isBlank (c : Char) : Bool := c = ' ' || c = '\t'

/-- Characters that stand for themselves: all but control characters, and the tab. -/
def isPlain (c : Char) : Bool := c = '\t' || (32 ≤ c.toNat && c.toNat ≠ 127)

/-- Characters of bare keys. -/
def isKeyChar (c : Char) : Bool := c.isAlphanum || c = '-' || c = '_'

/-- What follows a line break. -/
def afterBreak? : List Char → Option (List Char)
  | '\n' :: rest => some rest
  | '\r' :: '\n' :: rest => some rest
  | _ => none

def skipBlanks (chars : List Char) : List Char := chars.dropWhile isBlank

def skipComment : List Char → List Char
  | '#' :: rest => rest.dropWhile isPlain
  | chars => chars

/-- What follows the end of a line, which may have blanks and a comment before it. -/
def afterLine? (chars : List Char) : Option (List Char) :=
  match skipComment (skipBlanks chars) with
  | [] => some []
  | rest => afterBreak? rest

/-! ## Strings -/

/-- A character with a code point of so many hexadecimal digits, and what follows. -/
def readCodePoint? (width : Nat) (chars : List Char) : Option (Char × List Char) :=
  if chars.length < width then none
  else (Text.hexChar? (chars.take width)).map (fun c => (c, chars.drop width))

/-- The character of an escape after the backslash, and what follows. -/
def readEscape? : List Char → Option (Char × List Char)
  | 'b' :: rest => some (Char.ofNat 8, rest)
  | 't' :: rest => some ('\t', rest)
  | 'n' :: rest => some ('\n', rest)
  | 'f' :: rest => some (Char.ofNat 12, rest)
  | 'r' :: rest => some ('\r', rest)
  | '"' :: rest => some ('"', rest)
  | '\\' :: rest => some ('\\', rest)
  | 'u' :: rest => readCodePoint? 4 rest
  | 'U' :: rest => readCodePoint? 8 rest
  | _ => none

/-- A string with escapes on one line, after its opening quote. -/
def readEscaped? : Nat → List Char → Option (List Char × List Char)
  | 0, _ => none
  | _, [] => none
  | fuel + 1, c :: rest =>
    if c = '"' then some ([], rest)
    else if c = '\\' then do
      let (escaped, rest) ← readEscape? rest
      let (text, rest) ← readEscaped? fuel rest
      some (escaped :: text, rest)
    else if isPlain c then do
      let (text, rest) ← readEscaped? fuel rest
      some (c :: text, rest)
    else none

/-- A string without escapes on one line, after its opening quote. -/
def readVerbatim? (chars : List Char) : Option (List Char × List Char) :=
  let isText (c : Char) : Bool := isPlain c && c ≠ '\''
  match chars.dropWhile isText with
  | '\'' :: rest => some (chars.takeWhile isText, rest)
  | _ => none

/-- Skips blanks and line breaks. -/
def skipBreaks : List Char → List Char
  | '\r' :: '\n' :: rest => skipBreaks rest
  | c :: rest => if isBlank c || c = '\n' then skipBreaks rest else c :: rest
  | [] => []

/-- What follows a line break that is escaped: the blanks before and the blank lines after it do
not count. -/
def afterEscapedBreak? (chars : List Char) : Option (List Char) :=
  (afterBreak? (skipBlanks chars)).map skipBreaks

/-- A string on several lines, after its opening quotes. One or two quotes are part of the text,
also right before the closing ones. Only strings in double quotes have escapes. -/
def readLong? (quote : Char) : Nat → List Char → Option (List Char × List Char)
  | 0, _ => none
  | _, [] => none
  | fuel + 1, c :: rest =>
    let quotes := ((c :: rest).takeWhile (· = quote)).length
    if 3 ≤ quotes then
      let extra := min (quotes - 3) 2
      some (List.replicate extra quote, (c :: rest).drop (extra + 3))
    else if c = '\\' ∧ quote = '"' then
      match afterEscapedBreak? rest with
      | some rest => readLong? quote fuel rest
      | none => do
        let (escaped, rest) ← readEscape? rest
        let (text, rest) ← readLong? quote fuel rest
        some (escaped :: text, rest)
    else
      match afterBreak? (c :: rest) with
      | some rest => do
        let (text, rest) ← readLong? quote fuel rest
        some ('\n' :: text, rest)
      | none =>
        if isPlain c then do
          let (text, rest) ← readLong? quote fuel rest
          some (c :: text, rest)
        else none

/-- A string on several lines, without the line break that may follow its opening quotes. -/
def readLongText? (quote : Char) (chars : List Char) : Option (List Char × List Char) :=
  let body := (afterBreak? chars).getD chars
  readLong? quote (body.length + 1) body

/-- A string of any kind. -/
def readText? : List Char → Option (List Char × List Char)
  | '"' :: '"' :: '"' :: rest => readLongText? '"' rest
  | '"' :: rest => readEscaped? (rest.length + 1) rest
  | '\'' :: '\'' :: '\'' :: rest => readLongText? '\'' rest
  | '\'' :: rest => readVerbatim? rest
  | _ => none

/-! ## Lines -/

/-- A value. -/
def readEntry? : List Char → Option (Entry × List Char)
  | 't' :: 'r' :: 'u' :: 'e' :: rest => some (.flag true, rest)
  | 'f' :: 'a' :: 'l' :: 's' :: 'e' :: rest => some (.flag false, rest)
  | chars => (readText? chars).map (fun (text, rest) => (.text (String.ofList text), rest))

/-- A key, bare or quoted. -/
def readKey? : List Char → Option (String × List Char)
  | '"' :: rest =>
    (readEscaped? (rest.length + 1) rest).map (fun (key, rest) => (String.ofList key, rest))
  | '\'' :: rest => (readVerbatim? rest).map (fun (key, rest) => (String.ofList key, rest))
  | chars =>
    let key := chars.takeWhile isKeyChar
    if key.isEmpty then none else some (String.ofList key, chars.dropWhile isKeyChar)

/-- A line with a setting, and what follows the line. -/
def readSetting? (chars : List Char) : Option ((String × Entry) × List Char) := do
  let (key, rest) ← readKey? (skipBlanks chars)
  match skipBlanks rest with
  | '=' :: rest => do
    let (entry, rest) ← readEntry? (skipBlanks rest)
    some ((key, entry), ← afterLine? rest)
  | _ => none

/-- The settings of all lines. -/
def readLines? : Nat → List Char → Option (List (String × Entry))
  | _, [] => some []
  | 0, _ => none
  | fuel + 1, chars =>
    match afterLine? chars with
    | some rest => readLines? fuel rest
    | none => do
      let (setting, rest) ← readSetting? chars
      return setting :: (← readLines? fuel rest)

/-- Drops the mark that a text may start with to show its encoding. -/
def skipMark : List Char → List Char
  | c :: rest => if c.toNat = 0xfeff then rest else c :: rest
  | [] => []

/-- The settings of a document, each of them once. -/
def entries? (text : String) : Option (List (String × Entry)) := do
  let chars := skipMark text.toList
  let entries ← readLines? (chars.length + 1) chars
  if (entries.map Prod.fst).eraseDups.length = entries.length then some entries else none

end SqlVerbs.Settings
