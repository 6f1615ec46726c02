import SqlVerbs.Double.Reader
import SqlVerbs.Json.Value
import SqlVerbs.Text.Hex

/-!
# Reading JSON text

Strict JSON: no trailing commas, no comments, no raw control characters in strings, one value with
white space around it. Arrays and objects nested more than 127 deep are read without their content.
-/

namespace SqlVerbs.Json

/-- What JSON counts as white space. -/
def isSpace (c : Char) : Bool := c = ' ' || c = '\n' || c = '\t' || c = '\r'

def skipSpace (chars : List Char) : List Char := chars.dropWhile isSpace

def hexQuad? (chars : List Char) : Option (Nat × List Char) :=
  if chars.length < 4 then none
  else (Text.hexNumber? (chars.take 4)).map (fun code => (code, chars.drop 4))

/-- A piece of a string: a character, or one half of a surrogate pair. -/
inductive Unit16 where
  | char (c : Char)
  | high (unit : Nat)
  | low (unit : Nat)

/-- The piece with a 16-bit code. -/
def Unit16.ofCode (code : Nat) : Unit16 :=
  if 0xd800 ≤ code ∧ code < 0xdc00 then .high code
  else if 0xdc00 ≤ code ∧ code < 0xe000 then .low code
  else .char (Char.ofNat code)

/-- The character of a short escape. -/
def shortEscape? : Char → Option Char
  | '"' => some '"'
  | '\\' => some '\\'
  | '/' => some '/'
  | 'b' => some (Char.ofNat 8)
  | 'f' => some (Char.ofNat 12)
  | 'n' => some '\n'
  | 'r' => some '\r'
  | 't' => some '\t'
  | _ => none

/-- The pieces of a string up to the closing quote, and what follows it. -/
def readPieces : Nat → List Char → Option (List Unit16 × List Char)
  | 0, _ => none
  | _, [] => none
  | fuel + 1, c :: rest =>
    if c = '"' then some ([], rest)
    else if c = '\\' then
      match rest with
      | 'u' :: digits => do
        let (code, rest) ← hexQuad? digits
        let (pieces, rest) ← readPieces fuel rest
        some (Unit16.ofCode code :: pieces, rest)
      | e :: rest => do
        let escaped ← shortEscape? e
        let (pieces, rest) ← readPieces fuel rest
        some (.char escaped :: pieces, rest)
      | [] => none
    else if c.toNat < 32 then none
    else do
      let (pieces, rest) ← readPieces fuel rest
      some (.char c :: pieces, rest)

/-- Joins surrogate pairs. A half without its partner is no text. -/
def joinPieces? : List Unit16 → Option (List Char)
  | [] => some []
  | .char c :: rest => (joinPieces? rest).map (c :: ·)
  | .high h :: .low l :: rest =>
    (joinPieces? rest).map (Char.ofNat (0x10000 + (h - 0xd800) * 0x400 + (l - 0xdc00)) :: ·)
  | .high _ :: _ => none
  | .low _ :: _ => none

/-- A string after its opening quote; its text is missing where the escapes form none. -/
def readString (chars : List Char) : Option (Option String × List Char) := do
  let (pieces, rest) ← readPieces (chars.length + 1) chars
  some ((joinPieces? pieces).map String.ofList, rest)

def readExponent (chars : List Char) : Option (Option Int × List Char) :=
  match chars with
  | e :: rest =>
    if e = 'e' ∨ e = 'E' then
      let (negative, digits) := Double.splitSign rest
      let run := digits.takeWhile Char.isDigit
      if run = [] then none
      else
        let value : Int := Double.digitsValue run
        some (some (if negative then -value else value), digits.dropWhile Char.isDigit)
    else some (none, chars)
  | [] => some (none, [])

/-- The number with these parts. Without point and exponent it is whole, unless it is a negative
zero or needs more than 64 bits. -/
def numberOf (negative : Bool) (whole places : List Char) (exponent : Option Int)
    (hasPoint : Bool) : Value :=
  let mantissa := Double.digitsValue (whole ++ places)
  let size := Double.ofDecimal mantissa (exponent.getD 0 - places.length)
  let fits := if negative then mantissa ≤ 0x8000000000000000 ∧ mantissa ≠ 0
    else mantissa < 0x10000000000000000
  if !hasPoint && exponent.isNone && decide fits then
    .whole (if negative then -(mantissa : Int) else (mantissa : Int))
  else .real (if negative then -size else size)

/-- A number. A leading zero stands alone before the point. -/
def readNumber (chars : List Char) : Option (Value × List Char) := do
  let (negative, body) : Bool × List Char :=
    match chars with
    | '-' :: rest => (true, rest)
    | _ => (false, chars)
  let whole := body.takeWhile Char.isDigit
  let afterWhole := body.dropWhile Char.isDigit
  if whole = [] ∨ (1 < whole.length ∧ whole.head? = some '0') then none
  let (hasPoint, places, tail) : Bool × List Char × List Char :=
    match afterWhole with
    | '.' :: rest => (true, rest.takeWhile Char.isDigit, rest.dropWhile Char.isDigit)
    | _ => (false, [], afterWhole)
  if hasPoint ∧ places = [] then none
  let (exponent, rest) ← readExponent tail
  some (numberOf negative whole places exponent hasPoint, rest)

/-- Strips a word off the front. -/
def readWord (word : List Char) (value : Value) (chars : List Char) : Option (Value × List Char) :=
  if word.isPrefixOf chars then some (value, chars.drop word.length) else none

/-- The array with these items, if it may be opened. -/
def arrayOf (depth : Nat) (items : List Value) : Value :=
  if depth = 0 then .unreadable else .array items

/-- The object with these members, if it may be opened and every key is a text. -/
def objectOf (depth : Nat) (members : List (Option String × Value)) : Value :=
  match depth, members.mapM (fun member => member.1.map (fun key => (key, member.2))) with
  | _ + 1, some members => .object members
  | _, _ => .unreadable

mutual

/-- A value, without white space before it. `depth` counts the arrays and objects that may still be
opened. -/
def readValue : Nat → Nat → List Char → Option (Value × List Char)
  | 0, _, _ => none
  | _, _, [] => none
  | fuel + 1, depth, c :: rest =>
    if c = '\x7b' then
      match skipSpace rest with
      | '\x7d' :: rest => some (objectOf depth [], rest)
      | chars => do
        let (members, rest) ← readMembers fuel (depth - 1) chars
        some (objectOf depth members, rest)
    else if c = '[' then
      match skipSpace rest with
      | ']' :: rest => some (arrayOf depth [], rest)
      | chars => do
        let (items, rest) ← readItems fuel (depth - 1) chars
        some (arrayOf depth items, rest)
    else if c = '"' then do
      let (text, rest) ← readString rest
      some ((text.map Value.string).getD .unreadable, rest)
    else if c = 't' then readWord "true".toList (.bool true) (c :: rest)
    else if c = 'f' then readWord "false".toList (.bool false) (c :: rest)
    else if c = 'n' then readWord "null".toList .null (c :: rest)
    else readNumber (c :: rest)

/-- One or more items up to the closing bracket. -/
def readItems : Nat → Nat → List Char → Option (List Value × List Char)
  | 0, _, _ => none
  | fuel + 1, depth, chars => do
    let (value, rest) ← readValue fuel depth chars
    match skipSpace rest with
    | ']' :: rest => some ([value], rest)
    | ',' :: rest => do
      let (items, rest) ← readItems fuel depth (skipSpace rest)
      some (value :: items, rest)
    | _ => none

/-- One or more members up to the closing brace. -/
def readMembers : Nat → Nat → List Char → Option (List (Option String × Value) × List Char)
  | 0, _, _ => none
  | fuel + 1, depth, chars =>
    match chars with
    | '"' :: rest => do
      let (key, rest) ← readString rest
      match skipSpace rest with
      | ':' :: rest => do
        let (value, rest) ← readValue fuel depth (skipSpace rest)
        match skipSpace rest with
        | '\x7d' :: rest => some ([(key, value)], rest)
        | ',' :: rest => do
          let (members, rest) ← readMembers fuel depth (skipSpace rest)
          some ((key, value) :: members, rest)
        | _ => none
      | _ => none
    | _ => none

end

/-- The deepest nesting of arrays and objects. -/
def depthLimit : Nat := 127

/-- Reads a whole text as one JSON value. Each step uses up a character, so the fuel suffices. -/
def Value.ofText? (text : String) : Option Value := do
  let chars := text.toList
  let (value, rest) ← readValue (2 * chars.length + 2) depthLimit (skipSpace chars)
  if skipSpace rest = [] then some value else none

end SqlVerbs.Json
