import SqlVerbs.Calendar.Fields
import SqlVerbs.Calendar.Template

/-!
# Reading dates by a template

Numbers may have white space before them and fewer digits than usual. A year with a sign may have
more. Names of months and weekdays are known by their first three letters, in any letter case.
-/

namespace SqlVerbs.Calendar

/-- A value and the text after it, or a failure. -/
abbrev Scanned (α : Type) := α × List Char

/-- Length of a text in bytes. -/
def byteLength (chars : List Char) : Nat := chars.foldl (fun size c => size + c.utf8Size) 0

def trimStart (chars : List Char) : List Char := chars.dropWhile Text.isBlank

/-- The value of digits, which has to fit in 64 bits. -/
def boundedValue (digits : List Char) : Except DateFailure Int :=
  let value : Nat := digits.foldl (fun acc c => 10 * acc + (c.toNat - 48)) 0
  if value < 0x8000000000000000 then .ok value else .error .outOfRange

/-- A number of at least `least` and at most `most` digits. -/
def scanNumber (least : Nat) (most : Option Nat) (chars : List Char) :
    Except DateFailure (Scanned Int) := do
  if byteLength chars < least then throw .tooShort
  let run := (match most with
    | some most => chars.take most
    | none => chars).takeWhile Char.isDigit
  if run.length < least then throw .invalid
  return (← boundedValue run, chars.drop run.length)

/-- A number that may have a sign, and then any number of digits. -/
def scanSigned (most : Nat) (chars : List Char) : Except DateFailure (Scanned Int) :=
  match chars with
  | '-' :: rest => do
    let (value, rest) ← scanNumber 1 none rest
    return (-value, rest)
  | '+' :: rest => scanNumber 1 none rest
  | _ => scanNumber 1 (some most) chars

/-- Lower case of a letter of the Latin alphabet. -/
def lowerLetters (chars : List Char) : List Char := chars.map Char.toLower

/-- Short names and what completes them to long names. -/
def monthNames : List (String × String) :=
  [("jan", "uary"), ("feb", "ruary"), ("mar", "ch"), ("apr", "il"), ("may", ""), ("jun", "e"),
    ("jul", "y"), ("aug", "ust"), ("sep", "tember"), ("oct", "ober"), ("nov", "ember"),
    ("dec", "ember")]

/-- The same for weekdays, from Monday. -/
def weekdayNames : List (String × String) :=
  [("mon", "day"), ("tue", "sday"), ("wed", "nesday"), ("thu", "rsday"), ("fri", "day"),
    ("sat", "urday"), ("sun", "day")]

/-- The index of the short name at the front of the text. -/
def scanShortName (names : List (String × String)) (chars : List Char) :
    Except DateFailure (Scanned Nat) := do
  if byteLength chars < 3 then throw .tooShort
  let head := String.ofList (lowerLetters (chars.take 3))
  match names.findIdx? (fun entry => entry.1 = head) with
  | some index => return (index, chars.drop 3)
  | none => throw .invalid

/-- The same, and the rest of the long name if it is there. -/
def scanLongName (names : List (String × String)) (chars : List Char) :
    Except DateFailure (Scanned Nat) := do
  let (index, rest) ← scanShortName names chars
  let tail := ((names.map Prod.snd).getD index "").toList
  if tail.isPrefixOf (lowerLetters (rest.take tail.length)) then
    return (index, rest.drop tail.length)
  return (index, rest)

/-- A fraction of exactly so many digits, in nanoseconds. -/
def scanFractionOf (digits : Nat) (chars : List Char) : Except DateFailure (Scanned Int) := do
  let (value, rest) ← scanNumber digits (some digits) chars
  return (value * Nat.pow 10 (9 - digits), rest)

/-- A fraction of any number of digits, in nanoseconds; digits after the ninth are skipped. -/
def scanFraction (chars : List Char) : Except DateFailure (Scanned Int) := do
  let (value, rest) ← scanNumber 1 (some 9) chars
  return (value * Nat.pow 10 (9 - (chars.length - rest.length)), rest.dropWhile Char.isDigit)

/-- The sign of an offset. -/
def scanSign (chars : List Char) : Except DateFailure (Scanned Bool) :=
  match chars with
  | [] => .error .tooShort
  | c :: rest =>
    if c = '+' then .ok (false, rest)
    else if c = '-' ∨ c.toNat = 0x2212 then .ok (true, rest)
    else .error .invalid

def scanTwoDigits (chars : List Char) : Except DateFailure (Scanned Int) := do
  if byteLength chars < 2 then throw .tooShort
  match chars with
  | a :: b :: rest =>
    if a.isDigit && b.isDigit then return (((a.toNat - 48) * 10 + (b.toNat - 48) : Nat), rest)
    throw .invalid
  | _ => throw .invalid

/-- An offset from universal time in seconds. -/
def scanOffset (zulu bareHours : Bool) (chars : List Char) : Except DateFailure (Scanned Int) := do
  if zulu then
    match chars with
    | c :: rest => if c = 'Z' ∨ c = 'z' then return (0, rest)
    | [] => pure ()
  let (negative, rest) ← scanSign chars
  let (hours, rest) ← scanTwoDigits rest
  let rest := rest.dropWhile (fun c => c = ':' || Text.isBlank c)
  if byteLength rest < 2 then
    if bareHours && rest.isEmpty then
      return (if negative then -(hours * 3600) else hours * 3600, rest)
    throw .tooShort
  let (minutes, rest) ← scanTwoDigits rest
  if 59 < minutes then throw .outOfRange
  let seconds := hours * 3600 + minutes * 60
  return (if negative then -seconds else seconds, rest)

namespace Fields

/-- Records a number. -/
def set (f : Fields) (field : NumberField) (v : Int) : Except DateFailure Fields :=
  let year (old : Option Int) := agreeIn (-2147483648) 2147483647 old v
  match field with
  | .year => do return { f with year := ← year f.year }
  | .century => do return { f with century := ← agreeIn 0 2147483647 f.century v }
  | .yearOfCentury => do return { f with yearOfCentury := ← agreeIn 0 99 f.yearOfCentury v }
  | .isoYear => do return { f with isoYear := ← year f.isoYear }
  | .isoYearOfCentury => do
    return { f with isoYearOfCentury := ← agreeIn 0 99 f.isoYearOfCentury v }
  | .quarter => do return { f with quarter := ← agreeIn 1 4 f.quarter v }
  | .month => do return { f with month := ← agreeIn 1 12 f.month v }
  | .day => do return { f with day := ← agreeIn 1 31 f.day v }
  | .weekFromSunday => do return { f with weekFromSunday := ← agreeIn 0 53 f.weekFromSunday v }
  | .weekFromMonday => do return { f with weekFromMonday := ← agreeIn 0 53 f.weekFromMonday v }
  | .isoWeek => do return { f with isoWeek := ← agreeIn 1 53 f.isoWeek v }
  | .daysFromSunday => do
    if 0 ≤ v ∧ v ≤ 6 then return { f with weekday := ← agree f.weekday ((v + 6) % 7) }
    else throw .outOfRange
  | .dayFromMonday => do
    if 1 ≤ v ∧ v ≤ 7 then return { f with weekday := ← agree f.weekday (v - 1) }
    else throw .outOfRange
  | .ordinal => do return { f with ordinal := ← agreeIn 1 366 f.ordinal v }
  | .hour => do
    if v < 0 ∨ 23 < v then throw .outOfRange
    return { f with
      halfDay := ← agree f.halfDay (v / 12), hourOfHalfDay := ← agree f.hourOfHalfDay (v % 12) }
  | .hour12 => do
    if v < 1 ∨ 12 < v then throw .outOfRange
    return { f with hourOfHalfDay := ← agree f.hourOfHalfDay (v % 12) }
  | .minute => do return { f with minute := ← agreeIn 0 59 f.minute v }
  | .second => do return { f with second := ← agreeIn 0 60 f.second v }
  | .nanosecond => do return { f with nanosecond := ← agreeIn 0 999999999 f.nanosecond v }
  | .timestamp => do return { f with timestamp := ← agree f.timestamp v }

def setOffset (f : Fields) (seconds : Int) : Except DateFailure Fields := do
  return { f with offset := ← agree f.offset seconds }

end Fields

namespace NumberField

/-- The usual number of digits; none for any number. -/
def width : NumberField → Option Nat
  | .year | .isoYear => some 4
  | .ordinal => some 3
  | .quarter | .daysFromSunday | .dayFromMonday => some 1
  | .nanosecond => some 9
  | .timestamp => none
  | _ => some 2

/-- Scans the number. -/
def scan (field : NumberField) (chars : List Char) : Except DateFailure (Scanned Int) :=
  match field with
  | .year | .isoYear => scanSigned 4 (trimStart chars)
  | _ => scanNumber 1 field.width (trimStart chars)

end NumberField

/-- Reads a literal text. -/
def scanLiteral (text chars : List Char) : Except DateFailure (List Char) :=
  if byteLength chars < byteLength text then .error .tooShort
  else if text.isPrefixOf chars then .ok (chars.drop text.length)
  else .error .invalid

/-- Reads a number and records it. -/
def readNumber (f : Fields) (field : NumberField) (chars : List Char) :
    Except DateFailure (Scanned Fields) := do
  let (value, rest) ← field.scan chars
  return (← f.set field value, rest)

/-- Reads the half of a day. -/
def readHalfDay (f : Fields) (chars : List Char) : Except DateFailure (Scanned Fields) := do
  if byteLength chars < 2 then throw .tooShort
  match String.ofList (lowerLetters (chars.take 2)) with
  | "am" => return ({ f with halfDay := ← Fields.agree f.halfDay 0 }, chars.drop 2)
  | "pm" => return ({ f with halfDay := ← Fields.agree f.halfDay 1 }, chars.drop 2)
  | _ => throw .invalid

/-- Reads a fraction of a second after a point, if there is one. -/
def readFraction (f : Fields) (scan : List Char → Except DateFailure (Scanned Int))
    (chars : List Char) : Except DateFailure (Scanned Fields) :=
  match chars with
  | '.' :: rest => do
    let (value, rest) ← scan rest
    return (← f.set .nanosecond value, rest)
  | _ => .ok (f, chars)

/-- Reads numbers with literal characters between them, which may have white space before them. -/
def readNumbers (f : Fields) :
    List (NumberField × List Char) → List Char → Except DateFailure (Scanned Fields)
  | [], chars => .ok (f, chars)
  | (field, after) :: more, chars => do
    let (f, rest) ← readNumber f field chars
    let rest ← if after.isEmpty then pure rest else scanLiteral after (trimStart rest)
    readNumbers f more rest

/-- Reads a date and time of the internet format. -/
def readTimestampText (f : Fields) (chars : List Char) : Except DateFailure (Scanned Fields) := do
  let (f, rest) ← readNumbers f [(.year, ['-']), (.month, ['-']), (.day, [])] chars
  let rest ← match rest with
    | c :: rest => if c = 't' ∨ c = 'T' ∨ c = ' ' then pure rest else throw .invalid
    | [] => throw .tooShort
  let (f, rest) ← readNumbers f [(.hour, [':']), (.minute, [':']), (.second, [])] rest
  let (f, rest) ← readFraction f scanFraction rest
  let rest := trimStart rest
  if lowerLetters (rest.take 3) = "utc".toList then return (← f.setOffset 0, rest.drop 3)
  let (offset, rest) ← scanOffset true false rest
  return (← f.setOffset offset, rest)

def readName (f : Fields) (field : NameField) (chars : List Char) :
    Except DateFailure (Scanned Fields) := do
  match field with
  | .shortMonth =>
    let (index, rest) ← scanShortName monthNames chars
    return (← f.set .month (index + 1), rest)
  | .longMonth =>
    let (index, rest) ← scanLongName monthNames chars
    return (← f.set .month (index + 1), rest)
  | .shortWeekday =>
    let (index, rest) ← scanShortName weekdayNames chars
    return (← f.set .dayFromMonday (index + 1), rest)
  | .longWeekday =>
    let (index, rest) ← scanLongName weekdayNames chars
    return (← f.set .dayFromMonday (index + 1), rest)
  | .halfDay => readHalfDay f chars
  | .fraction => readFraction f scanFraction chars
  | .fractionOf digits => readFraction f (scanFractionOf digits) chars
  | .bareFraction digits =>
    let (value, rest) ← scanFractionOf digits chars
    return (← f.set .nanosecond value, rest)
  | .zoneName => return (f, chars.dropWhile (fun c => !Text.isBlank c))
  | .zoneOffset =>
    let (offset, rest) ← scanOffset false false (trimStart chars)
    return (← f.setOffset offset, rest)
  | .looseZoneOffset =>
    let (offset, rest) ← scanOffset true true (trimStart chars)
    return (← f.setOffset offset, rest)
  | .timestampText => readTimestampText f chars

/-- Reads a text by the items of a template. -/
def readItems (f : Fields) : List Item → List Char → Except DateFailure (Scanned Fields)
  | [], chars => .ok (f, chars)
  | item :: more, chars => do
    let (f, rest) ← match item with
      | .literal text => (scanLiteral text chars).map (fun rest => (f, rest))
      | .space => .ok (f, trimStart chars)
      | .number field => readNumber f field chars
      | .name field => readName f field chars
      | .malformed => .error .badTemplate
    readItems f more rest

/-- Reads a whole text as a date by a template. -/
def Date.ofText (text template : String) : Except DateFailure Date := do
  let (fields, rest) ← readItems {} (Item.ofTemplate template) text.toList
  if rest.isEmpty then fields.toDate else throw .tooLong

end SqlVerbs.Calendar
