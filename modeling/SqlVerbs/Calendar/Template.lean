import SqlVerbs.Text.Property

/-!
# Date templates

A template is text with directives of the form `%Y`. It is read into a list of items: literal
text, white space, numbers and names of the calendar.
-/

namespace SqlVerbs.Calendar

/-- A number in a template. -/
inductive NumberField where
  | year
  | century
  | yearOfCentury
  | isoYear
  | isoYearOfCentury
  | quarter
  | month
  | day
  | weekFromSunday
  | weekFromMonday
  | isoWeek
  | daysFromSunday
  | dayFromMonday
  | ordinal
  | hour
  | hour12
  | minute
  | second
  | nanosecond
  | timestamp
deriving DecidableEq, Repr

/-- A name or a composite in a template. -/
inductive NameField where
  | shortMonth
  | longMonth
  | shortWeekday
  | longWeekday
  | halfDay
  /-- A fraction of a second after its point, if there is one. -/
  | fraction
  /-- A fraction of so many digits after its point, if there is one. -/
  | fractionOf (digits : Nat)
  /-- So many digits of a fraction without a point. -/
  | bareFraction (digits : Nat)
  | zoneName
  | zoneOffset
  /-- An offset that may be `Z` or have no minutes. -/
  | looseZoneOffset
  /-- A date and time of the internet format. -/
  | timestampText
deriving DecidableEq, Repr

/-- An item of a template. -/
inductive Item where
  | literal (text : List Char)
  | space
  | number (field : NumberField)
  | name (field : NameField)
  | malformed
deriving DecidableEq, Repr

namespace Item

/-- Hours, minutes and seconds. -/
def clock : List Item :=
  [.number .hour, .literal [':'], .number .minute, .literal [':'], .number .second]

/-- Month, day and year of the century. -/
def slashDate : List Item :=
  [.number .month, .literal ['/'], .number .day, .literal ['/'], .number .yearOfCentury]

/-- The items of a directive of one letter. -/
def ofLetter? : Char → Option (List Item)
  | 'A' => some [.name .longWeekday]
  | 'B' => some [.name .longMonth]
  | 'C' => some [.number .century]
  | 'D' | 'x' => some slashDate
  | 'F' =>
    some [.number .year, .literal ['-'], .number .month, .literal ['-'], .number .day]
  | 'G' => some [.number .isoYear]
  | 'H' | 'k' => some [.number .hour]
  | 'I' | 'l' => some [.number .hour12]
  | 'M' => some [.number .minute]
  | 'P' | 'p' => some [.name .halfDay]
  | 'R' => some [.number .hour, .literal [':'], .number .minute]
  | 'S' => some [.number .second]
  | 'T' | 'X' => some clock
  | 'U' => some [.number .weekFromSunday]
  | 'V' => some [.number .isoWeek]
  | 'W' => some [.number .weekFromMonday]
  | 'Y' => some [.number .year]
  | 'Z' => some [.name .zoneName]
  | 'a' => some [.name .shortWeekday]
  | 'b' | 'h' => some [.name .shortMonth]
  | 'c' =>
    some ([.name .shortWeekday, .space, .name .shortMonth, .space, .number .day, .space] ++ clock ++
      [.space, .number .year])
  | 'd' | 'e' => some [.number .day]
  | 'f' => some [.number .nanosecond]
  | 'g' => some [.number .isoYearOfCentury]
  | 'j' => some [.number .ordinal]
  | 'm' => some [.number .month]
  | 'n' | 't' => some [.space]
  | 'q' => some [.number .quarter]
  | 'r' =>
    some [.number .hour12, .literal [':'], .number .minute, .literal [':'], .number .second,
      .space, .name .halfDay]
  | 's' => some [.number .timestamp]
  | 'u' => some [.number .dayFromMonday]
  | 'v' =>
    some [.number .day, .literal ['-'], .name .shortMonth, .literal ['-'], .number .year]
  | 'w' => some [.number .daysFromSunday]
  | 'y' => some [.number .yearOfCentury]
  | 'z' => some [.name .zoneOffset]
  | '+' => some [.name .timestampText]
  | '%' => some [.literal ['%']]
  | _ => none

/-- The items of the directive after a percent sign, and what follows it. -/
def directive : List Char → List Item × List Char
  | '#' :: 'z' :: rest => ([.name .looseZoneOffset], rest)
  | ':' :: ':' :: ':' :: 'z' :: rest => ([.name .zoneOffset], rest)
  | ':' :: ':' :: 'z' :: rest => ([.name .zoneOffset], rest)
  | ':' :: 'z' :: rest => ([.name .zoneOffset], rest)
  | '.' :: '3' :: 'f' :: rest => ([.name (.fractionOf 3)], rest)
  | '.' :: '6' :: 'f' :: rest => ([.name (.fractionOf 6)], rest)
  | '.' :: '9' :: 'f' :: rest => ([.name (.fractionOf 9)], rest)
  | '.' :: 'f' :: rest => ([.name .fraction], rest)
  | '3' :: 'f' :: rest => ([.name (.bareFraction 3)], rest)
  | '6' :: 'f' :: rest => ([.name (.bareFraction 6)], rest)
  | '9' :: 'f' :: rest => ([.name (.bareFraction 9)], rest)
  | c :: rest =>
    if c = '-' ∨ c = '0' ∨ c = '_' then
      -- a padding mark is allowed before a single number only
      match rest with
      | letter :: rest =>
        match ofLetter? letter with
        | some [.number field] => ([.number field], rest)
        | _ => ([.malformed], rest)
      | [] => ([.malformed], [])
    else match ofLetter? c with
      | some items => (items, rest)
      | none => ([.malformed], rest)
  | [] => ([.malformed], [])

def literalOf (pending : List Char) : List Item :=
  if pending.isEmpty then [] else [.literal pending.reverse]

/-- Reads a template; `pending` is the literal text before it in reverse order. -/
def readFrom : Nat → List Char → List Char → List Item
  | 0, pending, _ => literalOf pending
  | _, pending, [] => literalOf pending
  | fuel + 1, pending, c :: rest =>
    if c = '%' then
      let (items, rest) := directive rest
      literalOf pending ++ items ++ readFrom fuel [] rest
    else if Text.isBlank c then literalOf pending ++ .space :: readFrom fuel [] rest
    else readFrom fuel (c :: pending) rest

def ofTemplate (template : String) : List Item :=
  readFrom (template.length + 1) [] template.toList

end Item

end SqlVerbs.Calendar
