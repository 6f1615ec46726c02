/-!
# Dates

The proleptic Gregorian calendar. Days are counted from the first day of year 1, which is day 1 and
a Monday. Years run from -262143 to 262142.
-/

namespace SqlVerbs.Calendar

/-- A day of the calendar. -/
structure Date where
  year : Int
  month : Nat
  day : Nat
deriving DecidableEq, Repr

/-- A day and a time of the day. -/
structure DateTime where
  date : Date
  hour : Nat
  minute : Nat
  second : Nat
deriving DecidableEq, Repr

def minYear : Int := -262143

def maxYear : Int := 262142

def isLeapYear (year : Int) : Bool :=
  year % 4 = 0 && (year % 100 ≠ 0 || year % 400 = 0)

def daysInYear (year : Int) : Nat := if isLeapYear year then 366 else 365

def daysInMonth (year : Int) (month : Nat) : Nat :=
  if month = 2 then (if isLeapYear year then 29 else 28)
  else if month = 4 ∨ month = 6 ∨ month = 9 ∨ month = 11 then 30
  else 31

/-- Days of the year before the first day of a month. -/
def daysBeforeMonth (year : Int) (month : Nat) : Nat :=
  (List.range (month - 1)).foldl (fun days m => days + daysInMonth year (m + 1)) 0

/-- Days before the first day of a year. -/
def daysBeforeYear (year : Int) : Int :=
  let past := year - 1
  365 * past + past / 4 - past / 100 + past / 400

namespace Date

/-- The date with these parts, if there is one. -/
def ofParts? (year : Int) (month day : Nat) : Option Date :=
  if minYear ≤ year ∧ year ≤ maxYear ∧ 1 ≤ month ∧ month ≤ 12 ∧ 1 ≤ day ∧
      day ≤ daysInMonth year month then some ⟨year, month, day⟩
  else none

/-- The number of the day in its year, from 1. -/
def ordinal (d : Date) : Nat := daysBeforeMonth d.year d.month + d.day

/-- The number of the day from the start of the calendar. -/
def dayNumber (d : Date) : Int := daysBeforeYear d.year + d.ordinal

/-- Finds the month of a day of the year among the months from `month` on. -/
def monthOf (year : Int) : List Nat → Nat → Nat × Nat
  | [], day => (12, day)
  | month :: later, day =>
    if day ≤ daysInMonth year month then (month, day)
    else monthOf year later (day - daysInMonth year month)

/-- The date with a number in its year. -/
def ofOrdinal? (year : Int) (ordinal : Nat) : Option Date :=
  if minYear ≤ year ∧ year ≤ maxYear ∧ 1 ≤ ordinal ∧ ordinal ≤ daysInYear year then
    -- What is left after eleven months is in December.
    let (month, day) := monthOf year [1, 2, 3, 4, 5, 6, 7, 8, 9, 10, 11] ordinal
    some ⟨year, month, day⟩
  else none

/-- The year of a day number: the estimate from the mean length of a year is off by at most one. -/
def yearOf (number : Int) : Int :=
  let estimate := (number - 1) * 400 / 146097 + 1
  if daysBeforeYear (estimate + 1) < number then estimate + 1
  else if number ≤ daysBeforeYear estimate then estimate - 1
  else estimate

/-- The date with a number from the start of the calendar. -/
def ofDayNumber? (number : Int) : Option Date :=
  let year := yearOf number
  ofOrdinal? year (number - daysBeforeYear year).toNat

/-- The day of the week, from 0 for Monday. -/
def weekday (d : Date) : Nat := ((d.dayNumber - 1) % 7).toNat

/-- The year and the week of the ISO calendar: a week belongs to the year of its Thursday. -/
def isoWeek (d : Date) : Int × Nat :=
  let thursday := d.dayNumber + 3 - d.weekday
  let year := yearOf thursday
  (year, ((thursday - daysBeforeYear year - 1) / 7 + 1).toNat)

/-- Weeks of the year, counted from the first `start` of the year. -/
def weeksFrom (d : Date) (start : Nat) : Int :=
  ((d.ordinal : Int) - ((d.weekday + 7 - start) % 7 : Nat) + 6) / 7

def quarter (d : Date) : Nat := (d.month - 1) / 3 + 1

/-- The number with leading zeros. -/
def padded (width n : Nat) : String :=
  let digits := Nat.toDigits 10 n
  String.ofList (List.replicate (width - digits.length) '0' ++ digits)

/-- A year in four digits; outside those it has a sign. -/
def yearText (year : Int) : String :=
  if 0 ≤ year ∧ year ≤ 9999 then padded 4 year.toNat
  else (if year < 0 then "-" else "+") ++ padded 4 year.natAbs

/-- Year, month and day with dashes between them. -/
def text (d : Date) : String := yearText d.year ++ "-" ++ padded 2 d.month ++ "-" ++ padded 2 d.day

end Date

namespace DateTime

/-- The date and the time of the day with colons between its parts. -/
def text (t : DateTime) : String :=
  t.date.text ++ " " ++ Date.padded 2 t.hour ++ ":" ++ Date.padded 2 t.minute ++ ":" ++
    Date.padded 2 t.second

end DateTime

end SqlVerbs.Calendar
