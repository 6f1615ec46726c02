import SqlVerbs.Calendar.Date

/-!
# Dates from fields

The fields that a text has given for a date, and the date they determine. Fields that are given
twice have to agree, and so have all fields with the date that is found.
-/

namespace SqlVerbs.Calendar

/-- Why a text is no date. -/
inductive DateFailure where
  | outOfRange
  | impossible
  | notEnough
  | invalid
  | tooShort
  | tooLong
  | badTemplate
deriving DecidableEq, Repr

namespace DateFailure

def message : DateFailure → String
  | .outOfRange => "input is out of range"
  | .impossible => "no possible date and time matching input"
  | .notEnough => "input is not enough for unique date and time"
  | .invalid => "input contains invalid characters"
  | .tooShort => "premature end of input"
  | .tooLong => "trailing input"
  | .badTemplate => "bad or unsupported format string"

end DateFailure

/-- What is known of a date and time. -/
structure Fields where
  year : Option Int := none
  century : Option Int := none
  yearOfCentury : Option Int := none
  isoYear : Option Int := none
  isoYearOfCentury : Option Int := none
  quarter : Option Int := none
  month : Option Int := none
  day : Option Int := none
  weekFromSunday : Option Int := none
  weekFromMonday : Option Int := none
  isoWeek : Option Int := none
  /-- From 0 for Monday. -/
  weekday : Option Int := none
  ordinal : Option Int := none
  halfDay : Option Int := none
  hourOfHalfDay : Option Int := none
  minute : Option Int := none
  second : Option Int := none
  nanosecond : Option Int := none
  timestamp : Option Int := none
  offset : Option Int := none
deriving Repr

namespace Fields

/-- A field that is given again has to be the same. -/
def agree (old : Option Int) (value : Int) : Except DateFailure (Option Int) :=
  match old with
  | some known => if known = value then .ok (some value) else .error .impossible
  | none => .ok (some value)

/-- A field with a range of its own. -/
def agreeIn (low high : Int) (old : Option Int) (value : Int) :
    Except DateFailure (Option Int) :=
  if low ≤ value ∧ value ≤ high then agree old value else .error .outOfRange

/-- The full year from a year, a century and a year of the century. Two digits alone mean the years
from 1970 to 2069. -/
def resolveYear (year century rest : Option Int) : Except DateFailure (Option Int) :=
  match year, century, rest with
  | y, none, none => .ok y
  | some y, q, r =>
    if y < 0 then .error .impossible
    else if q.getD (y / 100) = y / 100 ∧ r.getD (y % 100) = y % 100 then .ok (some y)
    else .error .impossible
  | none, some q, some r =>
    if q * 100 + r ≤ 2147483647 then .ok (some (q * 100 + r)) else .error .outOfRange
  | none, none, some r => .ok (some (r + if r < 70 then 2000 else 1900))
  | none, some _, none => .error .notEnough

/-- Does a known field have this value? -/
def fits (field : Option Int) (value : Int) : Bool := field.getD value = value

/-- Do the parts of a year agree with it? Years before 0 have no century. -/
def centuryFits (century rest : Option Int) (year : Int) : Bool :=
  if 0 ≤ year then fits century (year / 100) && fits rest (year % 100)
  else century.isNone && rest.isNone

/-- Do year, month and day agree with a date? -/
def fitsMonthDay (f : Fields) (d : Date) : Bool :=
  fits f.year d.year && centuryFits f.century f.yearOfCentury d.year && fits f.month d.month &&
    fits f.day d.day

/-- Do ISO year, ISO week and weekday agree with a date? -/
def fitsIsoWeek (f : Fields) (d : Date) : Bool :=
  let (year, week) := d.isoWeek
  fits f.isoYear year && centuryFits none f.isoYearOfCentury year && fits f.isoWeek week &&
    fits f.weekday d.weekday

/-- Do the day of the year and the other weeks agree with a date? -/
def fitsOrdinal (f : Fields) (d : Date) : Bool :=
  fits f.ordinal d.ordinal && fits f.weekFromSunday (d.weeksFrom 6) &&
    fits f.weekFromMonday (d.weeksFrom 0)

/-- The date in a week of a year, where weeks begin on `start`. -/
def dateOfWeek (year week weekday start : Int) : Except DateFailure Date :=
  match Date.ofOrdinal? year 1 with
  | none => .error .outOfRange
  | some first =>
    let firstWeek := 1 + (start - first.weekday) % 7
    let ordinal := firstWeek + (week - 1) * 7 + (weekday - start) % 7
    if ordinal ≤ 0 then .error .impossible
    else match Date.ofOrdinal? year ordinal.toNat with
      | some d => .ok d
      | none => .error .impossible

/-- The date of a day in a week of the ISO calendar. The first week of a year is the one with the
fourth of January. The year may lie outside the calendar as long as the day does not. -/
def dateOfIsoWeek? (year week weekday : Int) : Option Date :=
  let fourth := daysBeforeYear year + 4
  let monday := fourth - (fourth - 1) % 7
  let thursday := monday + (week - 1) * 7 + 3
  if week < 1 ∨ Date.yearOf thursday ≠ year then none
  else Date.ofDayNumber? (monday + (week - 1) * 7 + weekday)

/-- A date, or out of range. -/
def inRange (d : Option Date) : Except DateFailure Date :=
  match d with
  | some d => .ok d
  | none => .error .outOfRange

/-- The date that the fields determine, and whether the other fields agree with it. -/
def candidate (f : Fields) (year isoYear : Option Int) : Except DateFailure (Date × Bool) := do
  match year, isoYear with
  | some y, _ =>
    if let (some month, some day) := (f.month, f.day) then
      let d ← inRange (Date.ofParts? y month.toNat day.toNat)
      return (d, f.fitsIsoWeek d && f.fitsOrdinal d)
    if let some ordinal := f.ordinal then
      let d ← inRange (Date.ofOrdinal? y ordinal.toNat)
      return (d, f.fitsMonthDay d && f.fitsIsoWeek d && f.fitsOrdinal d)
    if let (some week, some weekday) := (f.weekFromSunday, f.weekday) then
      let d ← dateOfWeek y week weekday 6
      return (d, f.fitsMonthDay d && f.fitsIsoWeek d && f.fitsOrdinal d)
    if let (some week, some weekday) := (f.weekFromMonday, f.weekday) then
      let d ← dateOfWeek y week weekday 0
      return (d, f.fitsMonthDay d && f.fitsIsoWeek d && f.fitsOrdinal d)
  | none, _ => pure ()
  if let (some y, some week, some weekday) := (isoYear, f.isoWeek, f.weekday) then
    let d ← inRange (dateOfIsoWeek? y week weekday)
    return (d, f.fitsMonthDay d && f.fitsOrdinal d)
  throw .notEnough

/-- The date of the fields. -/
def toDate (f : Fields) : Except DateFailure Date := do
  let year ← resolveYear f.year f.century f.yearOfCentury
  let isoYear ← resolveYear f.isoYear none f.isoYearOfCentury
  let (d, agrees) ← f.candidate year isoYear
  if agrees && fits f.quarter d.quarter then return d else throw .impossible

end Fields

end SqlVerbs.Calendar
