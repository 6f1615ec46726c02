import SqlVerbs.Calendar.Reader
import SqlVerbs.Local.Coercion

/-!
# Dates

A date is made from a date, a string or a number of days since 1970.
-/

namespace SqlVerbs.Local

open Calendar (Date)

/-- The number of the first day of 1970. -/
def epochDay : Int := 719163

/-- The template of dates when none is given. -/
def defaultTemplate : String := "%Y-%m-%d"

/-- The date so many days after the first day of 1970; a fraction of a day does not count. -/
def dateOfDays (days : Float) : Except Reason Date :=
  if days.isNaN then .error .missingDate
  else
    let number := (Double.toInt64 (Double.floor days)).toInt + epochDay
    -- The days of the calendar are counted in 32 bits, with a year to spare above.
    if -2147483648 ≤ number ∧ number ≤ 2147483647 - 365 then
      match Date.ofDayNumber? number with
      | some d => .ok d
      | none => .error .dateOutOfRange
    else .error .dateOutOfRange

/-- Makes a date of a value. -/
def asDate (x : Value) (named : Bindings Value) : Except Reason Value := do
  match x with
  | .date _ => return x
  | .dateTime t => return .date t.date
  | _ =>
    match ← x.literals with
    | [.string (some s)] =>
      let template ← match Bindings.get? named "format" with
        | some f => scalarText f "format"
        | none => pure defaultTemplate
      match Date.ofText s template with
      | .ok d => return .date d
      | .error failure => throw (.badDate failure)
    | [.integer (some i)] => return .date (← dateOfDays (Double.ofInt64 i))
    | [.double (some d)] => return .date (← dateOfDays d)
    | [.integer none] | [.double none] => throw .missingDate
    | _ => throw .notOneDate

end SqlVerbs.Local
