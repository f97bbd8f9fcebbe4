import Readiness.Text.Basic

/-!
# The time of a report

A moment, given in seconds since the start of 1970, as a day and a minute of the common calendar.
-/

namespace Readiness.Report

/-- A day of the common calendar. -/
structure Day where
  year : Int
  month : Nat
  day : Nat

/-- The day that comes so many days after the start of 1970. Years are counted from March, so that
the day of a leap year stands at its end, and in eras of 400 years, which all have the same
number of days. -/
def Day.ofCount (days : Nat) : Day :=
  let z := days + 719468
  let era := z / 146097
  let inEra := z % 146097
  let year := (inEra - inEra / 1460 + inEra / 36524 - inEra / 146096) / 365
  let inYear := inEra - (365 * year + year / 4 - year / 100)
  let part := (5 * inYear + 2) / 153
  let month := if part < 10 then part + 3 else part - 9
  ⟨(year + era * 400 : Nat) + (if month ≤ 2 then 1 else 0), month, inYear - (153 * part + 2) / 5 + 1⟩

/-- A number in two digits. -/
def twoDigits (n : Nat) : Text := if n < 10 then "0" ++ toString n else toString n

/-- The day and the minute of a moment. -/
def minuteText (seconds : Nat) : Text :=
  let day := Day.ofCount (seconds / 86400)
  let minutes := seconds % 86400 / 60
  toString day.year ++ "-" ++ twoDigits day.month ++ "-" ++ twoDigits day.day ++ " " ++
    twoDigits (minutes / 60) ++ ":" ++ twoDigits (minutes % 60) ++ " UTC"

end Readiness.Report
