/-!
# Dates in headers

A point in time as the calendar shows it, in the form that cookies use.  Days are counted from the
first of March of the year zero, so that the leap day is the last day of its year.
-/

namespace AntiForgery
namespace Http

/-- A day of the calendar. -/
structure Date where
  /-- The year. -/
  year : Int
  /-- The month, from one. -/
  month : Nat
  /-- The day of the month, from one. -/
  day : Nat
  deriving DecidableEq, Repr

namespace Date

/-- The number of days in four hundred years. -/
def daysPerCycle : Int := 146097

/-- The number of days from the first of March of the year zero to the start of 1970. -/
def epoch : Int := 719468

/-- The day that is so many days after the first one of 1970. -/
def ofDays (days : Int) : Date :=
  let shifted := days + epoch
  let cycle := Int.fdiv shifted daysPerCycle
  let inCycle := (Int.fmod shifted daysPerCycle).toNat
  let yearInCycle :=
    (inCycle - inCycle / 1460 + inCycle / 36524 - inCycle / 146096) / 365
  let inYear := inCycle - (365 * yearInCycle + yearInCycle / 4 - yearInCycle / 100)
  let fromMarch := (5 * inYear + 2) / 153
  let month := if fromMarch < 10 then fromMarch + 3 else fromMarch - 9
  { year := 400 * cycle + yearInCycle + (if month ≤ 2 then 1 else 0)
    month
    day := inYear - (153 * fromMarch + 2) / 5 + 1 }

/-- The short names of the months. -/
def monthNames : List String :=
  ["Jan", "Feb", "Mar", "Apr", "May", "Jun", "Jul", "Aug", "Sep", "Oct", "Nov", "Dec"]

/-- The short names of the days of the week, from the one on which 1970 began. -/
def weekdayNames : List String := ["Thu", "Fri", "Sat", "Sun", "Mon", "Tue", "Wed"]

/-- Two digits. -/
def twoDigits (number : Nat) : String :=
  if number < 10 then "0" ++ toString number else toString number

/-- The number of seconds in a day. -/
def secondsPerDay : Int := 86400

/-- A point in time, in seconds from the start of 1970, as headers show it. -/
def header (seconds : Int) : String :=
  let days := Int.fdiv seconds secondsPerDay
  let inDay := (Int.fmod seconds secondsPerDay).toNat
  let date := ofDays days
  weekdayNames.getD (Int.fmod days 7).toNat "" ++ ", " ++ twoDigits date.day ++ " " ++
    monthNames.getD (date.month - 1) "" ++ " " ++ toString date.year ++ " " ++
    twoDigits (inDay / 3600) ++ ":" ++ twoDigits (inDay / 60 % 60) ++ ":" ++
    twoDigits (inDay % 60) ++ " GMT"

end Date
end Http
end AntiForgery
