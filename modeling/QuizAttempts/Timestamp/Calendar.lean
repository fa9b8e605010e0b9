/-
**The Gregorian calendar, extended to all years.**

A date is a year, a month and a day, and a moment is a number of seconds, so dates are numbered by
the days since the first of January 1970.  Counting a year from the first of March puts the leap day
at its end; then the months before a given one take a number of days that is linear in it, rounded
down, and four hundred years take 146097 days whatever they are.

Main definitions:

* `isLeapYear`, `daysInMonth`, `isDate` — which dates exist;
* `dayOfDate` — the number of a date;
* `dateOfDay` — the date of a number.
-/

set_option autoImplicit false

namespace QuizAttempts

/-- A date of the calendar; the year before year 1 is year 0. -/
structure Date where
  year : Int
  month : Nat
  day : Nat
  deriving DecidableEq

/-- The year has a twenty-ninth of February. -/
def isLeapYear (year : Int) : Bool :=
  year % 4 == 0 && (year % 100 != 0 || year % 400 == 0)

/-- The number of days of a month, none for a month that is not there. -/
def daysInMonth (year : Int) (month : Nat) : Nat :=
  match month with
  | 1 | 3 | 5 | 7 | 8 | 10 | 12 => 31
  | 4 | 6 | 9 | 11 => 30
  | 2 => if isLeapYear year then 29 else 28
  | _ => 0

namespace Date

/-- The date is in the calendar. -/
def isValid (date : Date) : Bool :=
  1 ≤ date.day && date.day ≤ daysInMonth date.year date.month

/-- The number of days of four hundred years. -/
def daysPerEra : Int := 146097

/-- The number of days from the first of March of year 0 to the first of January 1970. -/
def epochDay : Int := 719468

/-- **The number of a date**: days since the first of January 1970. -/
def toDay (date : Date) : Int :=
  let year := if date.month ≤ 2 then date.year - 1 else date.year
  let month := if date.month ≤ 2 then date.month + 9 else date.month - 3
  let yearOfEra := year % 400
  let dayOfYear : Int := (153 * month + 2) / 5 + date.day - 1
  let dayOfEra := yearOfEra * 365 + yearOfEra / 4 - yearOfEra / 100 + dayOfYear
  year / 400 * daysPerEra + dayOfEra - epochDay

/-- **The date of a number of days** since the first of January 1970. -/
def ofDay (day : Int) : Date :=
  let shifted := day + epochDay
  let dayOfEra := (shifted % daysPerEra).toNat
  let yearOfEra := (dayOfEra - dayOfEra / 1460 + dayOfEra / 36524 - dayOfEra / 146096) / 365
  let dayOfYear := dayOfEra - (365 * yearOfEra + yearOfEra / 4 - yearOfEra / 100)
  let month := (5 * dayOfYear + 2) / 153
  let year := (yearOfEra : Int) + shifted / daysPerEra * 400
  { year := if month < 10 then year else year + 1
    month := if month < 10 then month + 3 else month - 9
    day := dayOfYear - (153 * month + 2) / 5 + 1 }

end Date

end QuizAttempts
