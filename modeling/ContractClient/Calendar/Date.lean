/-!
# Dates

A *date* is a day of the Gregorian calendar, which is taken to hold for all
times.  The years go from 1 to 9999.

Days are counted by `dayNumber`, from the first of March of year zero.  So the
day that is added in a leap year is the last of a year.  `ofDayNumber` turns the
count back into a date.  A date may also be given by a week of a year and a day
of that week.  The first week of a year is the one with its first Thursday.
-/

namespace ContractClient

/-- A day of the calendar. -/
structure Date where
  /-- The year. -/
  year : Nat
  /-- The month, from one. -/
  month : Nat
  /-- The day of the month, from one. -/
  day : Nat
  deriving DecidableEq, Repr, Inhabited

namespace Date

/-! ## Years and months -/

/-- The first year. -/
def minYear : Nat := 1

/-- The last year. -/
def maxYear : Nat := 9999

/-- Whether a year has a day more. -/
def isLeap (year : Nat) : Bool := year % 4 == 0 && (year % 100 != 0 || year % 400 == 0)

/-- The number of days in a month. -/
def daysIn (year month : Nat) : Nat :=
  if month = 2 then if isLeap year then 29 else 28
  else if month ∈ [4, 6, 9, 11] then 30
  else 31

/-! ## Counting days -/

/-- The number of days from the first of March of year zero to a date. -/
def dayNumber (d : Date) : Nat :=
  let y := if d.month ≤ 2 then d.year - 1 else d.year
  let m := if d.month ≤ 2 then d.month + 9 else d.month - 3
  365 * y + y / 4 - y / 100 + y / 400 + (153 * m + 2) / 5 + d.day - 1

/-- The date of a day number. -/
def ofDayNumber (n : Nat) : Date :=
  let cycle := n / 146097
  let inCycle := n % 146097
  let year := (inCycle - inCycle / 1460 + inCycle / 36524 - inCycle / 146096) / 365
  let inYear := inCycle - (365 * year + year / 4 - year / 100)
  let m := (5 * inYear + 2) / 153
  let month := if m < 10 then m + 3 else m - 9
  { year := 400 * cycle + year + (if month ≤ 2 then 1 else 0)
    month
    day := inYear - (153 * m + 2) / 5 + 1 }

/-- The day number of the first day of the first year. -/
def firstDay : Nat := dayNumber ⟨minYear, 1, 1⟩

/-- The day number of the last day of the last year. -/
def lastDay : Nat := dayNumber ⟨maxYear, 12, 31⟩

/-! ## Weeks -/

/-- The position of a date in its week.  Monday is zero. -/
def weekday (d : Date) : Nat := (d.dayNumber + 2) % 7

/-- Whether a year has 53 weeks: those that start on a Thursday, and leap years
that start on a Wednesday. -/
def hasLongCount (year : Nat) : Bool :=
  let first := weekday ⟨year, 1, 1⟩
  first == 3 || (first == 2 && isLeap year)

/-- The day number of a day of a week.  The days of a week are counted from
one. -/
def weekDayNumber (year week day : Nat) : Nat :=
  let newYear : Date := ⟨year, 1, 1⟩
  let monday := newYear.dayNumber - newYear.weekday + (if 3 < newYear.weekday then 7 else 0)
  monday + 7 * (week - 1) + (day - 1)

/-! ## Writing -/

/-- A number with zeros in front up to a width. -/
def padded (width n : Nat) : String :=
  let digits := toString n
  String.ofList (List.replicate (width - digits.length) '0') ++ digits

/-- A date as year, month and day with hyphens between them. -/
def render (d : Date) : String :=
  padded 4 d.year ++ "-" ++ padded 2 d.month ++ "-" ++ padded 2 d.day

/-- The names of the days of the week. -/
def weekdayNames : List String := ["Mon", "Tue", "Wed", "Thu", "Fri", "Sat", "Sun"]

/-- The names of the months. -/
def monthNames : List String :=
  ["Jan", "Feb", "Mar", "Apr", "May", "Jun", "Jul", "Aug", "Sep", "Oct", "Nov", "Dec"]

end Date

end ContractClient
