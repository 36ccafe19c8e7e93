import ContractClient.Calendar.Date

/-!
# Moments

Generated files say when they were generated.  A *moment* is a date and a time of
day on some clock.  It may say how far the clock is ahead of universal time.  A
moment that does not say so is on the local clock, which is taken to show
universal time (`zoned`).

`stamp` writes a moment in the form of mail headers, such as
`Tue, 02 Jan 2024 03:04:05 +0000`.  A fraction of a second is dropped.

Moments are bounded by the first and the last year.  A moment within a day of the
first one cannot be given a clock, and a moment that is outside of the years on
the clock of universal time does not exist there.
-/

namespace ContractClient

/-- A time of day. -/
structure TimeOfDay where
  /-- The hour. -/
  hour : Nat := 0
  /-- The minute. -/
  minute : Nat := 0
  /-- The second. -/
  second : Nat := 0
  /-- The microsecond. -/
  micro : Nat := 0
  deriving DecidableEq, Repr, Inhabited

/-- A date and a time of day on some clock. -/
structure Moment where
  /-- The date. -/
  date : Date
  /-- The time of day. -/
  time : TimeOfDay := {}
  /-- How far the clock is ahead of universal time, in microseconds. -/
  offset : Option Int := none
  deriving DecidableEq, Repr, Inhabited

/-! ## Faults -/

/-- Why there is no moment. -/
inductive MomentFault where
  /-- The text has not the form of a moment. -/
  | malformed (text : String)
  /-- There is no such year. -/
  | year (n : Nat)
  /-- There is no such month. -/
  | month
  /-- There is no such day in the month. -/
  | day
  /-- There is no such hour. -/
  | hour
  /-- There is no such minute. -/
  | minute
  /-- There is no such second. -/
  | second
  /-- The clock is a day or more apart from universal time. -/
  | offset (micros : Int)
  /-- The moment is outside of the years on another clock. -/
  | beyond
  deriving DecidableEq, Repr

namespace Moment

/-- Microseconds in a second. -/
def perSecond : Nat := 1000000

/-- Microseconds in a day. -/
def perDay : Nat := 86400 * perSecond

/-- A span of time as days, seconds and microseconds, of which only the days are
negative. -/
def renderSpan (micros : Int) : String :=
  let days := Int.fdiv micros perDay
  let rest := (Int.fmod micros perDay).toNat
  let seconds := rest / perSecond
  let parts :=
    (if days = 0 then [] else ["days=" ++ toString days]) ++
      (if seconds = 0 then [] else ["seconds=" ++ toString seconds]) ++
      (if rest % perSecond = 0 then [] else ["microseconds=" ++ toString (rest % perSecond)])
  "datetime.timedelta(" ++ (if parts.isEmpty then "0" else ", ".intercalate parts) ++ ")"

end Moment

/-- The text of a fault. -/
def MomentFault.message : MomentFault → String
  | malformed shown => "Invalid isoformat string: " ++ shown
  | year n => "year " ++ toString n ++ " is out of range"
  | month => "month must be in 1..12"
  | day => "day is out of range for month"
  | hour => "hour must be in 0..23"
  | minute => "minute must be in 0..59"
  | second => "second must be in 0..59"
  | offset micros =>
    "offset must be a timedelta strictly between -timedelta(hours=24) and " ++
      "timedelta(hours=24), not " ++ Moment.renderSpan micros ++ "."
  | beyond => "date value out of range"

namespace TimeOfDay

/-- The microseconds since midnight. -/
def micros (t : TimeOfDay) : Nat :=
  ((t.hour * 60 + t.minute) * 60 + t.second) * Moment.perSecond + t.micro

/-- The time of day some microseconds after midnight. -/
def ofMicros (n : Nat) : TimeOfDay :=
  let seconds := n / Moment.perSecond
  { hour := seconds / 3600
    minute := seconds / 60 % 60
    second := seconds % 60
    micro := n % Moment.perSecond }

/-- A time of day with its parts in range, or the first part that is not. -/
def check (t : TimeOfDay) : Except MomentFault TimeOfDay :=
  if 23 < t.hour then .error .hour
  else if 59 < t.minute then .error .minute
  else if 59 < t.second then .error .second
  else .ok t

/-- Hours, minutes and seconds with colons between them, and a fraction of six
digits if there is one. -/
def render (t : TimeOfDay) : String :=
  Date.padded 2 t.hour ++ ":" ++ Date.padded 2 t.minute ++ ":" ++ Date.padded 2 t.second ++
    (if t.micro = 0 then "" else "." ++ Date.padded 6 t.micro)

end TimeOfDay

/-- A date with its parts in range, or the first part that is not. -/
def Date.check (d : Date) : Except MomentFault Date :=
  if d.year < minYear ∨ maxYear < d.year then .error (.year d.year)
  else if d.month < 1 ∨ 12 < d.month then .error .month
  else if d.day < 1 ∨ daysIn d.year d.month < d.day then .error .day
  else .ok d

namespace Moment

/-! ## Clocks -/

/-- The microseconds from the first of March of year zero to what the clock
shows. -/
def reading (m : Moment) : Nat := m.date.dayNumber * perDay + m.time.micros

/-- The moment that a clock shows, by the microseconds since the first of March
of year zero. -/
def ofReading (n : Nat) (offset : Option Int) : Moment :=
  { date := .ofDayNumber (n / perDay), time := .ofMicros (n % perDay), offset }

/-- The moment some seconds after the start of the year 1970, on the clock of
universal time. -/
def ofEpoch (seconds : Int) : Moment :=
  ofReading (((Date.dayNumber ⟨1970, 1, 1⟩ : Int) * perDay + seconds * perSecond).toNat) (some 0)

/-- A moment with a clock.  One without is on the local clock, which shows universal
time, unless it is within the first day. -/
def zoned (m : Moment) : Except MomentFault Moment :=
  match m.offset with
  | some _ => .ok m
  | none =>
    if m.date.dayNumber ≤ Date.firstDay then .error (.year 0)
    else .ok { m with offset := some 0 }

/-- The same moment on the clock of universal time. -/
def universal (m : Moment) : Except MomentFault Moment :=
  match m.offset with
  | none => m.zoned
  | some ahead =>
    let n : Int := m.reading - ahead
    if n < Date.firstDay * perDay ∨ (Date.lastDay + 1) * perDay ≤ n then .error .beyond
    else .ok (ofReading n.toNat (some 0))

/-! ## Writing -/

/-- The distance of a clock from universal time: hours and minutes, and seconds
and their fraction only if there are any. -/
def renderOffset (mark : String) (offset : Int) : String :=
  let micros := offset.natAbs
  let seconds := micros / perSecond
  let fraction := micros % perSecond
  (if offset < 0 then "-" else "+") ++ Date.padded 2 (seconds / 3600) ++ mark ++
    Date.padded 2 (seconds / 60 % 60) ++
    (if seconds % 60 = 0 ∧ fraction = 0 then "" else mark ++ Date.padded 2 (seconds % 60)) ++
    (if fraction = 0 then "" else "." ++ Date.padded 6 fraction)

/-- The moment in the form of mail headers.  A moment without a clock is stamped as
`zoned` takes it. -/
def stamp (m : Moment) : String :=
  (Date.weekdayNames[m.date.weekday]?).getD "" ++ ", " ++ Date.padded 2 m.date.day ++ " " ++
    (Date.monthNames[m.date.month - 1]?).getD "" ++ " " ++ Date.padded 4 m.date.year ++ " " ++
    { m.time with micro := 0 }.render ++ " " ++ renderOffset "" (m.offset.getD 0)

/-- The moment as date, time of day and clock, with a mark between the first
two. -/
def render (mark : String) (m : Moment) : String :=
  m.date.render ++ mark ++ m.time.render ++ (m.offset.map (renderOffset ":")).getD ""

end Moment

end ContractClient
