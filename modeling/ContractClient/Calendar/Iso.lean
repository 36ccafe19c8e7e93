import ContractClient.Calendar.Moment
import ContractClient.Text.Numeral
import ContractClient.Text.Quoted

/-!
# Reading moments

A moment is read from a text in the form of ISO 8601.  It is a date alone, or a
date and a time of day with any one character between them.

* A date is `2024-01-02` or `20240102`.  By weeks it is `2024-W01-2` or
  `2024W012`, where the day may be missing and is then the first one.
* A time of day has hours, and may go on with minutes, seconds and a fraction of a
  second.  Colons divide its parts, or nothing does.
* Behind the time of day there may be the distance of the clock from universal
  time.  It is the letter `Z`, or a sign and a span in the form of a time of day.

How long the date is follows from its fifth and sixth character (`dateLength?`).
In front of the sign of a distance one character may stand that is not looked at.
-/

namespace ContractClient.Moment

/-! ## Digits -/

/-- Reads a number of exactly `width` digits. -/
def number? (width : Nat) (cs : List Char) : Option (Nat × List Char) :=
  let digits := cs.take width
  if digits.length = width ∧ digits.all Char.isDigit then
    (Text.numeral? digits).map fun n => (n, cs.drop width)
  else none

/-- Whether there is a digit at a position. -/
def isDigitAt (cs : List Char) (i : Nat) : Bool := (cs[i]?.map Char.isDigit).getD false

/-! ## Dates -/

/-- The number of characters in the date that a text starts with. -/
def dateLength? (cs : List Char) : Option Nat :=
  if cs.length < 7 then none
  else if cs.length = 7 then some 7
  else if cs[4]? = some '-' then
    if cs[5]? ≠ some 'W' then some 10
    else if cs[8]? ≠ some '-' then some 8
    else if cs.length = 9 then none
    else if isDigitAt cs 10 then some 8 else some 10
  else if cs[4]? = some 'W' then
    let ending := 7 + ((cs.drop 7).takeWhile Char.isDigit).length
    if ending < 9 then some ending else if ending % 2 = 0 then some 7 else some 8
  else some 8

/-- The day of a week, in a week of a year.  A week of year zero is before the
first month. -/
def ofWeek? (year week day : Nat) : Option Date :=
  if week = 0 ∨ 53 < week ∨ (week = 53 ∧ !Date.hasLongCount year) then none
  else if day = 0 ∨ 7 < day then none
  else if year = 0 then some ⟨1, 0, 1⟩
  else some (.ofDayNumber (Date.weekDayNumber year week day))

/-- Reads the week and the day of a date. -/
def weekDate? (hyphens : Bool) (year : Nat) (cs : List Char) : Option Date := do
  let (week, rest) ← number? 2 cs
  match hyphens, rest with
  | _, [] => ofWeek? year week 1
  | true, '-' :: rest =>
    let (day, _) ← number? 1 rest
    ofWeek? year week day
  | true, _ => none
  | false, rest =>
    let (day, _) ← number? 1 rest
    ofWeek? year week day

/-- Reads the month and the day of a date. -/
def monthDate? (hyphens : Bool) (year : Nat) (cs : List Char) : Option Date := do
  let (month, rest) ← number? 2 cs
  let rest ← if hyphens then (if rest.head? = some '-' then some (rest.drop 1) else none) else rest
  let (day, rest) ← number? 2 rest
  if rest.isEmpty then some ⟨year, month, day⟩ else none

/-- Reads a date. -/
def date? (cs : List Char) : Option Date := do
  let (year, rest) ← number? 4 cs
  let hyphens := rest.head? = some '-'
  let rest := if hyphens then rest.drop 1 else rest
  match rest with
  | 'W' :: rest => weekDate? hyphens year rest
  | rest => monthDate? hyphens year rest

/-! ## Times of day -/

/-- The numbers of a span, and whether something follows it. -/
structure Span where
  /-- The numbers. -/
  time : TimeOfDay
  /-- Whether the text goes on. -/
  goesOn : Bool

/-- Reads a fraction of a second, of which the first `size` characters belong to
the span.  More than six digits are cut off. -/
def fraction? (t : TimeOfDay) (size : Nat) (cs : List Char) : Option Span := do
  let width := min size 6
  let (n, rest) ← number? width cs
  return { time := { t with micro := n * Nat.pow 10 (6 - width) }
           goesOn := !(rest.dropWhile Char.isDigit).isEmpty }

/-- A time of day with one number more, for the part at a position. -/
def setPart (t : TimeOfDay) (part n : Nat) : TimeOfDay :=
  match part with
  | 0 => { t with hour := n }
  | 1 => { t with minute := n }
  | _ => { t with second := n }

/-- Reads the parts of a span from the one at position `part` on.  `left` counts
the parts that may follow, `size` the characters of the span.  The text may be
longer. -/
def parts? (colons : Bool) (t : TimeOfDay) :
    (left part size : Nat) → List Char → Option Span
  | 0, _, size, cs => fraction? t size cs
  | left + 1, part, size, cs => do
    let (n, rest) ← number? 2 cs
    let t := setPart t part n
    let next := rest.head?
    let colons := if part = 0 then next == some ':' else colons
    if size ≤ 3 then return { time := t, goesOn := next.isSome }
    if colons ∧ next = some ':' then parts? colons t left (part + 1) (size - 3) (rest.drop 1)
    else if next = some '.' ∨ next = some ',' then fraction? t (size - 3) (rest.drop 1)
    else if colons then none
    else parts? colons t left (part + 1) (size - 2) rest

/-- Reads a span of so many characters. -/
def span? (size : Nat) (cs : List Char) : Option Span := parts? true {} 3 0 size cs

/-- Whether a character starts the distance of a clock. -/
def isOffsetMark (c : Char) : Bool := c == '+' || c == '-' || c == 'Z'

/-- The distance of a clock, in microseconds.  One that has no whole seconds is
none. -/
def clockOffset (negative : Bool) (t : TimeOfDay) : Int :=
  if t.micros < perSecond then 0 else Text.signed negative t.micros

/-- Reads a time of day and the distance of its clock. -/
def clock? (cs : List Char) : Option (TimeOfDay × Option Int) := do
  let size := (cs.takeWhile (!isOffsetMark ·)).length
  let span ← span? size cs
  match cs.drop size with
  | [] => if span.goesOn then none else some (span.time, none)
  | ['Z'] => some (span.time, some 0)
  | mark :: rest =>
    if mark = 'Z' then none
    else
      let ahead ← span? rest.length rest
      if ahead.goesOn then none
      else some (span.time, some (clockOffset (mark == '-') ahead.time))

/-! ## Moments -/

/-- A moment with its parts in range, or the first part that is not. -/
def check (m : Moment) : Except MomentFault Moment := do
  let ahead := m.offset.getD 0
  if perDay ≤ ahead.natAbs then throw (.offset ahead)
  let date ← m.date.check
  let time ← m.time.check
  return { m with date, time }

/-- The parts of a text that has the form of a moment, in range or not. -/
def form? (cs : List Char) : Option Moment := do
  let size ← dateLength? cs
  let date ← date? (cs.take size)
  match cs.drop size with
  | [] => return { date }
  | _ :: rest =>
    let (time, offset) ← clock? rest
    return { date, time, offset }

/-- Reads a moment. -/
def ofIso (s : String) : Except MomentFault Moment :=
  match form? s.toList with
  | none => .error (.malformed (Text.quote s))
  | some m => m.check

end ContractClient.Moment
