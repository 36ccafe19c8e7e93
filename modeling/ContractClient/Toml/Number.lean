import ContractClient.Calendar.Moment
import ContractClient.Double
import ContractClient.Text.Lines
import ContractClient.Toml.Fault
import ContractClient.Value

/-!
# Numbers, dates and times of settings files

A value without quotes and brackets is a time of day, a date, a moment or a
number.

* A time of day starts with hours, minutes and seconds, two digits each with
  colons between them.  A fraction has three to six digits, which count as
  microseconds.  What follows is not looked at.
* A date has ten characters.  A moment has any other number of them.  Year,
  month, day and so on stand at fixed positions, and what divides them is not
  looked at, except that there is a hyphen somewhere behind the first character.
* A whole number may be written to the base two, eight or sixteen.
-/

namespace ContractClient.Toml

/-! ## Times of day -/

/-- The number that two digits stand for. -/
def twoDigits? : List Char → Option Nat
  | [a, b] => if a.isDigit ∧ b.isDigit then Text.numeral? [a, b] else none
  | _ => none

/-- The fraction of a second a text starts with, in microseconds. -/
def fractionOf : List Char → Nat
  | '.' :: rest =>
    let digits := (rest.takeWhile Char.isDigit).take 6
    if digits.length < 3 then 0 else (Text.numeral? digits).getD 0
  | _ => 0

/-- The time of day a text starts with, in range or not. -/
def timeForm? (cs : List Char) : Option TimeOfDay := do
  let hour ← twoDigits? (cs.take 2)
  let minute ← twoDigits? ((cs.drop 3).take 2)
  let second ← twoDigits? ((cs.drop 6).take 2)
  if cs[2]? = some ':' ∧ cs[5]? = some ':' then
    some { hour, minute, second, micro := fractionOf (cs.drop 8) }
  else none

/-! ## Dates and moments -/

/-- The whole number at some positions of a text. -/
def integerAt? (cs : List Char) (start size : Nat) : Option Int :=
  Text.integer? ((cs.drop start).take size)

/-- The distance of a clock, in microseconds, by its hours and minutes. -/
def offset? (cs : List Char) : Option Int :=
  let cs := if cs = ['Z'] then "+00:00".toList else cs
  do
    let hours ← integerAt? cs 1 2
    let minutes ← integerAt? cs 4 2
    let ahead := (hours * 60 + minutes) * 60 * Moment.perSecond
    return if cs.head? = some '-' then -ahead else ahead

/-- The fraction of a second that a text spells, in microseconds.  It is counted
by the number of its characters.  With more than six of them it is calculated
with numbers of double precision. -/
def fraction (cs : List Char) : Outcome (Option Int) :=
  match Text.integer? cs with
  | none => .ok none
  | some n =>
    if cs.length ≤ 6 then .ok (some (n * Nat.pow 10 (6 - cs.length)))
    else
      let x := Double.ofRatio (n < 0) n.natAbs 1
      if x.isFinite then .ok (x.mul (.ofDecimal false 1 (6 - cs.length))).truncate?
      else .error .overflow

/-- The fraction of a second and the text for the clock, behind the point of a
moment. -/
def splitClock (cs : List Char) : List Char × Option (List Char) :=
  let mark := if '+' ∈ cs then '+' else '-'
  if cs.getLast? = some 'Z' ∨ cs.getLast? = some 'z' then (cs.dropLast, some ['Z'])
  else if mark ∈ cs then (cs.takeWhile (· != mark), some (cs.dropWhile (· != mark)))
  else (cs, none)

/-- What follows the seconds of a moment: microseconds and the distance of the
clock.  What cannot be read counts as absent. -/
def momentTail (cs : List Char) : Outcome (Int × Option Int) :=
  match cs with
  | [] => .ok (0, none)
  | '.' :: rest =>
    let (digits, clock) := splitClock rest
    match clock, clock.bind offset? with
    | some _, none => .ok (0, none)
    | _, ahead => do
      match ← fraction digits with
      | none => return (0, none)
      | some micros => return (micros, ahead)
  | cs => .ok (0, offset? cs)

/-- A number that is not negative. -/
def natural? (n : Int) : Option Nat := if 0 ≤ n then some n.toNat else none

/-- The date that a text spells. -/
def date? (cs : List Char) : Option Date := do
  let year ← natural? (← integerAt? cs 0 4)
  let month ← natural? (← integerAt? cs 5 2)
  let day ← natural? (← integerAt? cs 8 2)
  (Date.check ⟨year, month, day⟩).toOption

/-- The moment that a text spells, with the given microseconds and clock. -/
def moment? (cs : List Char) (micros : Int) (offset : Option Int) : Option Moment := do
  let date ← date? cs
  let hour ← natural? (← integerAt? cs 11 2)
  let minute ← natural? (← integerAt? cs 14 2)
  let second ← natural? (← integerAt? cs 17 2)
  let micro ← natural? micros
  let time ← (TimeOfDay.check { hour, minute, second, micro }).toOption
  if micro < Moment.perSecond then some { date, time, offset } else none

/-- The date or the moment that a text spells, if it spells one. -/
def dateValue (cs : List Char) : Outcome (Option Value) := do
  let (micros, ahead) ← momentTail (cs.drop 19)
  if '-' ∉ cs.drop 1 then return none
  else if cs.length = 10 then return (date? cs).map .date
  else return (moment? cs micros ahead).map .moment

/-! ## Numbers -/

/-- Whether a number is written without needless zeros, and with underscores
between digits only. -/
def isStrict (cs : List Char) : Bool :=
  match Text.trim cs with
  | [] => false
  | [c] => c != '_'
  | c :: c' :: rest =>
    let n := c :: c' :: rest
    let isSigned := c == '+' || c == '-'
    let body := if isSigned then c' :: rest else n
    c != '_' && n.getLast? != some '_' &&
      !Text.hasWithin ['_', '.'] n && !Text.hasWithin ['.', '_'] n &&
      !(c == '0' && !(['.', 'o', 'b', 'x'].contains c')) &&
      !(isSigned && 1 < body.length && body.head? == some '0' && body[1]? != some '.') &&
      !Text.hasWithin ['_', '_'] body

/-- The base that a letter behind a zero stands for. -/
def base? (c : Char) : Option Nat :=
  match c.toLower with
  | 'x' => some 16
  | 'o' => some 8
  | 'b' => some 2
  | _ => none

/-- The value of a digit to some base. -/
def digitIn? (base : Nat) (c : Char) : Option Nat :=
  let value :=
    if c.isDigit then c.toNat - 48
    else if c.toLower.isLower then c.toLower.toNat - 87 else base
  if value < base then some value else none

/-- The number that digits to some base stand for.  There is at least one. -/
def numeralIn? (base : Nat) (cs : List Char) : Option Nat :=
  if cs.isEmpty then none
  else cs.foldlM (fun n c => (digitIn? base c).map (base * n + ·)) 0

/-- The whole number that a text spells, to the base that its start says. -/
def wholeNumber? (cs : List Char) : Option Int :=
  let (negative, body) := Text.splitSign (Text.trimSpace cs)
  let digits := body.map fun c => ((Text.digitValue? c).map fun n => Char.ofNat (48 + n)).getD c
  (match digits with
    | '0' :: c :: rest =>
      match base? c with
      | some base => numeralIn? base rest
      | none => if (c :: rest).all (· == '0') then some 0 else none
    | ds => if Text.digitLimit < ds.length then none else numeralIn? 10 ds).map
    (Text.signed negative)

/-- The number that a text without its sign spells. -/
def unsignedNumber? (cs : List Char) : Option Value :=
  let hasExponent := 'x' ∉ cs ∧ ('e' ∈ cs ∨ 'E' ∈ cs)
  if '.' ∈ cs ∨ hasExponent then
    let places := (cs.dropWhile (· != '.')).drop 1
    if '.' ∈ cs ∧ places.isEmpty then none
    else if !((cs.head?.map Char.isDigit).getD false) then none
    else (Double.parse? cs).map .real
  else if cs.map Char.toLower = "inf".toList ∨ cs.map Char.toLower = "nan".toList then
    (Double.parse? cs).map .real
  else (wholeNumber? cs).map .int

/-- A number with the other sign, which is zero minus the number. -/
def negated : Value → Value
  | .int n => .int (-n)
  | .real x => .real x.negate
  | v => v

/-- The number that a text spells.  Underscores in it are not looked at. -/
def number? (cs : List Char) : Option Value :=
  let (negative, body) := Text.splitSign cs
  (unsignedNumber? (body.filter (· != '_'))).map fun v => if negative then negated v else v

end ContractClient.Toml
