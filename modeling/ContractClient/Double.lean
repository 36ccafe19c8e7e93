import ContractClient.Text.Numeral

/-!
# Numbers of double precision

Numbers with a point or an exponent are of *double precision*: a finite one is a
whole number below `2 ^ 53` times a power of two from `2 ^ -1074` to `2 ^ 971`.
Beside them there are two infinities, and the result of a meaningless
calculation, which is no number at all.

`ofRatio` gives the number closest to a fraction, and of two that are equally
close the one with an even mantissa.  `parse?` reads a text that way.  `render`
writes the fewest digits that are read back as the same number (`shortest?`).
-/

namespace ContractClient

/-- A number of double precision. -/
inductive Double where
  /-- The number `mantissa * 2 ^ exponent`, or its negative. -/
  | finite (negative : Bool) (mantissa : Nat) (exponent : Int)
  /-- One of the infinities. -/
  | infinite (negative : Bool)
  /-- No number. -/
  | undefined
  deriving DecidableEq, Repr, Inhabited

namespace Double

/-! ## Rounding -/

/-- The whole number closest to a fraction.  Halves go to the even
neighbour. -/
def roundEven (num den : Nat) : Nat :=
  let whole := num / den
  let rest := 2 * (num % den)
  if den < rest ∨ (rest = den ∧ whole % 2 = 1) then whole + 1 else whole

/-- A fraction divided by a power of a base. -/
def scaleDown (base : Nat) (num den : Nat) (power : Int) : Nat × Nat :=
  let factor := Nat.pow base power.natAbs
  if 0 ≤ power then (num, den * factor) else (num * factor, den)

/-- The least exponent. -/
def minExponent : Int := -1074

/-- The greatest exponent. -/
def maxExponent : Int := 971

/-- Zero. -/
def zero (negative : Bool) : Double := finite negative 0 minExponent

/-- The exponent at which a fraction has a mantissa of 53 binary digits, or the
least one if the fraction is too small for that. -/
def exponentOf (num den : Nat) : Int :=
  let low : Int := (num.log2 : Int) - den.log2 - 53
  let (n, d) := scaleDown 2 num den low
  max minExponent (if Nat.pow 2 53 ≤ n / d then low + 1 else low)

/-- The number closest to a fraction. -/
def ofRatio (negative : Bool) (num den : Nat) : Double :=
  if num = 0 then zero negative
  else
    let e := exponentOf num den
    let (n, d) := scaleDown 2 num den e
    let m := roundEven n d
    let (m, e) := if m = Nat.pow 2 53 then (Nat.pow 2 52, e + 1) else (m, e)
    if maxExponent < e then infinite negative else finite negative m e

/-- The number closest to `n * 10 ^ power`. -/
def ofDecimal (negative : Bool) (n : Nat) (power : Int) : Double :=
  if n = 0 then zero negative
  else if 400 < power then infinite negative
  else if power < -400 - (n.log2 : Int) then zero negative
  else
    let (num, den) := scaleDown 10 n 1 (-power)
    ofRatio negative num den

/-! ## Views -/

/-- Whether a number is zero, of either sign. -/
def isZero : Double → Bool
  | finite _ m _ => m == 0
  | _ => false

/-- Whether a number is finite. -/
def isFinite : Double → Bool
  | finite .. => true
  | _ => false

/-- The whole number that a number is, if it is one. -/
def toInt? : Double → Option Int
  | finite negative m e =>
    let factor := Nat.pow 2 e.natAbs
    if 0 ≤ e then some (Text.signed negative (m * factor))
    else if m % factor = 0 then some (Text.signed negative (m / factor)) else none
  | _ => none

/-- The whole part of a number, if it is finite. -/
def truncate? : Double → Option Int
  | finite negative m e =>
    let factor := Nat.pow 2 e.natAbs
    some (Text.signed negative (if 0 ≤ e then m * factor else m / factor))
  | _ => none

/-! ## Calculating -/

/-- Whether a number has a minus sign. -/
def isNegative : Double → Bool
  | finite negative _ _ | infinite negative => negative
  | undefined => false

/-- The product of two numbers. -/
def mul : Double → Double → Double
  | finite a m e, finite b n f =>
    let (num, den) := scaleDown 2 (m * n) 1 (-(e + f))
    ofRatio (a != b) num den
  | undefined, _ | _, undefined => undefined
  | x, y =>
    if x.isZero || y.isZero then undefined else infinite (x.isNegative != y.isNegative)

/-- Zero minus a number.  Zero itself gives zero without a sign. -/
def negate : Double → Double
  | finite negative m e => if m = 0 then zero false else finite (!negative) m e
  | infinite negative => infinite (!negative)
  | undefined => undefined

/-! ## Writing -/

/-- The digits of a number. -/
def digitsOf (n : Nat) : List Char := (toString n).toList

/-- How many digits a fraction has in front of its point.  Zeros behind the
point count down from zero. -/
def pointOf (num den : Nat) : Int := (digitsOf (num * Nat.pow 10 400 / den)).length - 400

/-- The decimal of some digits that is closest to a fraction, among those that
are read back as the number.  It is given by its digits as a whole number and by
the power of ten that goes with them. -/
def decimalOf? (x : Double) (num den : Nat) (count : Nat) : Option (Nat × Int) :=
  let power : Int := pointOf num den - count
  let (n, d) := scaleDown 10 num den power
  let low := n / d
  let isRead (m : Nat) : Bool := ofDecimal false m power == x
  let lowIsCloser := 2 * (n % d) < d || (2 * (n % d) == d && low % 2 == 0)
  let first := if lowIsCloser then low else low + 1
  let second := if lowIsCloser then low + 1 else low
  if isRead first then some (first, power)
  else if isRead second then some (second, power) else none

/-- The shortest decimal that is read back as a positive number. -/
def shortest? (m : Nat) (e : Int) : Option (Nat × Int) :=
  let (num, den) := scaleDown 2 m 1 (-e)
  ((List.range 17).map (· + 1)).findSome? (decimalOf? (finite false m e) num den)

/-- Digits with a point behind the first `point` of them.  Point notation is used
for numbers from `1e-4` up to `1e16`, and an exponent of at least two digits
otherwise. -/
def renderDigits (digits : List Char) (point : Int) : List Char :=
  let size : Int := digits.length
  if -4 < point ∧ point ≤ 16 then
    if point ≤ 0 then '0' :: '.' :: (List.replicate (-point).toNat '0' ++ digits)
    else if size ≤ point then digits ++ List.replicate (point - size).toNat '0' ++ ['.', '0']
    else digits.take point.toNat ++ '.' :: digits.drop point.toNat
  else
    let e := point - 1
    let mantissa :=
      if digits.length = 1 then digits else digits.take 1 ++ '.' :: digits.drop 1
    mantissa ++ ['e', if e < 0 then '-' else '+'] ++ (if e.natAbs < 10 then ['0'] else []) ++
      digitsOf e.natAbs

/-- The text of a number. -/
def render : Double → String
  | undefined => "nan"
  | infinite negative => (if negative then "-" else "") ++ "inf"
  | finite negative m e =>
    let sign := if negative then "-" else ""
    if m = 0 then sign ++ "0.0"
    else
      let (n, power) := (shortest? m e).getD (0, 0)
      let digits := digitsOf n
      let core := (digits.reverse.dropWhile (· == '0')).reverse
      sign ++ .ofList (renderDigits core (digits.length + power))

/-! ## Reading -/

/-- The exponent a text ends with: a letter, a sign or none, and digits. -/
def exponent? : List Char → Option Int
  | [] => some 0
  | _ :: cs =>
    let (negative, digits) := Text.splitSign cs
    do return Text.signed negative (← Text.numeral? (← Text.joinDigits? digits))

/-- Whether a character starts an exponent. -/
def isExponentMark (c : Char) : Bool := c == 'e' || c == 'E'

/-- A number without its sign: digits with a point or without, and an exponent
or none. -/
def unsigned? (negative : Bool) (cs : List Char) : Option Double := do
  let mantissa := cs.takeWhile (!isExponentMark ·)
  let whole := mantissa.takeWhile (· != '.')
  let places := (mantissa.drop whole.length).drop 1
  let digits (run : List Char) : Option (List Char) :=
    if run.isEmpty then some [] else Text.joinDigits? run
  let all := (← digits whole) ++ (← digits places)
  if all.isEmpty then none
  let n ← Text.numeral? all
  let power ← exponent? (cs.drop mantissa.length)
  return ofDecimal negative n (power - (← digits places).length)

/-- The number that a text spells: a sign or none, and digits or one of the words
for an infinity and for no number, with white space around. -/
def parse? (cs : List Char) : Option Double :=
  let (negative, body) := Text.splitSign (Text.trimSpace cs)
  let word := String.ofList (body.map Char.toLower)
  if word = "inf" ∨ word = "infinity" then some (infinite negative)
  else if word = "nan" then some undefined
  else unsigned? negative body

end Double

end ContractClient
