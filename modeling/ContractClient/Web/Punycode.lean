/-!
# Punycode

The Domain Name System knows ASCII only.  A label with other characters is written
as its ASCII characters, a hyphen, and letters and digits that say which characters
go where.  They are numbers in a notation of variable length.  A number counts the
places that are passed over, for one character code after the other, until the next
character is reached.  `encode` writes a label and `decode?` reads it.
-/

namespace ContractClient.Web.Punycode

/-- The number of digits. -/
def base : Nat := 36

/-- The digit for a number. -/
def digit (n : Nat) : Char := Char.ofNat (if n < 26 then 97 + n else 22 + n)

/-- Divides a number by 35 until it is small.  The result is the number of divisions
times the base, and the number that is left. -/
def shrink : (fuel : Nat) → (count n : Nat) → Nat × Nat
  | 0, count, n => (count, n)
  | fuel + 1, count, n => if 455 < n then shrink fuel (count + base) (n / 35) else (count, n)

/-- The bias for the next number, after a number was written as the `place`th. -/
def adapt (n place : Nat) (isFirst : Bool) : Nat :=
  let n := if isFirst then n / 700 else n / 2
  let n := n + n / place
  let (count, n) := shrink n 0 n
  count + base * n / (n + 38)

/-- The threshold of a digit at a position. -/
def threshold (position bias : Nat) : Nat := max 1 (min 26 (position - bias))

/-- The digits of a number. -/
def digits (bias : Nat) : (fuel : Nat) → (position n : Nat) → List Char
  | 0, _, _ => []
  | fuel + 1, position, n =>
    let t := threshold position bias
    if n < t then [digit n]
    else
      digit (t + (n - t) % (base - t)) ::
        digits bias fuel (position + base) ((n - t) / (base - t))

/-- What is known while characters are written. -/
structure State where
  /-- The code that is looked for. -/
  code : Nat := 128
  /-- The places passed over. -/
  passed : Nat := 0
  /-- The bias. -/
  bias : Nat := 72
  /-- How many characters are written. -/
  written : Nat
  /-- Whether no number was written yet. -/
  isFirst : Bool := true
  /-- The digits written. -/
  output : List Char := []

/-- Passes one character of the label. -/
def pass (s : State) (c : Char) : State :=
  if c.toNat < s.code then { s with passed := s.passed + 1 }
  else if c.toNat = s.code then
    { s with
      output := s.output ++ digits s.bias (s.passed + 1) base s.passed
      bias := adapt s.passed (s.written + 1) s.isFirst
      passed := 0
      written := s.written + 1
      isFirst := false }
  else s

/-- Writes all characters of one code. -/
def writeCode (label : List Char) (s : State) (code : Nat) : State :=
  let passed := s.passed + (code - s.code) * (s.written + 1)
  let s := label.foldl pass { s with code, passed }
  { s with code := code + 1, passed := s.passed + 1 }

/-- The codes beyond ASCII in a label, in increasing order. -/
def codes (label : List Char) : List Nat :=
  (((label.map Char.toNat).filter (128 ≤ ·)).mergeSort).eraseDups

/-- A label in ASCII. -/
def encode (label : List Char) : List Char :=
  let plain := label.filter (·.toNat < 128)
  let s := (codes label).foldl (writeCode label) { written := plain.length }
  (if plain.isEmpty then [] else plain ++ ['-']) ++ s.output

/-! ## Reading -/

/-- The number of a digit. -/
def digitValue? (c : Char) : Option Nat :=
  if c.isLower then some (c.toNat - 97)
  else if c.isDigit then some (c.toNat - 22)
  else none

/-- Reads a number off the front of a text.  `weight` is the value of one at the next
position, and `sum` what was read already. -/
def number? (bias : Nat) : (position weight sum : Nat) → List Char → Option (Nat × List Char)
  | _, _, _, [] => none
  | position, weight, sum, c :: cs => do
    let d ← digitValue? c
    let t := threshold position bias
    let sum := sum + d * weight
    if d < t then return (sum, cs) else number? bias (position + base) (weight * (base - t)) sum cs

/-- Puts characters into a label as the numbers in a text say.  `place` is where the next
search starts. -/
def insertAll : (fuel : Nat) → (code place bias : Nat) → (isFirst : Bool) → (label : List Char) →
    List Char → Option (List Char)
  | _, _, _, _, _, label, [] => some label
  | 0, _, _, _, _, _, _ => none
  | fuel + 1, code, place, bias, isFirst, label, cs => do
    let (n, rest) ← number? bias base 1 0 cs
    let passed := place + n
    let size := label.length + 1
    let code := code + passed / size
    if 0x10FFFF < code ∨ (0xD800 ≤ code ∧ code < 0xE000) then none
    let i := passed % size
    let label := label.take i ++ Char.ofNat code :: label.drop i
    insertAll fuel code (i + 1) (adapt n size isFirst) false label rest

/-- The label that a text in ASCII stands for. -/
def decode? (cs : List Char) : Option (List Char) :=
  let tail := (cs.reverse.takeWhile (· != '-')).reverse
  let plain := (cs.take (cs.length - tail.length)).dropLast
  insertAll tail.length 128 0 72 true plain tail

end ContractClient.Web.Punycode
