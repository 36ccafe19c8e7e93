/-!
# Characters

A class of Unicode characters is given by the inclusive ranges of code points
it consists of, in increasing order.  The tables of this project that come from
the Unicode standard are of version 14.0, and most have this form.

The ten decimal digits are there in many scripts.  In each of them they follow
each other from zero to nine.  So a script is given by its digit zero.

Words of a closed vocabulary are recognised without regard to case: the names
of the schema primitives and the answers to a yes-or-no question.  The first
are spelled in ASCII, the second in ASCII or Cyrillic letters.  `lower`
lower-cases the letters that such a word can come from: the ASCII capitals, the
KELVIN SIGN, which is a capital of `k`, and the Cyrillic capitals U+0400 to
U+042F.  Every other character stays as it is.  No other single character has an
ASCII or a Russian letter as its whole lower-case form, so a text equals a word
of the vocabulary after `lower` exactly when it does after lower-casing every
letter of Unicode.
-/

namespace ContractClient.Text

/-! ## Ranges -/

/-- A list of inclusive ranges of code points. -/
abbrev Ranges := List (Nat × Nat)

/-- Whether a character lies in one of the ranges. -/
def Ranges.contains (ranges : Ranges) (c : Char) : Bool :=
  ranges.any fun r => Nat.ble r.1 c.toNat && Nat.ble c.toNat r.2

/-! ## Decimal digits -/

/-- The code points of the digits zero. -/
def digitZeros : List Nat :=
  [0x30, 0x660, 0x6F0, 0x7C0, 0x966, 0x9E6, 0xA66, 0xAE6, 0xB66, 0xBE6, 0xC66, 0xCE6, 0xD66,
   0xDE6, 0xE50, 0xED0, 0xF20, 0x1040, 0x1090, 0x17E0, 0x1810, 0x1946, 0x19D0, 0x1A80, 0x1A90,
   0x1B50, 0x1BB0, 0x1C40, 0x1C50, 0xA620, 0xA8D0, 0xA900, 0xA9D0, 0xA9F0, 0xAA50, 0xABF0,
   0xFF10, 0x104A0, 0x10D30, 0x11066, 0x110F0, 0x11136, 0x111D0, 0x112F0, 0x11450, 0x114D0,
   0x11650, 0x116C0, 0x11730, 0x118E0, 0x11950, 0x11C50, 0x11D50, 0x11DA0, 0x16A60, 0x16AC0,
   0x16B50, 0x1D7CE, 0x1D7D8, 0x1D7E2, 0x1D7EC, 0x1D7F6, 0x1E140, 0x1E2F0, 0x1E950, 0x1FBF0]

/-- The number a digit stands for. -/
def digitValue? (c : Char) : Option Nat :=
  (digitZeros.find? fun first => first ≤ c.toNat && c.toNat ≤ first + 9).map (c.toNat - ·)

/-- Whether a character is a digit. -/
def isDigit (c : Char) : Bool := (digitValue? c).isSome

/-- The number that digits stand for. -/
def numeral? : List Char → Option Nat :=
  List.foldlM (fun n c => (digitValue? c).map (10 * n + ·)) 0

/-! ## Lower case -/

/-- The lower-case form of a letter of the vocabulary. -/
def lowerChar (c : Char) : Char :=
  let n := c.toNat
  if 65 ≤ n ∧ n ≤ 90 then Char.ofNat (n + 32)
  else if n = 0x212A then 'k'
  else if 0x400 ≤ n ∧ n ≤ 0x40F then Char.ofNat (n + 80)
  else if 0x410 ≤ n ∧ n ≤ 0x42F then Char.ofNat (n + 32)
  else c

/-- Lower-cases a text character by character. -/
def lower (s : String) : String := .ofList (s.toList.map lowerChar)

end ContractClient.Text
