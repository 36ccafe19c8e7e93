/-!
# Base 64

Bytes may be written with sixty-four characters, four for three bytes.  Characters
that have no meaning are passed over.  Padding ends the bytes as soon as it fills up
a group of four.
-/

namespace ContractClient.Text.Base64

/-- The number that a character stands for. -/
def value? (c : Char) : Option Nat :=
  if c.isUpper then some (c.toNat - 65)
  else if c.isLower then some (c.toNat - 71)
  else if c.isDigit then some (c.toNat + 4)
  else if c = '+' then some 62
  else if c = '/' then some 63
  else none

/-- The bytes of a text.  `place` counts the characters of the group so far, `carry`
holds the bits that are not part of a byte yet, and `pads` the padding.  There are
none if the last group is not complete. -/
def decodeFrom (place carry pads : Nat) : List Char → Option (List UInt8)
  | [] => if place = 0 then some [] else none
  | c :: cs =>
    if c = '=' then
      if place < 2 then decodeFrom place carry pads cs
      else if 4 ≤ place + pads + 1 then some []
      else decodeFrom place carry (pads + 1) cs
    else
      match value? c, place with
      | none, _ => decodeFrom place carry pads cs
      | some n, 0 => decodeFrom 1 n 0 cs
      | some n, 1 => (decodeFrom 2 (n % 16) 0 cs).map (UInt8.ofNat (4 * carry + n / 16) :: ·)
      | some n, 2 => (decodeFrom 3 (n % 4) 0 cs).map (UInt8.ofNat (16 * carry + n / 4) :: ·)
      | some n, _ => (decodeFrom 0 0 0 cs).map (UInt8.ofNat (64 * carry + n) :: ·)

/-- The bytes of a text. -/
def decode? (cs : List Char) : Option (List UInt8) := decodeFrom 0 0 0 cs

end ContractClient.Text.Base64
