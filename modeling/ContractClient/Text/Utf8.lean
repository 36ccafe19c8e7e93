import ContractClient.Text.Quoted

/-!
# Text from bytes

Files hold bytes.  This module turns them into text by the rules of UTF-8, and
says where and why it cannot.  The first byte of a character fixes how many
bytes follow it and in which range the second one lies, so that overlong forms
and halves of characters are refused at once.

A fault covers the bytes that could have started a character.  `decodeLossy` puts
the replacement character in the place of each fault.
-/

namespace ContractClient.Text.Utf8

/-- Why bytes are no text. -/
inductive Reason where
  /-- No character starts with this byte. -/
  | start
  /-- A character does not go on like this. -/
  | continuation
  /-- The bytes end within a character. -/
  | ending
  deriving DecidableEq, Repr

/-- A place where bytes are no text. -/
structure Fault where
  /-- The position of the first byte. -/
  position : Nat
  /-- The first byte. -/
  byte : UInt8
  /-- The number of bytes. -/
  length : Nat
  /-- What is wrong. -/
  reason : Reason
  deriving DecidableEq, Repr

/-- The text of a reason. -/
def Reason.message : Reason → String
  | start => "invalid start byte"
  | continuation => "invalid continuation byte"
  | ending => "unexpected end of data"

/-- The text of a fault. -/
def Fault.message (f : Fault) : String :=
  let place :=
    if f.length = 1 then
      "byte 0x" ++ .ofList (hex 2 f.byte.toNat) ++ " in position " ++ toString f.position
    else "bytes in position " ++ toString f.position ++ "-" ++
      toString (f.position + f.length - 1)
  "'utf-8' codec can't decode " ++ place ++ ": " ++ f.reason.message

/-- How a character goes on after its first byte: the number of bytes that
follow, and the range of the first of them. -/
def follow? (b : UInt8) : Option (Nat × UInt8 × UInt8) :=
  if b < 0x80 then some (0, 0x80, 0xBF)
  else if b < 0xC2 then none
  else if b < 0xE0 then some (1, 0x80, 0xBF)
  else if b = 0xE0 then some (2, 0xA0, 0xBF)
  else if b = 0xED then some (2, 0x80, 0x9F)
  else if b < 0xF0 then some (2, 0x80, 0xBF)
  else if b = 0xF0 then some (3, 0x90, 0xBF)
  else if b < 0xF4 then some (3, 0x80, 0xBF)
  else if b = 0xF4 then some (3, 0x80, 0x8F)
  else none

/-- The bits of a first byte that belong to its character. -/
def leadBits (count : Nat) (b : UInt8) : Nat :=
  match count with
  | 0 => b.toNat
  | 1 => b.toNat % 32
  | 2 => b.toNat % 16
  | _ => b.toNat % 8

/-- The bytes that follow in a character.  `taken` counts the bytes before.  The
answer is the number of the character and the bytes left, or the length of the
fault and its reason. -/
def tail : (count taken : Nat) → (lo hi : UInt8) → (acc : Nat) → List UInt8 →
    Except (Nat × Reason) (Nat × List UInt8)
  | 0, _, _, _, acc, bs => .ok (acc, bs)
  | _ + 1, taken, _, _, _, [] => .error (taken, .ending)
  | count + 1, taken, lo, hi, acc, b :: bs =>
    if lo ≤ b ∧ b ≤ hi then tail count (taken + 1) 0x80 0xBF (64 * acc + b.toNat % 64) bs
    else .error (taken, .continuation)

/-- The characters of some bytes, from a position on. -/
def decodeFrom : (fuel position : Nat) → List UInt8 → Except Fault (List Char)
  | _, _, [] => .ok []
  | 0, _, _ => .ok []
  | fuel + 1, position, b :: bs =>
    match follow? b with
    | none => .error { position, byte := b, length := 1, reason := .start }
    | some (count, lo, hi) =>
      match tail count 1 lo hi (leadBits count b) bs with
      | .error (length, reason) => .error { position, byte := b, length, reason }
      | .ok (n, rest) => (decodeFrom fuel (position + count + 1) rest).map (Char.ofNat n :: ·)

/-- The characters of some bytes, with a replacement character for each fault. -/
def lossyFrom : (fuel : Nat) → List UInt8 → List Char
  | _, [] => []
  | 0, _ => []
  | fuel + 1, b :: bs =>
    match follow? b with
    | none => Char.ofNat 0xFFFD :: lossyFrom fuel bs
    | some (count, lo, hi) =>
      match tail count 1 lo hi (leadBits count b) bs with
      | .error (length, _) => Char.ofNat 0xFFFD :: lossyFrom fuel (bs.drop (length - 1))
      | .ok (n, rest) => Char.ofNat n :: lossyFrom fuel rest

/-- The text of some bytes, with a replacement character for each fault. -/
def decodeLossy (bytes : List UInt8) : String := .ofList (lossyFrom bytes.length bytes)

/-- The text of some bytes. -/
def decode (bytes : ByteArray) : Except Fault String :=
  (decodeFrom bytes.size 0 bytes.toList).map String.ofList

end ContractClient.Text.Utf8
