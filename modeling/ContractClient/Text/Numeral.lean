import ContractClient.Text.Blank
import ContractClient.Text.Character

/-!
# Numerals

A *numeral* is a text that spells a whole number: a sign or none, and digits of
any script, with white space around.  One underscore may stand between two
digits.

A numeral has a limit of 4300 digits.  A longer one is not read, since the time
to read it grows with the square of its length.
-/

namespace ContractClient.Text

/-! ## Digits -/

/-- Digits without the underscores between them.  An underscore has a digit on
both sides. -/
def joinDigits? (cs : List Char) : Option (List Char) :=
  let runs := cs.splitOn '_'
  if runs.any List.isEmpty then none else some runs.flatten

/-- The greatest number of digits in a numeral. -/
def digitLimit : Nat := 4300

/-- The number that digits stand for, with underscores between them. -/
def natural? (cs : List Char) : Option Nat := do
  let digits ← joinDigits? cs
  if digitLimit < digits.length then none else numeral? digits

/-! ## Signs -/

/-- A text without the sign it starts with.  The truth value says whether the
sign is a minus. -/
def splitSign : List Char → Bool × List Char
  | '-' :: cs => (true, cs)
  | '+' :: cs => (false, cs)
  | cs => (false, cs)

/-- A number with a sign. -/
def signed (negative : Bool) (n : Nat) : Int := if negative then -(n : Int) else n

/-- The whole number that a text spells. -/
def integer? (cs : List Char) : Option Int :=
  let (negative, digits) := splitSign (trimSpace cs)
  (natural? digits).map (signed negative)

end ContractClient.Text
