import ContractClient.Text.Unprintable

/-!
# Quoted texts

Names and addresses taken from a contract go into generated code, and into
messages, as quoted texts.  A quoted text is a string literal: it shows every
character that has a printed form, escapes the others, and can be read back.

The quote is the apostrophe, unless the text holds an apostrophe and no
quotation mark.  A backslash and the chosen quote are escaped by a backslash,
line feed, carriage return and tab by `\n`, `\r` and `\t`, and any other
character without a printed form by its code point in two, four or eight
hexadecimal digits.
-/

namespace ContractClient.Text

/-! ## Hexadecimal numbers -/

/-- A hexadecimal digit in lower case. -/
def hexDigit (n : Nat) : Char := Char.ofNat (if n < 10 then 48 + n else 87 + n)

/-- The last `width` hexadecimal digits of a number. -/
def hex : (width : Nat) → Nat → List Char
  | 0, _ => []
  | w + 1, n => hex w (n / 16) ++ [hexDigit (n % 16)]

/-! ## Quoting -/

/-- The escape of a character by its code point. -/
def escapeCode (c : Char) : List Char :=
  let n := c.toNat
  if n < 0x100 then '\\' :: 'x' :: hex 2 n
  else if n < 0x10000 then '\\' :: 'u' :: hex 4 n
  else '\\' :: 'U' :: hex 8 n

/-- The written form of one character between the given quotes. -/
def quoteChar (q c : Char) : List Char :=
  if c = q ∨ c = '\\' then ['\\', c]
  else if c = '\n' then ['\\', 'n']
  else if c = '\r' then ['\\', 'r']
  else if c = '\t' then ['\\', 't']
  else if isPrintable c then [c]
  else escapeCode c

/-- The quote a text is put between. -/
def quoteMark (cs : List Char) : Char :=
  if '\'' ∈ cs ∧ '"' ∉ cs then '"' else '\''

/-- A text as a string literal. -/
def quoteChars (cs : List Char) : List Char :=
  let q := quoteMark cs
  q :: cs.flatMap (quoteChar q) ++ [q]

/-- `quoteChars` on strings. -/
def quote (s : String) : String := .ofList (quoteChars s.toList)

end ContractClient.Text
