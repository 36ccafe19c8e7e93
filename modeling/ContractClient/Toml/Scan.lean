import ContractClient.Identifier.Alphanumeric
import ContractClient.Text.Blank
import ContractClient.Toml.Fault

/-!
# Logical lines

A settings file is read line by line.  Before that it is gone through once, one
character after the other, to make sure that each line is a unit of its own:

* a comment is overwritten with spaces;
* a line break inside a list is overwritten with a space;
* a line break inside a text of several lines stays, but if it follows the quotes
  that open the text, the quotes move up to it.

On the way keys are checked for characters that cannot stand in them, and texts
for their closing quotes.

`Scan` is what is known at a character.  Quotes are told apart by what stands in
front of them.  In front of the first character the reader sees the last one, as
if the text were closed to a ring.
-/

namespace ContractClient.Toml

/-! ## States -/

/-- Whether a line opens a table. -/
inductive Heading where
  /-- It does not, or its name is complete. -/
  | none
  /-- It opens a table. -/
  | table
  /-- It opens a table in a list of tables. -/
  | item
  deriving DecidableEq, Repr

/-- Where a character stands with respect to a key. -/
inductive KeyPlace where
  /-- Not in a key. -/
  | outside
  /-- In a key. -/
  | inside
  /-- Behind a key or a part of one. -/
  | behind
  deriving DecidableEq, Repr

/-- What is known at a character. -/
structure Scan where
  /-- The characters in front, last first, as they are written now. -/
  before : List Char := []
  /-- The quote of the text that is open. -/
  quote : Option Char := none
  /-- Whether a text of several lines is open. -/
  isLong : Bool := false
  /-- How many lists are open. -/
  depth : Int := 0
  /-- Whether the line opens a table. -/
  heading : Heading := .none
  /-- Whether nothing but blanks was seen in the line. -/
  atStart : Bool := true
  /-- Where the character stands with respect to a key. -/
  key : KeyPlace := .outside
  /-- Whether the key has several parts. -/
  isDotted : Bool := false
  /-- Whether the character is in a comment. -/
  inComment : Bool := false

namespace Scan

/-- The number of backslashes a text starts with. -/
def backslashes (cs : List Char) : Nat := (cs.takeWhile (· == '\\')).length

/-- A state with one more character in front. -/
def push (s : Scan) (c : Char) : Scan := { s with before := c :: s.before }

/-! ## Keys -/

/-- Where a key goes on, by the character behind a blank or a point. -/
def resume (s : Scan) (next : Option Char) : Outcome Scan :=
  match next with
  | none => .error .position
  | some c => .ok (if Text.isBlank c ∨ c = '.' then s else { s with key := .inside })

/-- A character in or behind a key. -/
def keyStep (s : Scan) (c : Char) (next : Option Char) : Outcome Scan :=
  if c = '\n' then .error .malformed
  else if s.quote.isSome then
    if s.quote = some c ∧ backslashes s.before % 2 = 0 then
      .ok { s with key := .behind, quote := none }
    else .ok s
  else if c = '=' then .ok { s with key := .outside, isDotted := false }
  else if s.key = .inside then
    if Text.isBlank c then .ok { s with key := .behind }
    else if c = '.' then .ok { s with isDotted := true }
    else if Identifier.isAlphanumeric c ∨ c = '_' ∨ c = '-' then .ok s
    else if s.isDotted ∧ s.before.head? = some '.' ∧ (c = '"' ∨ c = '\'') then
      .ok { s with quote := some c }
    else .error .malformed
  else if Text.isBlank c then if s.isDotted then s.resume next else .ok s
  else if c = '.' then { s with isDotted := true }.resume next
  else .error .malformed

/-! ## Quotes -/

/-- The characters in front, last first, with those of the whole text behind
them. -/
def ring (ending : List Char) (s : Scan) : List Char := s.before ++ ending

/-- How many of the two characters in front are the quote. -/
def quotesInFront (ring : List Char) (q : Char) : Nat :=
  ((ring.take 2).takeWhile (· == q)).length

/-- Opens or closes a text. -/
def toggle (s : Scan) (q : Char) (isTriple : Bool) : Scan :=
  let opens := if isTriple then !s.isLong else s.quote.isNone
  { s with
    isLong := if isTriple then opens else s.isLong
    quote := if opens then some q else none }

/-- A quote.  An apostrophe counts wherever it stands.  A quotation mark does not
if an odd number of backslashes is in front of it, or of the three that it
completes. -/
def quoteStep (ending : List Char) (s : Scan) (q : Char) : Scan :=
  let ring := s.ring ending
  let inFront := quotesInFront ring q
  let escaped := q == '"' && inFront != 1 && backslashes (ring.drop inFront) % 2 == 1
  if escaped then s else s.toggle q (inFront == 2)

/-! ## Brackets and line breaks -/

/-- An opening bracket. -/
def openBracket (s : Scan) (next : Option Char) : Scan :=
  if s.quote.isSome ∨ s.heading ≠ .none then s
  else if s.atStart then
    { s with heading := if next = some '[' then .item else .table }
  else { s with depth := s.depth + 1 }

/-- A closing bracket. -/
def closeBracket (s : Scan) : Scan :=
  if s.quote.isSome then s
  else match s.heading with
    | .table => { s with heading := .none }
    | .item => if s.before.head? = some ']' then { s with heading := .none } else s
    | .none => { s with depth := s.depth - 1 }

/-- A line break.  In a text of several lines it is overwritten with the quote if
two quotes are in front of it.  The quote in front of those, if there is one, is
then overwritten with a space. -/
def lineBreak (ending : List Char) (s : Scan) : Outcome Scan :=
  if s.quote.isSome ∨ s.isLong then
    if !s.isLong then .error .malformed
    else match s.ring ending with
      | q :: q' :: q'' :: _ =>
        if (q = '\'' ∨ q = '"') ∧ q' = q then
          .ok { s with before := q :: if q'' = q then s.before.set 2 ' ' else s.before }
        else .ok (s.push '\n')
      | _ => .error .position
  else if s.depth ≠ 0 then .ok (s.push ' ')
  else .ok { s.push '\n' with atStart := true }

/-- A character that may be the first one of a line.  A key starts there unless
the line opens a table. -/
def lineStart (s : Scan) (c : Char) : Outcome Scan :=
  if !s.atStart ∨ c = ' ' ∨ c = '\t' then .ok s
  else if s.heading ≠ .none then .ok { s with atStart := false }
  else if c = '=' then .error .malformed
  else .ok { s with atStart := false, key := .inside }

/-! ## All characters -/

/-- Whether a character starts a comment. -/
def startsComment (s : Scan) (c : Char) : Bool :=
  c == '#' && s.quote.isNone && s.heading == .none

/-- A character outside of keys and comments. -/
def valueStep (ending : List Char) (s : Scan) (c : Char) (next : Option Char) : Outcome Scan :=
  if c = '\n' then s.lineBreak ending
  else if s.startsComment c then .ok { s.push ' ' with inComment := true }
  else
    let isQuote :=
      (c = '\'' ∧ s.quote ≠ some '"') ∨ (c = '"' ∧ s.quote ≠ some '\'')
    let s :=
      if isQuote then s.quoteStep ending c
      else if c = '[' then s.openBracket next
      else if c = ']' then s.closeBracket
      else s
    (s.lineStart c).map (·.push c)

/-- One character. -/
def step (ending : List Char) (s : Scan) (c : Char) (next : Option Char) : Outcome Scan :=
  if s.inComment ∧ c ≠ '\n' then .ok (s.push ' ')
  else
    let s := { s with inComment := false }
    if s.key ≠ .outside then (s.keyStep c next).map (·.push c)
    else s.valueStep ending c next

/-- All characters of a text.  `ending` is the whole text, last character
first. -/
def run (ending : List Char) : Scan → List Char → Outcome Scan
  | s, [] => .ok s
  | s, c :: rest => do run ending (← s.step ending c rest.head?) rest

end Scan

/-- The logical lines of a text.  No key and no text is open at its end. -/
def logicalLines (cs : List Char) : Outcome (List (List Char)) := do
  let s ← Scan.run cs.reverse {} cs
  if s.key ≠ .outside ∨ s.quote.isSome then .error .malformed
  else return s.before.reverse.splitOn '\n'

end ContractClient.Toml
