import ContractClient.Text.Blank
import ContractClient.Text.Lines
import ContractClient.Toml.Fault

/-!
# Taking lines and lists apart

Separators inside of quotes do not count.  The functions of this module find the
separators that do.  They look at quotes, backslashes and brackets only, and the
pieces they give are read later.
-/

namespace ContractClient.Toml

/-! ## Quotes in a line -/

/-- Whether a character is a quote. -/
def isQuote (c : Char) : Bool := c == '"' || c == '\''

/-- Splits at apostrophes what was split at quotation marks, as long as an
apostrophe is open.  The second list holds what is left. -/
def closeApostrophes (pieces : List (List Char)) :
    List (List Char) → List (List Char) × List (List Char)
  | [] => (pieces, [])
  | q :: qs =>
    if pieces.length % 2 = 0 then
      let joined := pieces.getLast?.getD [] ++ '"' :: q
      closeApostrophes (pieces.dropLast ++ Text.split ['\''] joined) qs
    else (pieces, q :: qs)

/-- The pieces of a line between its quotes. -/
def quotePieces (line : List Char) : List (List Char) :=
  let marked := Text.split ['"'] line
  let (front, rest) :=
    match marked with
    | q :: q' :: qs =>
      if '\'' ∈ q then closeApostrophes (Text.split ['\''] q) (q' :: qs) else ([], marked)
    | qs => ([], qs)
  match rest with
  | [] => front
  | q :: qs => front ++ Text.split ['\''] q ++ qs

/-- How many separators stand in front of the first one outside of quotes.  Every
other piece is taken for quoted. -/
def quotedSeparators (sep : List Char) (quoted : Bool) : List (List Char) → Nat
  | [] => 0
  | p :: ps =>
    if !quoted && Text.hasWithin sep p then 0
    else Text.countOf sep p + quotedSeparators sep (!quoted) ps

/-- How many separators a line is split at, so that the last of them is outside of
quotes. -/
def separatorCount (sep line : List Char) : Nat :=
  1 + quotedSeparators sep false (quotePieces line)

/-! ## Texts that go on -/

/-- Whether a list starts with a text. -/
def isTextList (cs : List Char) : Bool :=
  ((Text.trim (cs.drop 1).dropLast).head?.map isQuote).getD false

/-- The last text of a list of which the pieces between commas are given, last
first. -/
def lastText : List (List Char) → Outcome (List Char)
  | [] => .ok []
  | [p] => .ok p
  | p :: p' :: ps => do
    if isQuote (← first p) then return p else lastText ((p' ++ ',' :: p) :: ps)
termination_by ps => ps.length

/-- Whether a value opens a text of several lines and does not close it.  The text
may be the last one of a list. -/
def opensLong (cs : List Char) : Outcome Bool := do
  if cs.length < 3 then return false
  let goesOn := cs.head? = some '[' ∧ (Text.trim cs).getLast? ≠ some ']' ∧ isTextList cs
  let p ← if goesOn then lastText (Text.split [','] (Text.trim (cs.drop 1))).reverse else pure cs
  let q ← first p
  if !isQuote q then return false
  if (← first (p.drop 1)) ≠ q then return false
  if (← first (p.drop 2)) ≠ q then return false
  return !(5 < p.length ∧ p.reverse.take 3 = [q, q, q])

/-! ## Lists -/

/-- Whether a piece ends with the character it starts with, and that one is not
escaped. -/
def isBounded (cs : List Char) : Bool :=
  cs.isEmpty ||
    (cs.getLast? == cs.head? &&
      ((cs.drop 1).dropLast.reverse.takeWhile (· == '\\')).length % 2 == 0)

/-- Whether a piece starts with three equal characters and does not end with
three. -/
def opensTriple (cs : List Char) : Bool :=
  match cs with
  | a :: b :: c :: _ =>
    a == b && b == c && cs.reverse[1]? != some a && cs.reverse[2]? != some a
  | _ => false

/-- A text of a list, with the pieces that belong to it, and the pieces that are
left. -/
def joinText (cs : List Char) :
    List (List Char) → Outcome (List Char × List (List Char))
  | [] =>
    if isBounded (Text.trim cs) && !opensTriple (Text.trim cs) then .ok (cs, [])
    else .error .position
  | p :: ps =>
    if isBounded (Text.trim cs) && !opensTriple (Text.trim cs) then .ok (cs, p :: ps)
    else joinText (cs ++ ',' :: p) ps

/-- The texts of a list, from the pieces between its commas.  The last piece is
not looked at.  `fuel` is the number of pieces. -/
def joinTexts : (fuel : Nat) → List (List Char) → Outcome (List (List Char))
  | fuel + 1, p :: p' :: ps => do
    let (text, rest) ← joinText p (p' :: ps)
    return text :: (← joinTexts fuel rest)
  | _, ps => .ok ps

/-- The pieces between commas outside of brackets. -/
def nestedPieces (depth : Int) (piece : List Char) : List Char → List (List Char)
  | [] => [piece.reverse]
  | c :: cs =>
    if c = ',' ∧ depth = 0 then piece.reverse :: nestedPieces depth [] cs
    else
      let depth := if c = '[' then depth + 1 else if c = ']' then depth - 1 else depth
      nestedPieces depth (c :: piece) cs

/-- Where the reader is in a list of tables. -/
inductive TablePlace where
  /-- In a table.  The characters read are given last first. -/
  | inside (piece : List Char) (braces : Nat) (inText : Bool)
  /-- Behind a table, with so many braces open. -/
  | behind (braces : Nat)
  /-- Between two tables. -/
  | between (braces : Nat)

/-- The tables of a list. -/
def tablePieces : TablePlace → List Char → List (List Char)
  | _, [] => []
  | .behind braces, _ :: cs => tablePieces (.between braces) cs
  | .between braces, c :: cs =>
    if c = '\x7b' then tablePieces (.inside [c] braces false) cs
    else tablePieces (.between braces) cs
  | .inside piece braces inText, c :: cs =>
    let escapes := (piece.takeWhile (· == '\\')).length
    let inText :=
      if !isQuote c then inText else if inText then escapes % 2 == 1 else true
    let braces := if !inText && c == '\x7b' then braces + 1 else braces
    if inText || c != '\x7d' then tablePieces (.inside (c :: piece) braces inText) cs
    else if 1 < braces then tablePieces (.inside (c :: piece) (braces - 1) inText) cs
    else (c :: piece).reverse :: tablePieces (.behind braces) cs

/-- The pieces of a list, which is given with its brackets. -/
def listPieces (cs : List Char) : Outcome (List (List Char)) :=
  let inner := (cs.drop 1).dropLast
  if '[' ∉ inner ∨ !(inner.takeWhile (· != '[')).all Text.isBlank then
    if (Text.trim inner).head? = some '\x7b' then
      let braces := if inner.head? = some '\x7b' then 1 else 0
      .ok (tablePieces (.inside (inner.take 1) braces false) (inner.drop 1))
    else
      let pieces := Text.split [','] inner
      if isTextList cs then joinTexts pieces.length pieces else .ok pieces
  else .ok (nestedPieces 0 [] inner)

/-! ## Tables in a line -/

/-- Whether a value in a table looks complete. -/
def isComplete (value : List Char) : Outcome Bool := do
  let a ← first value
  let z ← last value
  return (a = z ∧ isQuote a) ∨ a = '-' ∨ a.isDigit ∨ value = "true".toList ∨
    value = "false".toList ∨ (a = '[' ∧ z = ']') ∨ (a = '\x7b' ∧ z = '\x7d')

/-- The entries of a table, from the pieces between its commas.  A piece whose
value is not complete is carried over to the next one. -/
def tableEntries (carried : List Char) : List (List Char) → Outcome (List (List Char))
  | [] => .ok []
  | p :: ps =>
    let entry := carried ++ p
    match Text.breakAt? ['='] entry with
    | none => .error .malformed
    | some (_, value) => do
      if ← isComplete (Text.trim value) then return entry :: (← tableEntries [] ps)
      else if ps.isEmpty then throw .malformed
      else tableEntries (entry ++ [',']) ps

/-- The entries of a table, which is given with its braces. -/
def entriesOfTable (cs : List Char) : Outcome (List (List Char)) :=
  let inner := (cs.drop 1).dropLast
  if inner.all Text.isBlank then .ok [] else tableEntries [] (Text.split [','] inner)

end ContractClient.Toml
