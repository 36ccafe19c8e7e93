import ContractClient.Json.Reader
import ContractClient.Text.Lines
import ContractClient.Toml.Fault

/-!
# Texts of settings files

A text stands between quotes, one or three on either side.  Escapes are worked
off in three rounds: characters given by four hexadecimal digits, characters
given by eight, and one-letter escapes.  So a backslash that comes out of one
round may start an escape of the next.  The rounds are the same for both kinds of
quotes, but in front of them only a text in quotation marks is checked for
escapes that mean nothing.

The quotes are cut off after the escapes are worked off.
-/

namespace ContractClient.Toml

/-! ## One-letter escapes -/

/-- The character that a one-letter escape stands for. -/
def escape? : Char → Option Char
  | '0' => some '\x00'
  | 'b' => some '\x08'
  | 'f' => some '\x0c'
  | 'n' => some '\n'
  | 'r' => some '\r'
  | 't' => some '\t'
  | '"' => some '"'
  | _ => none

/-- Works off one-letter escapes and double backslashes.  Escapes by number stay
as they are. -/
def unescape : List Char → Outcome (List Char)
  | '\\' :: c :: rest =>
    match escape? c with
    | some e => (unescape rest).map (e :: ·)
    | none =>
      if c = '\\' then (unescape rest).map ('\\' :: ·)
      else if c = 'u' ∨ c = 'U' then (unescape rest).map fun cs => '\\' :: c :: cs
      else .error .malformed
  | c :: rest => (unescape rest).map (c :: ·)
  | [] => .ok []

/-- Checks the pieces between backslashes.  A piece starts with the letter of an
escape, unless the backslash in front of it is escaped itself. -/
def checkEscapes (escaped : Bool) : List (List Char) → Outcome Unit
  | [] => .ok ()
  | [] :: ps => checkEscapes (!escaped) ps
  | (c :: _) :: ps =>
    if (escape? c).isNone ∧ c ≠ 'u' ∧ c ≠ 'U' ∧ !escaped then .error .malformed
    else checkEscapes false ps

/-! ## Escapes by number -/

/-- The character of a code point.  Half a character has none of its own and is
read as the replacement character. -/
def codePoint (n : Nat) : Outcome Char :=
  if Nat.pow 2 31 ≤ n then .error .overflow
  else if 0x110000 ≤ n then .error .malformed
  else .ok (Json.unitChar n)

/-- Whether a text ends with an odd number of backslashes. -/
def endsEscaping (cs : List Char) : Bool := (cs.reverse.takeWhile (· == '\\')).length % 2 == 1

/-- The character at the start of a piece, by its hexadecimal digits, and the
rest of the piece.  Digits that start with `d` must not give half a
character. -/
def numbered (width : Nat) (piece : List Char) : Outcome (List Char) := do
  let digits := (piece.take width).map Char.toLower
  if digits.any fun c => (Json.hexValue? c).isNone then throw .malformed
  if (← first digits) = 'd' then
    let second ← first (digits.drop 1)
    if '7' < second then throw .malformed
  let c ← codePoint (digits.foldl (fun n d => 16 * n + (Json.hexValue? d).getD 0) 0)
  return c :: piece.drop digits.length

/-- Puts pieces together again, each with the character at its start.  A piece
behind an escaped backslash stays as it is. -/
def joinNumbered (mark : List Char) (width : Nat) (skips : Bool) :
    List (List Char) → Outcome (List Char)
  | [] => .ok []
  | p :: ps =>
    if skips then (joinNumbered mark width (endsEscaping p) ps).map (mark ++ p ++ ·)
    else do
      let piece ← numbered width p
      return piece ++ (← joinNumbered mark width false ps)

/-- Works off the escapes by number that start with a mark. -/
def unescapeNumbered (mark : List Char) (width : Nat) (cs : List Char) : Outcome (List Char) :=
  match Text.split mark cs with
  | [] => .ok cs
  | p :: ps => (joinNumbered mark width (endsEscaping p) ps).map (p ++ ·)

/-! ## Quotes -/

/-- Checks the pieces between the quotes of a text.  Nothing but quotes may
follow the closing ones.  In a text with three quotes `count` is the number of
quotes seen in a row. -/
def checkClosed (isTriple closed : Bool) (count : Nat) : List (List Char) → Outcome Unit
  | [] => .ok ()
  | [] :: ps =>
    if isTriple then checkClosed isTriple closed (count + 1) ps
    else checkClosed isTriple true count ps
  | p :: ps =>
    if endsEscaping p then checkClosed isTriple closed count ps
    else if closed then .error .malformed
    else if !isTriple ∨ 1 < count then checkClosed isTriple true count ps
    else checkClosed isTriple closed 0 ps

/-- Cuts the quotes off.  Three on either side are cut off if the text starts
with more than one. -/
def cutQuotes (q : Char) (cs : List Char) : List Char :=
  let inner (n : Nat) (cs : List Char) : List Char := (cs.drop n).take (cs.length - 2 * n)
  if cs[1]? = some q ∧ (cs.length < 3 ∨ cs[2]? = some q) then inner 1 (inner 2 cs)
  else inner 1 cs

/-- The text that stands between quotes.  It is given with its quotes. -/
def quotedText (q : Char) (cs : List Char) : Outcome String := do
  let pieces := Text.split [q] (cs.drop 1)
  match pieces with
  | [] :: [] :: rest => checkClosed true false 0 rest
  | _ => checkClosed false false 0 pieces
  if q = '"' then checkEscapes false ((Text.split ['\\'] cs).drop 1)
  let cs ← unescapeNumbered ['\\', 'u'] 4 cs
  let cs ← unescapeNumbered ['\\', 'U'] 8 cs
  return .ofList (cutQuotes q (← unescape cs))

end ContractClient.Toml
