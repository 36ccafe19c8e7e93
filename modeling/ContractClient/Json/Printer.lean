import ContractClient.Value

/-!
# Writing JSON

A value is written on one line, in ASCII.  A character beyond ASCII is written
as one or two escaped code units.  A date, a time of day or a moment is written as
a text.
-/

namespace ContractClient.Json

/-- An escaped code unit. -/
def escapeUnit (n : Nat) : List Char := '\\' :: 'u' :: Text.hex 4 n

/-- The written form of a character inside a text. -/
def escapeChar (c : Char) : List Char :=
  let n := c.toNat
  if c = '"' ∨ c = '\\' then ['\\', c]
  else if c = '\n' then ['\\', 'n']
  else if 32 ≤ n ∧ n < 127 then [c]
  else if n < 0x10000 then escapeUnit n
  else
    let m := n - 0x10000
    escapeUnit (0xD800 + m / 0x400) ++ escapeUnit (0xDC00 + m % 0x400)

/-- A text between quotation marks. -/
def renderText (s : String) : String := .ofList ('"' :: s.toList.flatMap escapeChar ++ ['"'])

/-- A number of double precision. -/
def renderReal : Double → String
  | .undefined => "NaN"
  | .infinite negative => (if negative then "-" else "") ++ "Infinity"
  | x => x.render

mutual

/-- A value as JSON. -/
def render : Value → String
  | .null => "null"
  | .bool b => if b then "true" else "false"
  | .int n => toString n
  | .real x => renderReal x
  | .text s => renderText s
  | .date d => renderText d.render
  | .time t => renderText t.render
  | .moment m => renderText (m.render " ")
  | .list vs => "[" ++ ",".intercalate (renderItems vs) ++ "]"
  | .table es => "\x7b" ++ ",".intercalate (renderEntries es) ++ "\x7d"

/-- The items of a list as JSON. -/
def renderItems : List Value → List String
  | [] => []
  | v :: vs => render v :: renderItems vs

/-- The entries of a table as JSON. -/
def renderEntries : List (String × Value) → List String
  | [] => []
  | (k, v) :: es => (renderText k ++ ":" ++ render v) :: renderEntries es

end

end ContractClient.Json
