import ContractClient.Value

/-!
# Reading JSON

The reader takes a text apart from left to right.  Every rule consumes at least
one character before it calls another, so a counter that starts at the length
of the text never runs out.

The grammar is that of JSON, with three additions.  The words `NaN`, `Infinity`
and `-Infinity` are numbers, and of two entries with one key the later value
counts.  Blanks between tokens are space, tab, line feed and carriage return
only.  A control character inside a text is an error.

There are two limits.  A whole number has no more digits than a numeral may have,
and lists and tables are not nested deeper than `depthLimit`.
-/

namespace ContractClient.Json

/-- Why a text is not read. -/
inductive Fault where
  /-- The text is not JSON. -/
  | malformed
  /-- A whole number has too many digits. -/
  | longNumber (digits : Nat)
  /-- Lists and tables are nested too deeply. -/
  | tooDeep
  deriving DecidableEq, Repr

/-- How deeply lists and tables may be nested. -/
def depthLimit : Nat := 980

/-! ## Tokens -/

/-- Drops the blanks between tokens. -/
def skipBlanks (cs : List Char) : List Char :=
  cs.dropWhile fun c => c == ' ' || c == '\t' || c == '\n' || c == '\r'

/-- The rest of a text after a given word. -/
def afterWord? (word : String) (cs : List Char) : Option (List Char) :=
  if word.toList.isPrefixOf cs then some (cs.drop word.length) else none

/-- The value of a hexadecimal digit. -/
def hexValue? (c : Char) : Option Nat :=
  if c.isDigit then some (c.toNat - 48)
  else if 'a' ≤ c ∧ c ≤ 'f' then some (c.toNat - 87)
  else if 'A' ≤ c ∧ c ≤ 'F' then some (c.toNat - 55)
  else none

/-- Reads four hexadecimal digits. -/
def hex4? : List Char → Option (Nat × List Char)
  | a :: b :: c :: d :: rest => do
    let w ← hexValue? a
    let x ← hexValue? b
    let y ← hexValue? c
    let z ← hexValue? d
    return (((w * 16 + x) * 16 + y) * 16 + z, rest)
  | _ => none

/-- A code unit that stands for the first half of a character. -/
def isHighHalf (n : Nat) : Bool := 0xD800 ≤ n && n < 0xDC00

/-- A code unit that stands for the second half of a character. -/
def isLowHalf (n : Nat) : Bool := 0xDC00 ≤ n && n < 0xE000

/-- The character of a code unit.  Half a character has none of its own and is
read as the replacement character. -/
def unitChar (n : Nat) : Char :=
  if isHighHalf n || isLowHalf n then Char.ofNat 0xFFFD else Char.ofNat n

/-- Reads the escape after a backslash and `u`.  Two halves that follow one
another make one character. -/
def unicodeEscape? (cs : List Char) : Option (Char × List Char) := do
  let (n, rest) ← hex4? cs
  if isHighHalf n then
    match rest with
    | '\\' :: 'u' :: rest' =>
      match hex4? rest' with
      | some (m, rest'') =>
        if isLowHalf m then
          some (Char.ofNat (0x10000 + (n - 0xD800) * 0x400 + (m - 0xDC00)), rest'')
        else some (unitChar n, rest)
      | none => some (unitChar n, rest)
    | _ => some (unitChar n, rest)
  else some (unitChar n, rest)

/-- The character that a one-letter escape stands for. -/
def plainEscape? : Char → Option Char
  | '"' => some '"'
  | '\\' => some '\\'
  | '/' => some '/'
  | 'b' => some '\x08'
  | 'f' => some '\x0c'
  | 'n' => some '\n'
  | 'r' => some '\r'
  | 't' => some '\t'
  | _ => none

/-- Reads a text after its opening mark, up to and with its closing mark.  The
characters read so far are held in reverse. -/
def textBody? : (fuel : Nat) → List Char → List Char → Option (String × List Char)
  | 0, _, _ => none
  | fuel + 1, cs, acc =>
    match cs with
    | [] => none
    | '"' :: rest => some (.ofList acc.reverse, rest)
    | '\\' :: 'u' :: rest => do
      let (c, rest') ← unicodeEscape? rest
      textBody? fuel rest' (c :: acc)
    | '\\' :: e :: rest => do
      let c ← plainEscape? e
      textBody? fuel rest (c :: acc)
    | c :: rest => if c.toNat < 32 || c == '\\' then none else textBody? fuel rest (c :: acc)

/-! ## Numbers -/

/-- The number that a run of digits stands for. -/
def digitsValue (cs : List Char) : Nat := cs.foldl (fun n c => 10 * n + (c.toNat - 48)) 0

/-- The fraction a text starts with: a point and at least one digit. -/
def takeFraction : List Char → List Char × List Char
  | '.' :: rest =>
    let digits := rest.takeWhile Char.isDigit
    if digits.isEmpty then ([], '.' :: rest) else ('.' :: digits, rest.dropWhile Char.isDigit)
  | cs => ([], cs)

/-- The exponent a text starts with: a mark, a sign or none, and at least one
digit. -/
def takeExponent : List Char → List Char × List Char
  | [] => ([], [])
  | e :: rest =>
    if e == 'e' || e == 'E' then
      let signed := rest.head? == some '+' || rest.head? == some '-'
      let sign := if signed then rest.take 1 else []
      let tail := if signed then rest.drop 1 else rest
      let digits := tail.takeWhile Char.isDigit
      if digits.isEmpty then ([], e :: rest)
      else (e :: sign ++ digits, tail.dropWhile Char.isDigit)
    else ([], e :: rest)

/-- The whole part a text starts with: a zero alone, or digits of which the
first is not zero. -/
def takeWhole : List Char → List Char × List Char
  | '0' :: rest => (['0'], rest)
  | cs => (cs.takeWhile Char.isDigit, cs.dropWhile Char.isDigit)

/-- Reads a number. -/
def number (cs : List Char) : Except Fault (Value × List Char) :=
  let (negative, unsigned) := if cs.head? = some '-' then (true, cs.drop 1) else (false, cs)
  let (whole, rest) := takeWhole unsigned
  if whole.isEmpty then .error .malformed
  else
    let (fraction, rest) := takeFraction rest
    let (power, rest) := takeExponent rest
    if fraction.isEmpty && power.isEmpty then
      if Text.digitLimit < whole.length then .error (.longNumber whole.length)
      else .ok (.int (Text.signed negative (digitsValue whole)), rest)
    else
      .ok (.real ((Double.unsigned? negative (whole ++ fraction ++ power)).getD .undefined), rest)

/-- The words that stand for a value. -/
def words : List (String × Value) :=
  [("null", .null), ("true", .bool true), ("false", .bool false), ("NaN", .real .undefined),
   ("Infinity", .real (.infinite false)), ("-Infinity", .real (.infinite true))]

/-- Reads one of the words that stand for a value. -/
def word? (cs : List Char) : Option (Value × List Char) :=
  words.findSome? fun (word, v) => (afterWord? word cs).map (v, ·)

/-! ## Values -/

/-- Reads a text after its opening mark. -/
def textAfterMark (cs : List Char) : Except Fault (String × List Char) :=
  match textBody? (cs.length + 1) cs [] with
  | some r => .ok r
  | none => .error .malformed

mutual

/-- Reads a value, with no blanks in front.  It may be nested so deeply. -/
def value (depth : Nat) : (fuel : Nat) → List Char → Except Fault (Value × List Char)
  | 0, _ => .error .malformed
  | fuel + 1, cs =>
    match cs with
    | '"' :: rest => do
      let (s, rest) ← textAfterMark rest
      return (.text s, rest)
    | '[' :: rest =>
      if depth = 0 then .error .tooDeep
      else match skipBlanks rest with
        | ']' :: rest => .ok (.list [], rest)
        | rest => do
          let (vs, rest) ← items (depth - 1) fuel rest
          return (.list vs, rest)
    | '\x7b' :: rest =>
      if depth = 0 then .error .tooDeep
      else match skipBlanks rest with
        | '\x7d' :: rest => .ok (.table [], rest)
        | rest => do
          let (es, rest) ← entries (depth - 1) fuel rest
          return (.table (Entries.ofPairs es), rest)
    | cs =>
      match word? cs with
      | some r => .ok r
      | none => number cs

/-- Reads the items of a list up to and with its closing bracket. -/
def items (depth : Nat) : (fuel : Nat) → List Char → Except Fault (List Value × List Char)
  | 0, _ => .error .malformed
  | fuel + 1, cs => do
    let (v, rest) ← value depth fuel cs
    match skipBlanks rest with
    | ']' :: rest => return ([v], rest)
    | ',' :: rest =>
      let (vs, rest) ← items depth fuel (skipBlanks rest)
      return (v :: vs, rest)
    | _ => .error .malformed

/-- Reads the entries of a table up to and with its closing brace. -/
def entries (depth : Nat) :
    (fuel : Nat) → List Char → Except Fault (List (String × Value) × List Char)
  | 0, _ => .error .malformed
  | fuel + 1, cs => do
    let '"' :: rest := cs | .error .malformed
    let (key, rest) ← textAfterMark rest
    let ':' :: rest := skipBlanks rest | .error .malformed
    let (v, rest) ← value depth fuel (skipBlanks rest)
    match skipBlanks rest with
    | '\x7d' :: rest => return ([(key, v)], rest)
    | ',' :: rest =>
      let (es, rest) ← entries depth fuel (skipBlanks rest)
      return ((key, v) :: es, rest)
    | _ => .error .malformed

end

/-- Reads a text that holds one value and nothing else but blanks. -/
def parse (s : String) : Except Fault Value := do
  let cs := s.toList
  let (v, rest) ← value depthLimit (2 * cs.length + 2) (skipBlanks cs)
  if (skipBlanks rest).isEmpty then return v else .error .malformed

end ContractClient.Json
