import ContractClient.Toml.Number
import ContractClient.Toml.Pieces
import ContractClient.Toml.Quoted

/-!
# Entries of settings files

An entry is a key, an equals sign and a value.  The key may have several parts
with points between them, which lead through tables that are created on the way.
The value may be a text of several lines that is not complete at the end of the
line.  Then the entry is *pending*.

Values are nested in lists and in tables.  What reads an entry or an item is given
a reader for the values inside, and `value` closes the circle.  It goes down one
level for each list and each table, and `depth` bounds how far.
-/

namespace ContractClient.Toml

/-! ## Keys -/

/-- A text of several lines that is not complete. -/
structure Pending where
  /-- The key of the text. -/
  key : String
  /-- What was read of the value. -/
  text : List Char
  /-- Whether the next line is joined to the text without a line break. -/
  joins : Bool

/-- The parts of a key with points.  Points inside of quotes do not count.  Every
other piece between quotes is taken for quoted. -/
def quotedParts (quoted : Bool) : List (List Char) → List (List Char)
  | [] => []
  | p :: ps =>
    (if quoted then [p] else (Text.split ['.'] p).map Text.trim) ++ quotedParts (!quoted) ps

/-- The tables a key leads through, and its last part. -/
def keyParts (key : List Char) : Outcome (List (List Char) × List Char) :=
  if '.' ∈ key then
    let parts :=
      if key.any isQuote then quotedParts false (quotePieces key) else Text.split ['.'] key
    match parts.reverse.dropWhile List.isEmpty with
    | [] => .error .position
    | name :: levels => .ok (levels.reverse, Text.trim name)
  else do
    let a ← first key
    if isQuote a ∧ key.getLast? = some a then return ([], ← unescape (key.drop 1).dropLast)
    else return ([], key)

/-- Goes down through tables, which are created if they are missing, and changes
what is found.  Empty parts of a key lead nowhere. -/
def descend {α : Type} (change : Value → Outcome (Value × α)) :
    List (List Char) → Value → Outcome (Value × α)
  | [], v => change v
  | [] :: levels, v => descend change levels v
  | level :: levels, v =>
    match v with
    | .table es => do
      let key := String.ofList level
      let (inner, a) ← descend change levels ((Entries.get? es key).getD (.table []))
      return (.table (Entries.put es key inner), a)
    | _ => .error .wrongType

/-- A table with one more entry.  The key must be new. -/
def addEntry (key : String) (v : Value) : Value → Outcome Value
  | .table es =>
    if Entries.has es key then .error .malformed else .ok (.table (Entries.put es key v))
  | _ => .error .malformed

/-- Whether an entry could be added under a key. -/
def checkKey (key : String) : Value → Outcome Unit
  | .table es => if Entries.has es key then .error .malformed else .ok ()
  | _ => .error .malformed

/-! ## Splitting a line -/

/-- Whether the text behind an equals sign is the start of a value by its first
character, or is a truth value. -/
def startsValue (cs : List Char) : Bool :=
  match cs with
  | [] => true
  | c :: _ =>
    [' ', '\t', '\'', '"', '[', '\x7b'].contains c ||
      Text.trim cs == "true".toList || Text.trim cs == "false".toList

/-- Whether a text is a number, a date, a moment or a time of day. -/
def isPlainValue (cs : List Char) : Outcome Bool := do
  if (Double.parse? cs).isSome then return true
  if (← dateValue cs).isSome then return true
  return (timeForm? cs).isSome

/-- The text in front of an equals sign, the text behind it, and whether the text
behind it could be a number of the strict form. -/
structure Sides where
  /-- The text in front. -/
  key : List Char
  /-- The text behind. -/
  value : List Char
  /-- Whether numbers are written strictly. -/
  isStrict : Bool

/-- The sides of the equals sign at a position. -/
def sidesAt (line : List Char) (count : Nat) : List Char × List Char :=
  let parts := Text.splitUpTo ['='] count line
  (Text.joinWith ['='] parts.dropLast, parts.getLast?.getD [])

/-- Moves on to a later equals sign as long as the text behind it is no value. -/
def settleSides (line : List Char) : (fuel count : Nat) → Sides → Outcome Sides
  | 0, _, _ => .error .malformed
  | fuel + 1, count, s => do
    if startsValue s.value then return s
    if ← isPlainValue s.value then return s
    let (key, value) := sidesAt line (count + 1)
    if value = s.value then throw .malformed
    settleSides line fuel (count + 1)
      { key, value, isStrict := s.isStrict && Toml.isStrict value }

/-- The sides of the equals sign of an entry. -/
def sidesOf (line : List Char) : Outcome Sides := do
  let count := separatorCount ['='] line
  let (key, value) := sidesAt line count
  let startsWithDigit := (value.head?.map Char.isDigit).getD false
  let plain := if startsWithDigit then value.filter (· != '_') else value
  let s ← settleSides line (line.length + 3) count
    { key, value := plain, isStrict := Toml.isStrict value }
  return { s with key := Text.trim s.key, value := Text.trim s.value }

/-! ## Values -/

/-- The kinds of values.  The items of a list are of one kind. -/
inductive Kind where
  | bool
  | text
  | list
  | table
  | time
  | date
  | whole
  | real
  deriving DecidableEq, Repr

/-- The kind of a value. -/
def kindOf : Value → Kind
  | .null | .bool _ => .bool
  | .text _ => .text
  | .list _ => .list
  | .table _ => .table
  | .time _ => .time
  | .date _ | .moment _ => .date
  | .int _ => .whole
  | .real _ => .real

/-- A value without parts: a truth value, a text, a time of day, a date, a moment
or a number. -/
def plainValue (isStrict : Bool) (cs : List Char) : Outcome Value := do
  let c ← first cs
  if cs = "true".toList then return .bool true
  if cs = "false".toList then return .bool false
  let word := cs.map Char.toLower
  if word = "true".toList ∨ word = "false".toList then throw .malformed
  if isQuote c then return .text (← quotedText c cs)
  match timeForm? cs with
  | some t =>
    match t.check with
    | .ok t => return .time t
    | .error _ => throw .malformed
  | none =>
    match ← dateValue cs with
    | some v => return v
    | none =>
      match if isStrict then number? cs else none with
      | some v => return v
      | none => throw .malformed

/-- What a text of several lines holds after its first line. -/
def pendingText (cs : List Char) : List Char × Bool :=
  if endsEscaping cs then (cs.dropLast, true) else (cs ++ ['\n'], false)

/-- The items of a list.  They are of the given kind, or of the kind of the
first.  `read` reads one item. -/
def itemsWith (read : List Char → Outcome Value) :
    Option Kind → List (List Char) → Outcome (List Value)
  | _, [] => .ok []
  | kind, p :: ps =>
    if p.all Text.isBlank then itemsWith read kind ps
    else do
      let v ← read (Text.trim p)
      if kind.any (· ≠ kindOf v) then throw .malformed
      return v :: (← itemsWith read (some (kindOf v)) ps)

/-- An entry, added to a table.  `read` reads its value, and is told whether
numbers are written strictly. -/
def entryWith (read : Bool → List Char → Outcome Value) (line : List Char) (level : Value) :
    Outcome (Value × Option Pending) := do
  let s ← sidesOf line
  let (levels, name) ← keyParts s.key
  let key := String.ofList name
  let change (level : Value) : Outcome (Value × Option Pending) := do
    if ← opensLong s.value then
      checkKey key level
      if key = "" then throw .unset
      let (text, joins) := pendingText s.value
      return (level, some { key, text, joins })
    else
      let v ← read s.isStrict s.value
      return (← addEntry key v level, none)
  descend change levels level

/-- Entries, added to a table one after the other.  A text of several lines ends
them. -/
def entriesWith (read : Bool → List Char → Outcome Value) :
    List (List Char) → Value → Outcome Value
  | [], level => .ok level
  | e :: es, level => do
    match ← entryWith read e level with
    | (level, none) => entriesWith read es level
    | (level, some _) => return level

/-- The value that a text spells. -/
def value : (depth : Nat) → (isStrict : Bool) → List Char → Outcome Value
  | 0, _, _ => .error .tooDeep
  | depth + 1, isStrict, cs =>
    match cs with
    | [] => .error .malformed
    | '[' :: _ => do
      let pieces ← listPieces (Text.trim cs)
      return .list (← itemsWith (value depth true) none pieces)
    | '\x7b' :: _ => do entriesWith (value depth) (← entriesOfTable cs) (.table [])
    | cs => plainValue isStrict cs

/-- How deeply values are nested at most. -/
def depthLimit : Nat := 480

/-- An entry, added to a table. -/
def entry (line : List Char) (level : Value) : Outcome (Value × Option Pending) :=
  entryWith (value depthLimit) line level

/-- The entries of a table in a line, added to a table. -/
def inlineTable (line : List Char) (level : Value) : Outcome Value := do
  entriesWith (value depthLimit) (← entriesOfTable line) level

end ContractClient.Toml
