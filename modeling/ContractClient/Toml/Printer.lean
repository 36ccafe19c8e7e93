import ContractClient.Text.Lines
import ContractClient.Toml.Heading
import ContractClient.Value.Table

/-!
# Writing settings files

Settings are a table.  First come its plain entries, one a line, and then the
tables in it, each under a heading in brackets.  Tables in tables follow after all
tables of the level above.  An entry that is null is left out.

A list that holds a table is written as a list of tables, under headings in double
brackets.  In any other list a table is written as the list of its keys.

Texts are written as quoted texts in quotation marks.  Not every text has a form
that can be read back.  Characters that are escaped by two hexadecimal digits lose
their backslash, unless it follows another one, and a text cannot be written if
nothing stands in front of the only one of them (`joinEscapes`).
-/

namespace ContractClient.Toml

/-- Why settings are not written. -/
inductive PrintFault where
  /-- A character is needed where there is none. -/
  | position
  /-- Something is used as a table and is none. -/
  | wrongType
  /-- The text of a key is no key. -/
  | missingKey
  /-- A moment is on a clock that is a day or more apart from universal time. -/
  | offset
  deriving DecidableEq, Repr

/-- The text of a clock that is a day or more apart, in a message. -/
def offsetMessage : String :=
  "offset must be a timedelta strictly between -timedelta(hours=24) and timedelta(hours=24)."

/-! ## Texts -/

/-- What is written between two pieces that an escape of two digits divides.  The
escape stays one if an odd number of backslashes is in front of it.  A backslash
at the very start is counted only once there are others. -/
def escapeJoint (front : List Char) : List Char :=
  let count := (front.reverse.takeWhile (· == '\\')).length
  let toggles := if count = front.length then count - 1 else count
  if count = 0 ∨ toggles % 2 = 1 then ['x'] else ['u', '0', '0']

/-- A piece in which double backslashes are single ones. -/
def singleBackslashes (cs : List Char) : List Char := Text.replace ['\\', '\\'] ['\\'] cs

/-- Joins the pieces that follow escapes of two digits to the text in front of
them.  An empty text in front is left out together with the escape behind it. -/
def joinEscapes : (front : List Char) → List (List Char) → Except PrintFault (List Char)
  | front, [] => .ok front
  | [], [_] => .error .position
  | [], p :: back :: ps =>
    let front := singleBackslashes p
    if front.isEmpty then .error .position
    else joinEscapes (front ++ escapeJoint front ++ back) ps
  | c :: cs, back :: ps =>
    let front := singleBackslashes (c :: cs)
    joinEscapes (front ++ escapeJoint front ++ back) ps

/-- A text without its quotes, as it stands between quotation marks. -/
def quotableChars (cs : List Char) : List Char :=
  let body := ((Text.quoteChars cs).drop 1).dropLast
  if Text.quoteMark cs = '\'' then
    Text.replace ['"'] ['\\', '"'] (Text.replace ['\\', '\''] ['\''] body)
  else body

/-- A text as a value or as a key. -/
def renderText (s : String) : Except PrintFault String := do
  let pieces := Text.split ['\\', 'x'] (quotableChars s.toList)
  let body ← joinEscapes (pieces.head?.getD []) (pieces.drop 1)
  return "\"" ++ .ofList body ++ "\""

/-- Whether a text can be a key without quotes.  A line feed at its end is not
looked at. -/
def isBareKey (s : String) : Bool :=
  let cs := s.toList
  let body := if cs.getLast? = some '\n' then cs.dropLast else cs
  !body.isEmpty && body.all isBareChar

/-- A key. -/
def renderKey (s : String) : Except PrintFault String :=
  if isBareKey s then .ok s else renderText s

/-! ## Values -/

/-- A number of double precision.  Its exponent has no zero in front. -/
def renderReal (x : Double) : String :=
  let cs := x.render.toList
  .ofList (Text.replace "e-0".toList "e-".toList (Text.replace "e+0".toList "e+".toList cs))

/-- A moment.  Universal time is marked by a letter. -/
def renderMoment (m : Moment) : Except PrintFault String :=
  if Moment.perDay ≤ (m.offset.getD 0).natAbs then .error .offset
  else .ok (.ofList (Text.replace "+00:00".toList ['Z'] (m.render "T").toList))

mutual

/-- A value behind an equals sign or in a list. -/
def renderValue : Value → Except PrintFault String
  | .null => .ok "\"None\""
  | .bool b => .ok (if b then "true" else "false")
  | .int n => .ok (toString n)
  | .real x => .ok (renderReal x)
  | .text s => renderText s
  | .date d => .ok d.render
  | .time t => .ok t.render
  | .moment m => renderMoment m
  | .list vs => do return "[" ++ (← renderItems vs) ++ "]"
  | .table es => do return "[" ++ (← renderKeys es) ++ "]"

/-- The items of a list. -/
def renderItems : List Value → Except PrintFault String
  | [] => .ok ""
  | v :: vs => do return " " ++ (← renderValue v) ++ "," ++ (← renderItems vs)

/-- The keys of a table in a list. -/
def renderKeys : List (String × Value) → Except PrintFault String
  | [] => .ok ""
  | e :: es => do return " " ++ (← renderText e.1) ++ "," ++ (← renderKeys es)

end

/-! ## Tables -/

/-- The entries of a table as they are written, and the tables in it by the names
they are written with. -/
structure Section where
  /-- The lines of the plain entries. -/
  plain : String := ""
  /-- The lines of the lists of tables. -/
  lists : String := ""
  /-- The tables. -/
  tables : Entries Value := []

/-- The lines of a section. -/
def Section.text (s : Section) : String := s.plain ++ s.lists

/-- Whether a value is a list that holds a table. -/
def isTableList (v : Value) : Bool := v.items.any fun u => u matches .table _

/-- What something is called inside of a table that has a name or none. -/
def below (outer name : String) : String := if outer = "" then name else outer ++ "." ++ name

/-- The table that a value is in a list of tables.  A text or a list may stand
there if it is empty.  Before anything else is found missing, the first of its
parts is written as a key. -/
def tableInList : Value → Except PrintFault Mapping
  | .table es => .ok (.ofEntries es)
  | v =>
    match v.parts? with
    | some [] => .ok []
    | some (part :: _) => do
      let _ ← renderKey part.render
      throw .wrongType
    | none => .error .wrongType

/-- Writes the entries of a table one after the other.  `writeItem` writes a table
of a list of tables under its name. -/
def sectionWith (writeItem : String → Mapping → Except PrintFault (String × String))
    (whole : Mapping) (outer : String) : Mapping → Section → Except PrintFault Section
  | [], s => .ok s
  | (k, _) :: es, s => do
    let key := k.render
    let name ← renderKey key
    let s ← match whole.get? key with
      | none => throw .missingKey
      | some .null => pure s
      | some (.table inner) => pure { s with tables := s.tables.put name (.table inner) }
      | some v =>
        if isTableList v then do
          let lines ← v.items.mapM fun item => do
            let (own, more) ← writeItem (below outer name) (← tableInList item)
            return "[[" ++ below outer name ++ "]]\n" ++ own ++ "\n" ++ more
          pure { s with lists := s.lists ++ "".intercalate lines }
        else do
          pure { s with plain := s.plain ++ name ++ " = " ++ (← renderValue v) ++ "\n" }
    sectionWith writeItem whole outer es s

/-- Writes tables of a list of tables that are nested in one another, level by
level.  `write` writes one table under its name. -/
def nestedTables (write : String → Mapping → Except PrintFault Section) (outer : String) :
    (depth : Nat) → Entries Value → Except PrintFault String
  | 0, _ => .ok ""
  | depth + 1, tables => do
    let parts ← tables.mapM fun (name, v) => do
      let s ← write (below outer name) (.ofEntries v.fields)
      let lines := if s.text = "" then "" else "[" ++ below outer name ++ "]\n" ++ s.text
      return (lines, s.tables.map fun (inner, w) => (name ++ "." ++ inner, w))
    let inner := Entries.ofPairs (parts.flatMap Prod.snd)
    if inner.isEmpty then return "".intercalate (parts.map Prod.fst)
    else return "".intercalate (parts.map Prod.fst) ++ (← nestedTables write outer depth inner)

/-- Writes a table.  `depth` bounds how deeply lists of tables are nested. -/
def tableSection : (depth : Nat) → String → Mapping → Except PrintFault Section
  | 0, _, _ => .ok {}
  | depth + 1, outer, m =>
    sectionWith (fun name item => do
      let s ← tableSection depth name item
      let inner ← nestedTables (tableSection depth) name depth s.tables
      -- lines of a list of tables go behind the empty line
      if s.text.toList.head? = some '[' then return ("", s.text ++ inner)
      else return (s.text, inner)) m outer m {}

/-! ## Files -/

/-- A heading with the lines below it.  An empty line is in front of it unless the
file starts there. -/
def withHeading (before name lines : String) : String :=
  let gap := if before = "" ∨ before.endsWith "\n\n" then "" else "\n"
  before ++ gap ++ "[" ++ name ++ "]\n" ++ lines

/-- Writes the tables of one level behind what is written.  A table that holds
nothing but tables has no heading.  The tables of the next level are given beside
the text. -/
def writeLevel (depth : Nat) : (written : String) → List (String × Mapping) →
    Except PrintFault (String × List (String × Mapping))
  | written, [] => .ok (written, [])
  | written, (name, m) :: rest => do
    let s ← tableSection depth name m
    let written :=
      if s.text = "" ∧ !s.tables.isEmpty then written else withHeading written name s.text
    let inner := s.tables.map fun (key, v) => (name ++ "." ++ key, Mapping.ofEntries v.fields)
    let (written, more) ← writeLevel depth written rest
    return (written, inner ++ more)

/-- Writes all levels. -/
def writeLevels (depth : Nat) : (fuel : Nat) → (written : String) → List (String × Mapping) →
    Except PrintFault String
  | 0, written, _ | _, written, [] => .ok written
  | fuel + 1, written, level => do
    let (written, next) ← writeLevel depth written level
    writeLevels depth fuel written next

/-- The text of settings: plain entries, and one table whose keys may be any
values. -/
def render (settings : Entries Value) (tableName : String) (table : Option Mapping) :
    Except PrintFault String := do
  let inner := (table.getD []).map Prod.snd
  let depth := Value.depth (.table settings) + Value.depth (.list inner)
  let s ← tableSection depth "" (.ofEntries settings)
  let level := s.tables.map fun (name, v) => (name, Mapping.ofEntries v.fields)
  let tables := level ++ (table.map fun m => (tableName, m)).toList
  writeLevels depth (depth + 1) s.text tables

end ContractClient.Toml
