import ContractClient.Toml.Entry

/-!
# Headings of settings files

A heading in brackets names the table that the entries below it belong to.  Its
name has parts with points between them, and leads from the outermost table
through others to the one that is meant.  Tables on the way are created if they
are missing.  These are *implicit*, and may be opened once by a heading of their
own.

A heading in double brackets adds a table to a list of tables.  Where a name leads
to a list, its last item is meant.

`Route` is the way to the table that is open.  It is kept instead of the table
itself, so that there is one copy of what was read.
-/

namespace ContractClient.Toml

/-! ## Routes -/

/-- One step from a value into it. -/
inductive Hop where
  /-- Into a table, by key. -/
  | key (name : String)
  /-- To the last item of a list. -/
  | last
  deriving DecidableEq, Repr

/-- The way from the outermost table to a value. -/
abbrev Route := List Hop

/-- The last part of a value that has parts. -/
def lastPart : Value → Outcome Value
  | .list vs => last vs
  | .text s => do return .text (.ofList [← last s.toList])
  | _ => .error .wrongType

/-- The value one step away. -/
def Hop.follow (hop : Hop) (v : Value) : Value :=
  match hop, v with
  | key name, .table es => (Entries.get? es name).getD .null
  | last, v => (lastPart v).toOption.getD .null
  | key _, _ => .null

/-- The value at the end of a route. -/
def Route.follow : Route → Value → Value
  | [], v => v
  | hop :: route, v => follow route (hop.follow v)

/-- The outermost value after a change at the end of a route. -/
def Route.modify (change : Value → Value) : Route → Value → Value
  | [], v => change v
  | .key name :: route, .table es =>
    .table (Entries.put es name (modify change route ((Entries.get? es name).getD .null)))
  | .last :: route, .list vs =>
    match vs.reverse with
    | [] => .list vs
    | v :: rest => .list (modify change route v :: rest).reverse
  | _ :: _, v => v

/-! ## Names -/

/-- Whether a character can stand in a key without quotes. -/
def isBareChar (c : Char) : Bool := c.isAlphanum || c == '_' || c == '-'

/-- What stands between the quotes of a text, if the quote it starts with ends
it. -/
def betweenQuotes? (cs : List Char) : Option (List Char) :=
  if cs.length ≠ 1 ∧ cs.head? = cs.getLast? then some (cs.drop 1).dropLast else none

/-- A part of a name in quotes, and the parts that are left.  It goes on as long
as the quote it starts with does not end it. -/
def quotedPart (raw : List Char) : List (List Char) → Outcome (List Char × List (List Char))
  | [] =>
    match betweenQuotes? (Text.trim raw) with
    | some name => .ok (name, [])
    | none => .error .malformed
  | p :: ps =>
    match betweenQuotes? (Text.trim raw) with
    | some name => .ok (name, p :: ps)
    | none => quotedPart (raw ++ '.' :: p) ps

/-- The parts of a name, from the pieces between its points.  `fuel` is the number
of pieces. -/
def nameParts : (fuel : Nat) → List (List Char) → Outcome (List String)
  | fuel + 1, p :: ps => do
    let cs := Text.trim p
    if (cs.head?.map isQuote).getD false then
      let (name, rest) ← quotedPart cs ps
      return .ofList name :: (← nameParts fuel rest)
    else if cs.isEmpty ∨ !cs.all isBareChar then throw .malformed
    else return .ofList cs :: (← nameParts fuel ps)
  | _, _ => .ok []

/-- The parts of the name in a heading, which is given behind its opening
brackets.  Nothing but blanks may follow the closing ones. -/
def headingParts (closing line : List Char) : Outcome (List String) :=
  let count := separatorCount closing line
  let parts := Text.splitUpTo closing count line
  if parts.length ≤ count ∨ !((parts.getLast?.getD []).all Text.isBlank) then .error .malformed
  else
    let pieces := Text.split ['.'] (Text.joinWith closing parts.dropLast)
    nameParts pieces.length pieces

/-! ## Opening a table -/

/-- What was read of a file: the outermost table, the way to the table that is
open, and the names of the implicit tables. -/
structure Progress where
  /-- The outermost table. -/
  root : Value := .table []
  /-- The way to the open table. -/
  route : Route := []
  /-- The names of the implicit tables. -/
  implicit : List String := []

namespace Progress

/-- The value at the end of the route. -/
def level (p : Progress) : Value := p.route.follow p.root

/-- Changes the value at the end of the route. -/
def change (p : Progress) (f : Value → Value) : Progress :=
  { p with root := p.route.modify f p.root }

/-- Moves on by one step. -/
def hop (p : Progress) (h : Hop) : Progress := { p with route := p.route ++ [h] }

/-- Puts a value under a key of the table at the end of the route. -/
def put (p : Progress) (name : String) (v : Value) : Progress :=
  p.change fun level => .table (level.fields.put name v)

/-- A new table, in a list of its own if one is wanted. -/
def newTable (inList : Bool) : Value := if inList then .list [.table []] else .table []

/-- Opens a name that is there at the end of a heading.  An implicit table is
opened as it is, and a list of tables gets one more. -/
def reopen (p : Progress) (name : String) (v : Value) (isItem : Bool) : Outcome Progress :=
  if name ∈ p.implicit then
    if isItem then .error .malformed
    else .ok { p with implicit := p.implicit.erase name }
  else if isItem then
    match v with
    | .list vs => .ok (p.put name (.list (vs ++ [.table []])))
    | _ => .error .notExtensible
  else .error .malformed

/-- Makes sure that a name is there, in a table. -/
def ensureInTable (p : Progress) (es : Entries Value) (name : String) (isItem isLast : Bool) :
    Outcome Progress :=
  match es.get? name with
  | some v => if isLast then p.reopen name v isItem else .ok p
  | none =>
    let p := if isLast then p else { p with implicit := p.implicit ++ [name] }
    .ok (p.put name (newTable (isItem && isLast)))

/-- Makes sure that a name is there, in the last item of what is no table. -/
def ensureInItem (p : Progress) (name : String) (isItem isLast : Bool) : Outcome Progress := do
  let item ← lastPart p.level
  let p := p.hop .last
  match item with
  | .table es =>
    if Entries.has es name then return p
    else return p.put name (newTable (isItem && isLast))
  | _ => throw .wrongType

/-- Moves on by one part of a name.  In a list of tables the last item is
meant. -/
def enter (p : Progress) (name : String) (isItem isLast : Bool) : Outcome Progress := do
  if name = "" then throw .malformed
  let p ← match p.level with
    | .table es => p.ensureInTable es name isItem isLast
    | _ => p.ensureInItem name isItem isLast
  let p := p.hop (.key name)
  if !isItem then return p
  match p.level with
  | .table _ => return p
  | v =>
    let _ ← lastPart v
    return p.hop .last

/-- Moves on by the parts of a name. -/
def enterAll (isItem : Bool) : Progress → List String → Outcome Progress
  | p, [] => .ok p
  | p, name :: names => do
    enterAll isItem (← p.enter name isItem names.isEmpty) names

/-- Opens the table of a heading. -/
def openHeading (p : Progress) (line : List Char) : Outcome Progress :=
  match line with
  | ['['] => .error .malformed
  | '[' :: '[' :: rest => do
    enterAll true { p with route := [] } (← headingParts [']', ']'] rest)
  | _ :: rest => do enterAll false { p with route := [] } (← headingParts [']'] rest)
  | [] => .ok p

end Progress

end ContractClient.Toml
