import ContractClient.Toml.Heading
import ContractClient.Toml.Scan

/-!
# Reading settings files

A settings file is read line by line, after its lines were made units of their own
(`logicalLines`).  A line is a heading, a table in braces or an entry.  A line
that is none of these has no effect.

As long as an entry is pending, lines belong to its text.  The text is complete at
a line that ends with its quotes, or with a bracket if the text is part of a list.
A text that is never completed is dropped.
-/

namespace ContractClient.Toml

/-- What was read of a file, and the entry that is pending. -/
structure Reading where
  /-- What was read. -/
  progress : Progress := {}
  /-- The entry that is pending. -/
  pending : Option Pending := none

namespace Reading

/-- Whether the blanks around a line are dropped.  They are part of a text that
has more than one line already, unless it is joined to the line. -/
def isTrimmed : Option Pending → Bool
  | none => true
  | some p => p.joins || '\n' ∉ p.text

/-- Whether a line completes a text, of which the first character is given. -/
def completes (opening : Char) (line : List Char) : Outcome Bool := do
  if opening = '[' then return (← last line) = ']'
  else return line.reverse.take 3 = [opening, opening, opening]

/-- A line of a pending entry. -/
def continueText (r : Reading) (p : Pending) (line : List Char) : Outcome Reading := do
  let text := p.text ++ line
  if ← completes (← first text) line then
    let v ← value depthLimit true text
    match r.progress.level with
    | .table _ => return { progress := r.progress.put p.key v }
    | _ => throw .wrongType
  else
    let (text, joins) := pendingText text
    return { r with pending := some { p with text, joins } }

/-- A line outside of texts, which is not blank. -/
def newLine (r : Reading) (line : List Char) : Outcome Reading := do
  match line with
  | '[' :: _ => return { progress := ← r.progress.openHeading line }
  | '\x7b' :: _ =>
    if line.getLast? ≠ some '\x7d' then throw .malformed
    let level ← inlineTable line r.progress.level
    return { progress := r.progress.change fun _ => level }
  | _ =>
    if '=' ∉ line then return r
    let (level, pending) ← entry line r.progress.level
    return { progress := r.progress.change fun _ => level, pending }

/-- One line. -/
def step (r : Reading) (line : List Char) : Outcome Reading :=
  let line := if isTrimmed r.pending then Text.trim line else line
  match r.pending with
  | none => if line.isEmpty then .ok r else r.newLine line
  | some p => if line.isEmpty ∧ p.joins then .ok r else r.continueText p line

end Reading

/-- Reads the text of a settings file.  Its lines end with line feeds. -/
def parse (s : String) : Outcome (Entries Value) := do
  let lines ← logicalLines s.toList
  let r ← lines.foldlM Reading.step {}
  return r.progress.root.fields

end ContractClient.Toml
