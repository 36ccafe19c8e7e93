import ContractClient.Value

/-!
# Checking the shape of a value

A structured value is checked against the shape a record needs.  The check
gives the record, or all the faults it found.  A fault is a place in the value
and what is wrong there.  Faults are listed depth first, in the order in which
the record declares its fields.

`Checked` is the outcome of a check.  Two outcomes are joined by `seq`, which
keeps the faults of both.  So a record is checked by one line per field, and no
fault hides another one.

Entries that a record does not declare are ignored.  A field with a default may
be absent.  It may be null only if it is optional.
-/

namespace ContractClient

/-! ## Faults -/

/-- One step into a value. -/
inductive Step where
  /-- Into a table or a record, by key. -/
  | key (name : String)
  /-- Into a list, by position. -/
  | index (i : Nat)
  deriving DecidableEq, Repr

/-- What can be wrong at a place. -/
inductive FaultKind where
  /-- A field without a default is absent. -/
  | missing
  /-- Not a text. -/
  | textType
  /-- Not a list. -/
  | listType
  /-- Not a table. -/
  | tableType
  /-- Not a table where a record is expected. -/
  | recordType
  /-- Not a whole number, nor anything that could be one. -/
  | intType
  /-- A text that does not spell a whole number. -/
  | intParsing
  /-- A number with too many digits where a whole number is expected. -/
  | intSize
  /-- A number with a fraction where a whole number is expected. -/
  | intFromFloat
  /-- No number, or an infinite one, where a whole number is expected. -/
  | finiteNumber
  /-- Not a truth value, nor anything that could be one. -/
  | boolType
  /-- A text or number that does not stand for a truth value. -/
  | boolParsing
  deriving DecidableEq, Repr

/-- A fault: a place in the value, from the outside in, and what is wrong. -/
structure Fault where
  /-- The steps that lead to the place. -/
  path : List Step
  /-- What is wrong there. -/
  kind : FaultKind
  deriving DecidableEq, Repr

/-! ## Outcomes -/

/-- The outcome of a check. -/
inductive Checked (α : Type) where
  | ok (a : α)
  | faults (fs : List Fault)

namespace Checked

variable {α β : Type}

/-- An outcome under a function. -/
def map (f : α → β) : Checked α → Checked β
  | ok a => ok (f a)
  | faults fs => faults fs

/-- Applies one outcome to another and keeps the faults of both. -/
def seq : Checked (α → β) → Checked α → Checked β
  | ok f, ok a => ok (f a)
  | ok _, faults fs => faults fs
  | faults fs, ok _ => faults fs
  | faults fs, faults gs => faults (fs ++ gs)

instance : Functor Checked where
  map := Checked.map

instance : Applicative Checked where
  pure := ok
  seq f x := seq f (x ())

/-- The outcome as a result or an error. -/
def toExcept : Checked α → Except (List Fault) α
  | ok a => .ok a
  | faults fs => .error fs

/-- One fault at the place under check. -/
def fault (kind : FaultKind) : Checked α := faults [⟨[], kind⟩]

/-- Moves the faults of an outcome one step inward. -/
def under (s : Step) : Checked α → Checked α
  | ok a => ok a
  | faults fs => faults (fs.map fun f => { f with path := s :: f.path })

/-! ## Plain values -/

/-- A text. -/
def text : Value → Checked String
  | .text s => ok s
  | _ => fault .textType

/-- The value that check gives, or nothing for null. -/
def optional (check : Value → Checked α) : Value → Checked (Option α)
  | .null => ok none
  | v => (check v).map some

/-! ## Whole numbers -/

/-- The text without the plus sign it starts with.  Two signs are none. -/
def dropPlus? : List Char → Option (List Char)
  | '+' :: '-' :: _ => none
  | '+' :: cs => some cs
  | cs => some cs

/-- The text without the zeros it starts with, and without the underscores among
them.  The last character stays if nothing else would, and so does the one in
front of a point.  A text that starts with neither a digit nor a minus sign is
no number. -/
def dropZeros? : List Char → Option (List Char)
  | '0' :: cs =>
    let skipped := '0' :: cs.takeWhile fun c => c == '0' || c == '_'
    match cs.drop (skipped.length - 1) with
    | [] => some (skipped.drop (skipped.length - 1))
    | '.' :: rest => some (skipped.drop (skipped.length - 1) ++ '.' :: rest)
    | c :: rest => if c.isDigit then some (c :: rest) else none
  | c :: cs => if c.isDigit ∨ c = '-' then some (c :: cs) else none
  | [] => none

/-- The text without the point and the zeros it ends with. -/
def dropFraction (cs : List Char) : List Char :=
  let zeros := (cs.dropWhile (· != '.')).drop 1
  if !zeros.isEmpty && zeros.all (· == '0') then cs.takeWhile (· != '.') else cs

/-- The text without underscores.  None stands at an end of the text, and no two
stand together. -/
def dropUnderscores? (cs : List Char) : Option (List Char) := Text.joinDigits? cs

/-- The plain form of a text that may spell a whole number. -/
def plainNumber? (s : String) : Option (List Char) := do
  let cs ← dropZeros? (← dropPlus? (Text.trimSpace s.toList))
  dropUnderscores? (dropFraction cs)

/-- The whole number that a plain text spells: a minus sign or none, and digits
without a needless zero. -/
def ofPlain? (cs : List Char) : Option Int :=
  let (negative, digits) := if cs.head? = some '-' then (true, cs.drop 1) else (false, cs)
  if digits.isEmpty ∨ !digits.all Char.isDigit ∨ (digits.head? = some '0' ∧ digits.length ≠ 1) then
    none
  else some (Text.signed negative (digits.foldl (fun n c => 10 * n + (c.toNat - 48)) 0))

/-- The whole number that a text spells. -/
def intOfText (s : String) : Checked Int :=
  match plainNumber? s with
  | none => fault .intParsing
  | some cs =>
    if Text.digitLimit < cs.length then fault .intSize
    else match ofPlain? cs with
      | some n => ok n
      | none => fault .intParsing

/-- Whether a whole number is less than `2 ^ 63` without its sign. -/
def isMachineSized (n : Int) : Bool := n.natAbs < Nat.pow 2 63

/-- A whole number.  Truth values, numbers without a fraction and texts that
spell one are taken for one. -/
def int : Value → Checked Int
  | .int n => ok n
  | .bool b => ok (if b then 1 else 0)
  | .real x =>
    if !x.isFinite then fault .finiteNumber
    else match x.toInt? with
      | some n => if isMachineSized n then ok n else fault .intSize
      | none => fault .intFromFloat
  | .text s => intOfText s
  | _ => fault .intType

/-! ## Truth values -/

/-- The truth value that a number stands for. -/
def boolOfInt (n : Int) : Checked Bool :=
  if n = 0 then ok false
  else if n = 1 then ok true
  else if isMachineSized n ∨ n = -Nat.pow 2 63 then fault .boolParsing
  else fault .boolType

/-- A truth value.  The numbers zero and one, and the usual words in any case,
are taken for one. -/
def bool : Value → Checked Bool
  | .bool b => ok b
  | .int n => boolOfInt n
  | .real x =>
    match x.toInt? with
    | some n => if isMachineSized n then boolOfInt n else fault .boolType
    | none => fault .boolType
  | .text s =>
    let word := s.toLower
    if ["0", "off", "f", "false", "n", "no"].contains word then ok false
    else if ["1", "on", "t", "true", "y", "yes"].contains word then ok true
    else fault .boolParsing
  | _ => fault .boolType

/-! ## Lists, tables and records -/

/-- The items of a list, checked one by one from a given position. -/
def itemsFrom (check : Value → Checked α) : (i : Nat) → List Value → Checked (List α)
  | _, [] => ok []
  | i, v :: vs => List.cons <$> (check v).under (.index i) <*> itemsFrom check (i + 1) vs

/-- A list. -/
def listOf (check : Value → Checked α) : Value → Checked (List α)
  | .list vs => itemsFrom check 0 vs
  | _ => fault .listType

/-- The entries of a table, checked one by one. -/
def entriesOf (check : Value → Checked α) : Entries Value → Checked (Entries α)
  | [] => ok []
  | (k, v) :: es =>
    List.cons <$> ((check v).under (.key k)).map (k, ·) <*> entriesOf check es

/-- A table. -/
def tableOf (check : Value → Checked α) : Value → Checked (Entries α)
  | .table es => entriesOf check es
  | _ => fault .tableType

/-- A record, checked by its entries. -/
def record (check : Entries Value → Checked α) : Value → Checked α
  | .table es => check es
  | _ => fault .recordType

/-- A field that must be there. -/
def required (es : Entries Value) (name : String) (check : Value → Checked α) : Checked α :=
  match es.get? name with
  | some v => (check v).under (.key name)
  | none => (fault .missing).under (.key name)

/-- A field with a default. -/
def defaulted (es : Entries Value) (name : String) (check : Value → Checked α) (default : α) :
    Checked α :=
  match es.get? name with
  | some v => (check v).under (.key name)
  | none => ok default

end Checked

end ContractClient
