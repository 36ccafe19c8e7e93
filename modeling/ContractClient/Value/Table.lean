import ContractClient.Value

/-!
# Tables from values

Where a table is expected, a list of pairs will do as well.  A pair is anything
with two parts: a list of two items, a text of two characters, or a table of
two keys.  Of two pairs with one key the later counts.

The key of a pair may be any value that has no parts of its own to change, so not
a list or a table.  A table with such keys is a `Mapping`.  Numbers are one key
if they are equal, and the truth values are the numbers zero and one.
-/

namespace ContractClient

/-- A table with values for keys, in order of first insertion. -/
abbrev Mapping := List (Value × Value)

namespace Value

/-! ## Keys -/

/-- The whole number that a value equals, if it equals one. -/
def wholeNumber? : Value → Option Int
  | bool b => some (if b then 1 else 0)
  | int n => some n
  | real x => x.toInt?
  | _ => none

/-- Whether two values are one key.  What is no number is never the same as
anything. -/
def isSameKey (a b : Value) : Bool :=
  match a.wholeNumber?, b.wholeNumber? with
  | some m, some n => m == n
  | none, none =>
    match a, b with
    | null, null => true
    | real x, real y => x == y && x != .undefined
    | text s, text t => s == t
    | date d, date e => d == e
    | time t, time u => t == u
    | moment m, moment n => m == n
    | _, _ => false
  | _, _ => false

/-- Whether a value can be a key. -/
def isKey : Value → Bool
  | list _ | table _ => false
  | _ => true

end Value

namespace Mapping

/-- Writes a value to a key.  A key that is there stays as it is. -/
def put : Mapping → Value → Value → Mapping
  | [], key, v => [(key, v)]
  | (k, w) :: es, key, v => if k.isSameKey key then (k, v) :: es else (k, w) :: put es key v

/-- The table that pairs give when they are written one after the other. -/
def ofPairs (pairs : List (Value × Value)) : Mapping :=
  pairs.foldl (fun es p => put es p.1 p.2) []

/-- All pairs of the second table written over the first. -/
def override (es others : Mapping) : Mapping := others.foldl (fun es p => put es p.1 p.2) es

/-- A table with text keys. -/
def ofEntries (es : Entries Value) : Mapping := es.map fun e => (.text e.1, e.2)

/-- The value under a text. -/
def get? : Mapping → String → Option Value
  | [], _ => none
  | (k, v) :: es, key => if k.isSameKey (.text key) then some v else get? es key

/-- The table with text keys that a table is, if all its keys are texts. -/
def toEntries? : Mapping → Option (Entries Value)
  | [] => some []
  | (.text k, v) :: es => (toEntries? es).map ((k, v) :: ·)
  | _ :: _ => none

end Mapping

namespace Value

/-! ## Pairs -/

/-- Why a value is not a table. -/
inductive TableFault where
  /-- The part at this position should be a pair, and has another number of
  parts. -/
  | wrongSize (position size : Nat)
  /-- The value, or a part of it, has no parts at all or cannot be a key. -/
  | wrongType
  deriving DecidableEq, Repr

/-- The parts of a value, if it has parts. -/
def parts? : Value → Option (List Value)
  | list vs => some vs
  | text s => some (s.toList.map fun c => text (.ofList [c]))
  | table es => some (es.map fun e => text e.1)
  | _ => none

/-- The message for a part that should be a pair and has another number of
parts. -/
def sizeMessage (position size : Nat) : String :=
  "dictionary update sequence element #" ++ toString position ++ " has length " ++
    toString size ++ "; 2 is required"

/-- The pair a value stands for, at a position of a list. -/
def pair? (position : Nat) (v : Value) : Except TableFault (Value × Value) :=
  match v.parts? with
  | none => .error .wrongType
  | some [k, v] => if k.isKey then .ok (k, v) else .error .wrongType
  | some vs => .error (.wrongSize position vs.length)

/-- The pairs that values stand for, from a position on. -/
def pairsFrom (position : Nat) : List Value → Except TableFault (List (Value × Value))
  | [] => .ok []
  | v :: vs => do
    let p ← pair? position v
    let ps ← pairsFrom (position + 1) vs
    return p :: ps

/-- The table a value stands for. -/
def toTable : Value → Except TableFault Mapping
  | table es => .ok (.ofEntries es)
  | v =>
    match v.parts? with
    | none => .error .wrongType
    | some vs => (pairsFrom 0 vs).map Mapping.ofPairs

end Value

end ContractClient
