import ContractClient.Calendar.Moment
import ContractClient.Double
import ContractClient.Entries
import ContractClient.Text.Quoted

/-!
# Structured values

Contracts and settings arrive as structured values: nothing, truth values,
whole numbers, numbers of double precision, texts, lists and tables.  Settings
may also hold dates, times of day and moments.  A value is what a reader of a
data format delivers before anything is known about its shape.

`isTruthy` says whether a value counts as given where an absent value and an
empty one mean the same.  `render` is the text of a value in a message.
-/

namespace ContractClient

/-- A value of a data format. -/
inductive Value where
  | null
  | bool (b : Bool)
  | int (n : Int)
  | real (x : Double)
  | text (s : String)
  | date (d : Date)
  | time (t : TimeOfDay)
  | moment (m : Moment)
  | list (items : List Value)
  | table (entries : List (String × Value))
  deriving Inhabited

namespace Value

/-! ## Views -/

/-- The text a value is, if it is one. -/
def text? : Value → Option String
  | text s => some s
  | _ => none

/-- The items of a list.  Any other value has none. -/
def items : Value → List Value
  | list vs => vs
  | _ => []

/-- The entries of a table.  Any other value has none. -/
def fields : Value → Entries Value
  | table es => es
  | _ => []

/-- The value under a key of a table.  It is null if there is none. -/
def get (v : Value) (key : String) : Value := (v.fields.get? key).getD null

/-- The name of a value's type in a message. -/
def typeName : Value → String
  | null => "NoneType"
  | bool _ => "bool"
  | int _ => "int"
  | real _ => "float"
  | text _ => "str"
  | date _ => "date"
  | time _ => "time"
  | moment _ => "datetime"
  | list _ => "list"
  | table _ => "dict"

/-! ## Truth -/

/-- Whether a value counts as given: it is neither null, false, zero nor
empty. -/
def isTruthy : Value → Bool
  | null => false
  | bool b => b
  | int n => n != 0
  | real x => !x.isZero
  | text s => s != ""
  | date _ | time _ | moment _ => true
  | list vs => !vs.isEmpty
  | table es => !es.isEmpty

/-! ## Text of a value -/

/-- Numbers with commas between them. -/
def commaList (ns : List Nat) : String := ", ".intercalate (ns.map toString)

/-- The parts of a date. -/
def dateParts (d : Date) : List Nat := [d.year, d.month, d.day]

/-- The parts of a time of day.  Microseconds are left out if there are none, and
so are seconds if there is neither. -/
def timeParts (t : TimeOfDay) : List Nat :=
  [t.hour, t.minute] ++ (if t.second = 0 ∧ t.micro = 0 then [] else [t.second]) ++
    (if t.micro = 0 then [] else [t.micro])

mutual

/-- The text of a value inside another one: texts are quoted. -/
def renderNested : Value → String
  | null => "None"
  | bool b => if b then "True" else "False"
  | int n => toString n
  | real x => x.render
  | text s => Text.quote s
  | date d => "datetime.date(" ++ commaList (dateParts d) ++ ")"
  | time t => "datetime.time(" ++ commaList (timeParts t) ++ ")"
  | moment m =>
    "datetime.datetime(" ++ commaList (dateParts m.date ++ timeParts m.time) ++
      (match m.offset with
        | some ahead => ", tzinfo=" ++ Moment.renderOffset ":" ahead
        | none => "") ++ ")"
  | list vs => "[" ++ ", ".intercalate (renderItems vs) ++ "]"
  | table es => "\x7b" ++ ", ".intercalate (renderEntries es) ++ "\x7d"

/-- The texts of the items of a list. -/
def renderItems : List Value → List String
  | [] => []
  | v :: vs => renderNested v :: renderItems vs

/-- The texts of the entries of a table. -/
def renderEntries : List (String × Value) → List String
  | [] => []
  | (k, v) :: es => (Text.quote k ++ ": " ++ renderNested v) :: renderEntries es

end

/-- The text of a value. -/
def render : Value → String
  | text s => s
  | date d => d.render
  | time t => t.render
  | moment m => m.render " "
  | v => renderNested v

/-! ## Depth -/

mutual

/-- How deeply a value is nested. -/
def depth : Value → Nat
  | list vs => itemsDepth vs + 1
  | table es => entriesDepth es + 1
  | _ => 1

/-- How deeply the items of a list are nested. -/
def itemsDepth : List Value → Nat
  | [] => 0
  | v :: vs => max (depth v) (itemsDepth vs)

/-- How deeply the entries of a table are nested. -/
def entriesDepth : List (String × Value) → Nat
  | [] => 0
  | e :: es => max (depth e.2) (entriesDepth es)

end

end Value

end ContractClient
