/-!
# Faults of settings files

A settings file that is not well formed is *malformed*.  Beside that, some files
drive the reader to a step that cannot be taken: it asks for a character that is
not there, or for an entry of something that is no table.  These faults are kept
apart, since not all of them are answered in the same way.
-/

namespace ContractClient.Toml

/-- Why a settings file is not read. -/
inductive Fault where
  /-- The file is not well formed. -/
  | malformed
  /-- Something is used as a table, or as a list, and is none. -/
  | wrongType
  /-- A character or an item is needed where there is none. -/
  | position
  /-- Something is to be extended that is no list. -/
  | notExtensible
  /-- A number is too large for what it is used for. -/
  | overflow
  /-- A text of several lines has the empty key. -/
  | unset
  /-- Values are nested too deeply. -/
  | tooDeep
  deriving DecidableEq, Repr

/-- The outcome of a step of reading. -/
abbrev Outcome (α : Type) := Except Fault α

/-- The first item of a list, which is needed. -/
def first {α : Type} : List α → Outcome α
  | [] => .error .position
  | a :: _ => .ok a

/-- The last item of a list, which is needed. -/
def last {α : Type} (as : List α) : Outcome α := first as.reverse

end ContractClient.Toml
