/-!
# Insertion-ordered tables

Where the order of a table shows in generated code or in an answer, the table
is a list of pairs of a key and a value, oldest key first.  Writing to a key
that is there keeps its place and replaces the value.  Writing to a new key
puts it at the end.  Where only keys are collected, `distinct` keeps the first
occurrence of every item of a list.
-/

namespace ContractClient

/-! ## Distinct items -/

/-- The items of a list in order of first occurrence, each once. -/
def distinct {α : Type u} [DecidableEq α] : List α → List α
  | [] => []
  | x :: xs => x :: (distinct xs).filter (· ≠ x)

/-- `distinct` keeps exactly the items of a list. -/
theorem mem_distinct {α : Type u} [DecidableEq α] {a : α} {xs : List α} :
    a ∈ distinct xs ↔ a ∈ xs := by
  induction xs with
  | nil => simp [distinct]
  | cons x xs ih =>
    by_cases h : a = x
    · simp [distinct, h]
    · simp [distinct, h, ih]

/-! ## Tables -/

/-- A table with text keys, in order of first insertion. -/
abbrev Entries (β : Type u) := List (String × β)

namespace Entries

variable {β : Type u}

/-- The value of a key: that of the first pair with this key. -/
def get? : Entries β → String → Option β
  | [], _ => none
  | (k, v) :: es, key => if k = key then some v else get? es key

/-- The keys, oldest first. -/
def keys (es : Entries β) : List String := es.map Prod.fst

/-- The values, in the order of their keys. -/
def values (es : Entries β) : List β := es.map Prod.snd

/-- Whether a key is there. -/
def has (es : Entries β) (key : String) : Bool := (es.get? key).isSome

/-- Writes a value to a key. -/
def put : Entries β → String → β → Entries β
  | [], key, b => [(key, b)]
  | (k, v) :: es, key, b => if k = key then (k, b) :: es else (k, v) :: put es key b

/-- Writes a value to a key unless the key is there. -/
def putNew (es : Entries β) (key : String) (b : β) : Entries β :=
  if es.has key then es else es.put key b

/-- The table that pairs give when they are written one after the other. -/
def ofPairs (pairs : List (String × β)) : Entries β :=
  pairs.foldl (fun es p => es.put p.1 p.2) []

/-- All pairs of the second table written over the first. -/
def override (es others : Entries β) : Entries β :=
  others.foldl (fun es p => es.put p.1 p.2) es

/-- What is found under a key is paired with it in the table. -/
theorem mem_of_get? {es : Entries β} {key : String} {b : β} (h : es.get? key = some b) :
    (key, b) ∈ es := by
  induction es with
  | nil => simp [get?] at h
  | cons p es ih =>
    obtain ⟨k, v⟩ := p
    by_cases hk : k = key
    · simp [get?, hk] at h
      simp [hk, h]
    · simp [get?, hk] at h
      exact List.mem_cons_of_mem _ (ih h)

end Entries

end ContractClient
