import ContractClient.Checked
import ContractClient.Code.Basic

/-!
# Code from structured values

Every kind of code can be given as a structured value.  This module has one
check per kind.  An expression is a table with an optional `wrap_name` and a
`value`, which is a word, an expression or a list of those.
-/

namespace ContractClient.Code

open Checked

/-! ## Expressions -/

/-- The faults of a value that is neither an expression nor a word. -/
def neither (asExpression : List Fault) : List Fault :=
  asExpression.map (fun f => { f with path := .key "Variable" :: f.path }) ++
    [⟨[.key "str"], .textType⟩]

/-- An item of an expression, from the outcome of checking it as an
expression. -/
def itemOfTable : Checked Expr → Checked Expr
  | ok e => ok e
  | faults fs => faults (neither fs)

/-- A value that is no table as an item of an expression. -/
def itemOfPlain : Value → Checked Expr
  | .text s => ok (.word s)
  | _ => faults (neither [⟨[], .recordType⟩])

/-- An expression, from its items and its entries. -/
def exprOfParts (items : Entries (Checked (List Expr))) (es : Entries Value) : Checked Expr :=
  (fun items wrap => Expr.group wrap items) <$>
    (((items.get? "value").getD (ok [])).under (.key "value")) <*>
    defaulted es "wrap_name" (optional text) none

mutual

/-- An item of an expression. -/
def itemOfValue : Value → Checked Expr
  | .table es => itemOfTable (exprOfParts (itemsOfEntries es) es)
  | v => itemOfPlain v

/-- The items under the key `value`.  A value that is no list is the only
item. -/
def itemsOfValue : Value → Checked (List Expr)
  | .list vs => itemsOfList 0 vs
  | .table es =>
    ((itemOfTable (exprOfParts (itemsOfEntries es) es)).under (.index 0)).map fun e => [e]
  | v => ((itemOfPlain v).under (.index 0)).map fun e => [e]

/-- The items of a list, from a given position. -/
def itemsOfList : Nat → List Value → Checked (List Expr)
  | _, [] => ok []
  | i, v :: vs => List.cons <$> (itemOfValue v).under (.index i) <*> itemsOfList (i + 1) vs

/-- Every entry of a table, read as items of an expression. -/
def itemsOfEntries : List (String × Value) → Entries (Checked (List Expr))
  | [] => []
  | (k, v) :: es => (k, itemsOfValue v) :: itemsOfEntries es

end

/-- An expression. -/
def Expr.ofValue : Value → Checked Expr := record fun es => exprOfParts (itemsOfEntries es) es

/-! ## Functions and classes -/

/-- A parameter. -/
def Parameter.ofValue : Value → Checked Parameter := record fun es =>
  (fun name default type order => { name, default, type, order }) <$>
    required es "name" text <*>
    defaulted es "default" (optional Expr.ofValue) none <*>
    defaulted es "var_type" (optional Expr.ofValue) none <*>
    defaulted es "order" int 0

/-- A block. -/
def Block.ofValue : Value → Checked Block := record fun es =>
  (fun order code => { order, code }) <$>
    defaulted es "order" int 0 <*>
    defaulted es "code" text "pass"

/-- A function. -/
def Function.ofValue : Value → Checked Function := record fun es =>
  (fun name parameters response docstring code order =>
      { name, parameters, response, docstring, code, order }) <$>
    required es "name" text <*>
    defaulted es "parameters" (listOf Parameter.ofValue) [] <*>
    defaulted es "response" (optional text) (some "None") <*>
    defaulted es "docstring" (optional text) none <*>
    defaulted es "code" Block.ofValue {} <*>
    defaulted es "order" int 0

/-- A class. -/
def Class.ofValue : Value → Checked Class := record fun es =>
  (fun name inherits docstring functions blocks parameters order =>
      { name, inherits, docstring, functions, blocks, parameters, order }) <$>
    required es "name" text <*>
    defaulted es "inherits" (listOf text) [] <*>
    defaulted es "docstring" (optional text) none <*>
    defaulted es "functions" (tableOf Function.ofValue) [] <*>
    defaulted es "code_blocks" (listOf Block.ofValue) [] <*>
    defaulted es "parameters" (listOf Parameter.ofValue) [] <*>
    defaulted es "order" int 0

/-! ## Files and projects -/

/-- A file. -/
def File.ofValue : Value → Checked File := record fun es =>
  (fun name overwrite header imports classes blocks =>
      { name, overwrite, header, imports, classes, blocks }) <$>
    required es "file_name" text <*>
    defaulted es "overwrite" bool true <*>
    defaulted es "header" (listOf text) [] <*>
    defaulted es "imports" (listOf text) [] <*>
    defaulted es "classes" (tableOf Class.ofValue) [] <*>
    defaulted es "code_blocks" (listOf Block.ofValue) []

/-- A project. -/
def Project.ofValue : Value → Checked Project := record fun es =>
  (fun name files => { name, files }) <$>
    required es "name" text <*>
    defaulted es "files" (listOf File.ofValue) []

end ContractClient.Code
