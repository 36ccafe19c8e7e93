import ContractClient.Catalog.Basic
import ContractClient.Code.Printer
import ContractClient.Entries

/-!
# Model classes

Every class of a contract becomes a model class with one optional field per
entry.  A field whose name differs from its raw name has the raw name as an
alias, and the class then also has a table from raw names to field names and a
getter and a setter that go through this table.

The table of a class covers the fields it inherits.  `lineage` walks from a
class up its bases and stops where there is no base, or where it meets a class
again.  A table that names a field which no class of the lineage declares is
refused.
-/

namespace ContractClient.Catalog

open Code (Expr)

/-! ## Annotations -/

/-- The annotation of a reference.  The name of a class stands between quotation
marks if so wished. -/
def annotation (g : Catalog) (r : TypeRef) (quoted : Bool) : Expr :=
  let inner := match r.primitive with
    | some k => k.annotation
    | none =>
      match g.find? r with
      | some n => if quoted then "\"" ++ n.name ++ "\"" else n.name
      | none => "Any"
  if r.isArray then .wrapped "List" (.single inner) else .single inner

/-- The annotation of a field. -/
def fieldAnnotation (g : Catalog) (f : Field) : Expr :=
  .wrapped "Optional" (g.annotation f.type true)

/-- A field of a model class. -/
def fieldParameter (g : Catalog) (f : Field) : Code.Parameter :=
  { name := f.name
    type := some (g.fieldAnnotation f)
    default := some (.single
      (if f.isRenamed then "Field(default=None, alias=" ++ Text.quote f.rawName ++ ")"
       else "None")) }

/-! ## The parameter table -/

/-- The models that differ from the given one. -/
def withoutModel (n : Model) (models : List Model) : List Model := models.filter (· ≠ n)

/-- A model and its bases, root first, as far as they are among the fresh
models. -/
def lineageFrom (g : Catalog) (fresh : List Model) (n : Model) : List Model :=
  if (withoutModel n fresh).length < fresh.length then
    (match g.parent? n with
      | some base => lineageFrom g (withoutModel n fresh) base
      | none => []) ++ [n]
  else []
termination_by fresh.length

/-- A model and its bases, root first.  No model occurs twice. -/
def lineage (g : Catalog) (n : Model) : List Model :=
  g.lineageFrom (n :: g.candidates) n

/-- The raw names of the renamed fields of a class and its bases, with their
field names. -/
def renames (g : Catalog) (n : Model) : Entries String :=
  Entries.ofPairs
    (((g.lineage n).flatMap Model.renamed).map fun f => (f.rawName, f.name))

/-- The table of a class names fields that no class of its lineage declares. -/
structure UnknownFields where
  /-- The name of the class. -/
  className : String
  /-- The names without a field, in order. -/
  names : List String

/-- The message for a table that names unknown fields. -/
def UnknownFields.message (u : UnknownFields) : String :=
  "Таблица полей " ++ u.className ++ " ссылается на неизвестные поля: " ++
    ", ".intercalate u.names

/-- The names of the fields that a class and its bases declare. -/
def declaredNames (g : Catalog) (n : Model) : List String :=
  ((g.lineage n).flatMap Model.fields).map Field.name

/-- The names in the table of a class that no class of its lineage declares. -/
def unknownNames (g : Catalog) (n : Model) : List String :=
  (distinct ((g.renames n).values.filter fun name => !(g.declaredNames n).contains name)).mergeSort
    (fun a b => decide (a ≤ b))

/-- Checks the table of a class, if it has one. -/
def checkTable (g : Catalog) (n : Model) : Except UnknownFields Unit :=
  if n.renamed.isEmpty || (g.unknownNames n).isEmpty then .ok ()
  else .error { className := n.name, names := g.unknownNames n }

/-! ## The class -/

/-- The name of the table in generated code. -/
def tableName : String := "_parameter_map"

/-- The lines of a table literal. -/
def tableLiteral (entries : Entries String) : String :=
  "\x7b\n" ++
    String.join (entries.map fun e =>
      "    " ++ Text.quote e.1 ++ ": " ++ Text.quote e.2 ++ ",\n") ++ "\x7d"

/-- The blocks of a class with renamed fields. -/
def tableBlocks (g : Catalog) (n : Model) : List Code.Block :=
  [{ code := "model_config = ConfigDict(populate_by_name=True)", order := 20 },
   { code := tableName ++ ": ClassVar[Dict[str, str]] = " ++
       tableLiteral (g.renames n), order := 10 }]

/-- The place of a field's name in the table. -/
def tableAccess (f : Field) : String :=
  "self." ++ tableName ++ "[" ++ Text.quote f.rawName ++ "]"

/-- The getter of a renamed field. -/
def getter (g : Catalog) (f : Field) : Code.Function :=
  { name := "get_" ++ f.name
    parameters := [{ name := "self" }]
    response := some (g.fieldAnnotation f).render
    docstring := some ("Provided for getting the non-standard named field " ++
      Text.quote f.rawName)
    code := { code := "return getattr(self, " ++ tableAccess f ++ ")" } }

/-- The setter of a renamed field. -/
def setter (g : Catalog) (f : Field) : Code.Function :=
  { name := "set_" ++ f.name
    parameters := [{ name := "self" }, { name := "value", type := some (g.fieldAnnotation f) }]
    docstring := some ("Provided for setting the non-standard named field " ++
      Text.quote f.rawName)
    code := { code := "setattr(self, " ++ tableAccess f ++ ", value)" } }

/-- The accessors of the renamed fields of a class, by name. -/
def accessors (g : Catalog) (n : Model) : List Code.Function :=
  n.renamed.flatMap fun f => [g.getter f, g.setter f]

/-- The docstring of a model class. -/
def modelDocstring (n : Model) : String :=
  n.name ++ (if n.rawName = n.name then "" else "\n\nWire type: " ++ n.rawName)

/-- The model class of a model. -/
def modelClass (g : Catalog) (n : Model) : Code.Class :=
  { name := n.name
    inherits := [((g.parent? n).map Model.name).getD "BaseModel"]
    docstring := some (modelDocstring n)
    parameters := n.fields.map g.fieldParameter
    blocks := if n.renamed.isEmpty then [] else g.tableBlocks n
    functions := Entries.ofPairs ((g.accessors n).map fun f => (f.name, f)) }

/-- The notices for the fields of a class that have the name of an earlier one
or of a given name. -/
def repeatedFields (className : String) : (seen : List String) → List Field → List Notice
  | _, [] => []
  | seen, f :: fs =>
    (if seen.contains f.name then [.repeatedField className f.name f.rawName] else []) ++
      repeatedFields className (f.name :: seen) fs

/-- The notices of generating the model class of a model. -/
def modelNotices (n : Model) : List Notice := repeatedFields n.name [] n.fields

end ContractClient.Catalog
