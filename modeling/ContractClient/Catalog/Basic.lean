import ContractClient.Contract.Basic
import ContractClient.Notice
import ContractClient.TypeRef

/-!
# Fields, models and class maps

The normal form of a contract's classes.  A *model* is a class with its *fields*.
Both keep the raw text they come from beside the name they get in the generated
code.  A *class map* takes the raw name of a type to what it stands for: a
primitive, or a class by its identifier.

A *catalog* is a list of models with a class map.  A reference is looked up in it
in three steps: by its full name, by its local name, and last by the local names
of the raw class names, of which the first in the list counts.
-/

namespace ContractClient

/-! ## Fields -/

/-- A field of a class, or a parameter or result of an operation. -/
structure Field where
  /-- The raw name. -/
  rawName : String
  /-- The name in the generated code. -/
  name : String
  /-- The text of the type. -/
  rawType : String
  /-- The type. -/
  type : TypeRef
  deriving DecidableEq, Repr

namespace Field

/-- Whether the name differs from the raw name. -/
def isRenamed (f : Field) : Bool := f.rawName != f.name

/-- The name an entry asks for: its identifier, moved out of the way of the
given class names.  It is empty if the entry has no identifier characters. -/
def wantedName (classNames : List String) (e : Entry) : String :=
  let name := Identifier.fieldName e.name
  if classNames.contains name then name ++ "_field" else name

/-- The name of an entry without identifier characters. -/
def positionalName (position : Nat) : String := "field" ++ toString position

/-- The field of an entry at a position. -/
def ofEntry (classNames : List String) (position : Nat) (e : Entry) : Field :=
  let name := wantedName classNames e
  { rawName := e.name
    name := if name = "" then positionalName position else name
    rawType := e.type
    type := TypeRef.parse e.type }

/-- The fields of entries, by position. -/
def ofEntries (classNames : List String) (entries : List Entry) : List Field :=
  entries.mapIdx (ofEntry classNames)

/-- The notices that naming the entries gives rise to. -/
def notices (classNames : List String) (entries : List Entry) : List Notice :=
  (entries.mapIdx fun i e =>
    if wantedName classNames e = "" then [Notice.unnamedField e.name (positionalName i)]
    else []).flatten

end Field

/-! ## Models -/

/-- A class of the contract in normal form. -/
structure Model where
  /-- The raw name. -/
  rawName : String
  /-- The name in the generated code. -/
  name : String
  /-- The raw name of the base. -/
  rawBase : Option String := none
  /-- The base. -/
  baseType : Option TypeRef := none
  /-- The fields, in order. -/
  fields : List Field := []
  deriving DecidableEq, Repr

namespace Model

/-- The fields whose name differs from the raw name. -/
def renamed (n : Model) : List Field := n.fields.filter Field.isRenamed

/-- The local name of the raw name. -/
def localName (n : Model) : String := Identifier.typeName (Identifier.localPart n.rawName)

end Model

/-! ## Class maps -/

/-- What a raw type name stands for. -/
inductive Meaning where
  /-- A primitive. -/
  | kind (k : Primitive)
  /-- A class, by its identifier. -/
  | classId (id : String)
  deriving DecidableEq, Repr

namespace Meaning

/-- The text of a meaning: the word of a kind or the identifier of a class. -/
def text : Meaning → String
  | kind k => k.word
  | classId id => id

/-- Whether a meaning reads as a primitive.  The identifier of a class may
read as one too. -/
def isPrimitive (m : Meaning) : Bool := (Primitive.ofWord? m.text).isSome

/-- The text of a meaning in a listing of a class map. -/
def render : Meaning → String
  | kind k => "<PrimitiveKind." ++ k.label ++ ": " ++ Text.quote k.word ++ ">"
  | classId id => Text.quote id

end Meaning

/-- What the raw type names of a contract stand for. -/
abbrev ClassMap := Entries Meaning

/-- The listing of a class map. -/
def ClassMap.render (m : ClassMap) : String :=
  "ClassMap(\x7b" ++
    ", ".intercalate (m.map fun p => Text.quote p.1 ++ ": " ++ p.2.render) ++ "\x7d)"

/-! ## Catalogs -/

/-- Type models by the local name of their raw name.  Of two models with one local
name the first counts. -/
def indexByLocalName (models : List Model) : Entries Model :=
  models.foldl (fun index n => index.putNew n.localName n) []

/-- Type models by name.  Of two models with one name the later counts, at the
place of the first. -/
def indexByName (models : List Model) : Entries Model :=
  Entries.ofPairs (models.map fun n => (n.name, n))

/-- The model a reference leads to: by full name, by local name, or by the local
name of a raw name.  A primitive leads to none. -/
def lookUp (byName byLocal : String → Option Model) (r : TypeRef) : Option Model :=
  if r.isPrimitive then none
  else (byName r.name).or ((byName r.localName).or (byLocal r.localName))

/-- The classes of a contract with their class map. -/
structure Catalog where
  /-- The models, in the order in which the classes are generated. -/
  models : List Model
  /-- The meanings of the raw type names. -/
  classMap : ClassMap
  /-- The models by the local name of their raw name. -/
  byLocal : Entries Model

namespace Catalog

/-- The catalog of a list of models, taken as they are. -/
def ofModels (models : List Model) (classMap : ClassMap) : Catalog :=
  { models, classMap, byLocal := indexByLocalName (indexByName models).values }

/-- The names of the models, in order. -/
def names (g : Catalog) : List String := g.models.map Model.name

/-- The model of a name.  Of two with one name it is the later one. -/
def model? (g : Catalog) (name : String) : Option Model :=
  g.models.reverse.find? (·.name = name)

/-- Whether there is a model of a name. -/
def has (g : Catalog) (name : String) : Bool := (g.model? name).isSome

/-- The model a reference leads to. -/
def find? (g : Catalog) (r : TypeRef) : Option Model :=
  lookUp g.model? g.byLocal.get? r

/-- The model of the base class of a model. -/
def parent? (g : Catalog) (n : Model) : Option Model := n.baseType.bind g.find?

/-- Every model that a reference can lead to. -/
def candidates (g : Catalog) : List Model := g.models ++ g.byLocal.values

end Catalog

end ContractClient
