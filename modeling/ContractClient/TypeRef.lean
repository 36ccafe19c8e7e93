import ContractClient.Identifier.Roles
import ContractClient.Text.Character

/-!
# Type references

A contract names a type by a text such as `xsd:int` or `tns:Forecast[]`.  A
*type reference* is the normal form of such a text.  It is either a primitive or
the identifier of a class, and it may be an array.

A class is referred to by two names.  The *full* name keeps the namespaces, so
that classes of one local name in two namespaces stay apart.  The *local* name
drops them and serves as a second chance when a reference is looked up.
-/

namespace ContractClient

/-! ## Primitives -/

/-- The kinds of values a contract does not define itself. -/
inductive Primitive where
  | integer
  | double
  | string
  deriving DecidableEq, Repr

namespace Primitive

/-- The word a kind is written as. -/
def word : Primitive → String
  | integer => "integer"
  | double => "double"
  | string => "string"

/-- The type of the generated code that holds values of a kind. -/
def annotation : Primitive → String
  | integer => "int"
  | double => "float"
  | string => "str"

/-- The name of a kind as a member of its enumeration. -/
def label : Primitive → String
  | integer => "INTEGER"
  | double => "DOUBLE"
  | string => "STRING"

/-- All kinds. -/
def all : List Primitive := [integer, double, string]

/-- The kind a word stands for. -/
def ofWord? (s : String) : Option Primitive := all.find? (·.word = s)

/-- The message for a value that is not the word of a kind.  It shows the value as it
was given. -/
def rejection (shown : String) : String := shown ++ " is not a valid PrimitiveKind"

/-- The schema types of each kind, in lower case. -/
def tokens : Primitive → List String
  | integer =>
    ["int", "integer", "long", "byte", "short", "negativeinteger", "nonnegativeinteger",
     "nonpositiveinteger", "positiveinteger", "unsignedbyte", "unsignedint", "unsignedlong",
     "unsignedshort"]
  | double => ["float", "double", "decimal"]
  | string => ["string", "token", "normalizedstring", "hexbinary"]

/-- The kind of a schema type, without regard to case. -/
def ofToken? (s : String) : Option Primitive :=
  all.find? fun k => k.tokens.contains (Text.lower s)

end Primitive

/-! ## References -/

/-- A reference to a primitive or to a class, or to an array of one. -/
structure TypeRef where
  /-- The full name: the word of a kind, or a class identifier. -/
  name : String
  /-- The name without namespaces. -/
  localName : String
  /-- The kind, if the reference is to a primitive. -/
  primitive : Option Primitive
  /-- Whether the reference is to an array. -/
  isArray : Bool
  deriving DecidableEq, Repr

namespace TypeRef

/-- Whether the reference is to a primitive. -/
def isPrimitive (r : TypeRef) : Bool := r.primitive.isSome

/-- The text of a reference. -/
def render (r : TypeRef) : String := r.name ++ (if r.isArray then "[]" else "")

/-- The marker of an array type. -/
def arraySuffix : List Char := ['[', ']']

/-- A text without one array marker at its end, and whether it had one. -/
def cutArray (cs : List Char) : List Char × Bool :=
  if arraySuffix.isSuffixOf cs then (cs.dropLast.dropLast, true) else (cs, false)

/-- The reference to a primitive. -/
def ofKind (k : Primitive) (isArray : Bool) : TypeRef :=
  { name := k.word, localName := k.word, primitive := some k, isArray }

/-- The normal form of a type text. -/
def parse (raw : String) : TypeRef :=
  let parts := Identifier.segments (Text.trim raw.toList)
  let cut := cutArray (parts.getLast?.getD [])
  match Primitive.ofToken? (.ofList cut.1) with
  | some k => ofKind k cut.2
  | none =>
    { name := Identifier.className (.ofList ([':'].intercalate (parts.dropLast ++ [cut.1])))
      localName := Identifier.typeName (.ofList cut.1)
      primitive := none
      isArray := cut.2 }

/-- The text of the element type of a type text: trimmed, and without one array
marker at its end. -/
def elementText (raw : String) : String := .ofList (cutArray (Text.trim raw.toList)).1

end TypeRef

end ContractClient
