import ContractClient.Identifier.Basic
import ContractClient.Text.Blank

/-!
# Identifiers by role

A class, a field and an operation of a contract each become a name in the
generated code.  The roles differ in the names they have to stay clear of.

* A class must not hide a name that the generated module itself uses.  Its
  namespaces are kept, joined by underscores.
* A field must be neither private, so it does not begin with an underscore, nor
  an attribute that every generated model inherits.
* An operation must not be private either, nor hide what the generated service
  class has of its own.

Each function gives the empty text where a name has no identifier characters.
-/

namespace ContractClient.Identifier

/-! ## Names to stay clear of -/

/-- The names a generated module uses itself. -/
def moduleNames : List String :=
  ["Any", "ClassVar", "Dict", "List", "Optional", "Union", "BaseModel", "ConfigDict", "Field",
   "InvocationEngine", "int", "float", "str", "dict", "getattr", "setattr", "super", "TypeError"]

/-- The public attributes every generated model inherits. -/
def modelAttributes : List String :=
  ["construct", "copy", "dict", "from_orm", "json", "model_computed_fields", "model_config",
   "model_construct", "model_copy", "model_dump", "model_dump_json", "model_extra",
   "model_fields", "model_fields_set", "model_json_schema", "model_parametrized_name",
   "model_post_init", "model_rebuild", "model_validate", "model_validate_json",
   "model_validate_strings", "parse_file", "parse_obj", "parse_raw", "schema", "schema_json",
   "update_forward_refs", "validate"]

/-- The names no field may have. -/
def reservedFields : List String := modelAttributes ++ moduleNames

/-- The names no operation may have. -/
def reservedOperations : List String := ["self", "classmap"]

/-! ## Classes -/

/-- The identifier of a class without its namespaces. -/
def typeName (s : String) : String :=
  let name := normalize s
  if moduleNames.contains name then name ++ "_" else name

/-- The parts of a text between colons.  There is always at least one. -/
def segments (cs : List Char) : List (List Char) := cs.splitOn ':'

/-- The last part of a text between colons: the name without its namespaces. -/
def localPart (s : String) : String := .ofList ((segments s.toList).getLast?.getD [])

/-- The identifier of a class, its namespaces in front. -/
def className (s : String) : String :=
  let parts := segments (Text.trim s.toList)
  let localName := typeName (.ofList (parts.getLast?.getD []))
  if localName = "" then ""
  else
    let spaces := (parts.dropLast.map fun p => normalize (.ofList p)).filter (· ≠ "")
    typeName ("_".intercalate (spaces ++ [localName]))

/-! ## Fields and operations -/

/-- A normal form without underscores in front. -/
def publicName (s : String) : String :=
  escapeKeyword (.ofList (dropUntil (fun c => isStart c && c != '_') (normalize s).toList))

/-- The identifier of a field. -/
def fieldName (s : String) : String :=
  let name := publicName s
  if reservedFields.contains name || "model_".toList.isPrefixOf name.toList then
    name ++ "_field"
  else name

/-- The identifier of an operation. -/
def operationName (s : String) : String :=
  let name := publicName s
  if reservedOperations.contains name then name ++ "_" else name

end ContractClient.Identifier
