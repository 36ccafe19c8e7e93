import ContractClient.Identifier.Basic
import ContractClient.Value.Table

/-!
# Invocation engines

A generated service does not talk to the remote side itself.  It hands each
call to an *invocation engine*, a class that is named by a reference of the form
`package.module:ClassName`.  A reference is accepted if the class and every part
of the module are identifiers.

The default engine has no transport.  It takes a location and options and
answers every call with an error.  Options may hold a class map under the key
`classmap`.
-/

namespace ContractClient

/-! ## References -/

/-- A reference to an engine class. -/
structure EngineRef where
  /-- The module, with dots. -/
  module : String
  /-- The class. -/
  cls : String
  deriving DecidableEq, Repr

namespace EngineRef

/-- The reference to the default engine. -/
def default : String := "wsdl_interpreter.runtime:InvocationEngine"

/-- The name under which generated code knows its engine. -/
def boundName : String := "InvocationEngine"

/-- Reads a reference. -/
def parse? (s : String) : Option EngineRef :=
  let cs := s.toList
  let module := cs.takeWhile (· != ':')
  let cls := (cs.dropWhile (· != ':')).drop 1
  if ':' ∈ cs ∧ Identifier.isIdentifierChars cls ∧
      (module.splitOn '.').all Identifier.isIdentifierChars then
    some { module := .ofList module, cls := .ofList cls }
  else none

/-- The text of a reference. -/
def render (r : EngineRef) : String := r.module ++ ":" ++ r.cls

/-- The message for a text that is no reference.  It shows the text as it was
given. -/
def rejection (shown : String) : String :=
  "Некорректная ссылка на движок: " ++ shown ++ " (ожидается module:Class)"

/-- Why a value gives no reference. -/
inductive EngineFault where
  /-- The value, as shown, is no reference. -/
  | rejected (shown : String)
  /-- The value is no text. -/
  | notText
  deriving DecidableEq, Repr

/-- The text of a fault. -/
def EngineFault.message : EngineFault → String
  | rejected shown => rejection shown
  | notText => "A reference to an engine is a text"

/-- The reference that a value gives.  A value that counts as not given is rejected as
the empty text is. -/
def ofValue (v : Value) : Except EngineFault EngineRef :=
  match v with
  | .text s =>
    match parse? s with
    | some r => .ok r
    | none => .error (.rejected (Text.quote s))
  | v => .error (if v.isTruthy then .notText else .rejected v.renderNested)

/-- The import statement that binds the engine in generated code. -/
def importLine (r : EngineRef) : String :=
  "from " ++ r.module ++ " import " ++
    (if r.cls = boundName then boundName else r.cls ++ " as " ++ boundName)

end EngineRef

/-! ## The default engine -/

/-- The key of the class map among the options of an engine. -/
def classMapKey : String := "classmap"

/-- An engine without transport. -/
structure Engine where
  /-- The location of the service description. -/
  location : Value
  /-- The options. -/
  options : Mapping
  /-- The class map from the options. -/
  classMap : Mapping

namespace Engine

/-- The table a value stands for, or the empty one for a value that counts as
not given. -/
def tableOrEmpty (v : Value) : Except Value.TableFault Mapping :=
  if v.isTruthy then v.toTable else .ok []

/-- An engine for a location, with options. -/
def create (location options : Value) : Except Value.TableFault Engine := do
  let options ← tableOrEmpty options
  let classMap ← tableOrEmpty ((options.get? classMapKey).getD .null)
  return { location, options, classMap }

/-- The message with which the default engine answers a call. -/
def callMessage (method : Value) : String :=
  "InvocationEngine не умеет выполнять вызовы (" ++ method.render ++
    "); укажите движок через параметр engine"

end Engine

end ContractClient
