import ContractClient.Emission.ModelClass
import ContractClient.Engine
import ContractClient.Service.Reachable

/-!
# Service classes

Every service of a contract becomes a class with one method per overload group.
A method takes one composite parameter and hands it to the invocation engine,
under the raw name of the first operation of its group.  The constructor gives
the engine the part of the class map that the service uses.

An abstract service class refuses to be instantiated itself.
-/

namespace ContractClient

/-! ## The class map literal -/

/-- The entries of the class map in generated code.  A meaning that reads as a
kind is written as the word of the kind, any other as the class of the
service. -/
def Service.classMapPairs (s : Service) : Entries String :=
  s.classMap.map fun p =>
    (p.1, if p.2.isPrimitive then p.2.text else s.name ++ "." ++ p.2.text)

/-- The declaration of the class map. -/
def Service.classMapDeclaration (s : Service) : String :=
  "classmap: ClassVar[Dict[str, str]] = " ++
    (if s.classMapPairs.isEmpty then "\x7b\x7d" else Catalog.tableLiteral s.classMapPairs)

/-! ## Constructors -/

/-- The function that keeps an abstract service class from being
instantiated. -/
def abstractGuard (className : String) : Code.Function :=
  { name := "__new__"
    parameters := [{ name := "cls" }, { name := "*args" }, { name := "**kwargs" }]
    response := none
    code :=
      { code :=
          "if cls is " ++ className ++ ":\n    raise TypeError(\"" ++ className ++
            " is generated and cannot be instantiated directly\")\nreturn super().__new__(cls)" }
    order := 30 }

/-- The body of a constructor. -/
def constructorBody : String :=
  let key := Text.quote classMapKey
  "options = dict(options or \x7b\x7d)\n" ++
  "classmap = dict(options.get(" ++ key ++ ") or \x7b\x7d)\n" ++
  "for wsdl_class_name, type_id in self.classmap.items():\n" ++
  "    classmap.setdefault(wsdl_class_name, type_id)\n" ++
  "options[" ++ key ++ "] = classmap\n" ++
  "self._engine = InvocationEngine(wsdl, options)"

/-- The docstring of a constructor. -/
def constructorDocstring : String :=
  "Constructor using wsdl location and options dict\n\nArgs:\n" ++
  "    wsdl (str): WSDL location for this service\n" ++
  "    options (dict): Options for the invocation engine"

/-- The constructor of a service class. -/
def constructor (location : String) : Code.Function :=
  { name := "__init__"
    parameters :=
      [{ name := "self" },
       { name := "wsdl"
         type := some (.single "str")
         default := some (.single (Text.quote location)) },
       { name := "options"
         type := some (.wrapped "Optional" (.group (some "Dict") [.word "str", .word "Any"]))
         default := some (.single "None") }]
    docstring := some constructorDocstring
    code := { code := constructorBody }
    order := 20 }

namespace Catalog

/-! ## Methods -/

/-- The annotation of the composite parameter of a group: the class with the
name of the group, if there is one. -/
def argumentType (g : Catalog) (group : Overload) : String :=
  ((g.argumentModel group).map Model.name).getD "Any"

/-- The annotation of the result of a group. -/
def resultType (g : Catalog) (group : Overload) : String :=
  match distinct (group.returnTypes.map fun r => (g.annotation r false).render) with
  | [] => "Any"
  | [a] => a
  | as => "Union[" ++ ", ".intercalate as ++ "]"

/-- A line that lists the parameters of an operation. -/
def parameterLine (o : Operation) : String :=
  let listed := ", ".intercalate
    (o.parameters.map fun f => "(" ++ f.type.render ++ ") " ++ f.name)
  "    " ++ (if listed = "" then "(no parameters)" else listed)

/-- The line that lists the results of a group. -/
def returnLine (group : Overload) : String :=
  let listed := " | ".intercalate (group.returnTypes.map TypeRef.render)
  "    " ++ (if listed = "" then "Any" else listed)

/-- The docstring of a method. -/
def methodDocstring (g : Catalog) (group : Overload) : String :=
  "\n".intercalate
    (["Service Call: " ++ group.name, "", "Parameter options:"] ++
      group.operations.map parameterLine ++
      ["", "Args:",
       "    " ++ group.name ++ " (" ++ g.argumentType group ++
         "): Composite call parameter",
       "", "Returns:", returnLine group])

/-- The method of a group. -/
def method (g : Catalog) (group : Overload) : Code.Function :=
  { name := group.name
    parameters :=
      [{ name := "self" },
       { name := group.name
         type := some (.single ("\"" ++ g.argumentType group ++ "\"")) }]
    response := some ("\"" ++ g.resultType group ++ "\"")
    docstring := some (g.methodDocstring group)
    code :=
      { code :=
          "return self._engine.call(" ++ Text.quote group.remoteName ++ ", [" ++ group.name ++
            "])" } }

/-! ## The class -/

/-- Adds the methods of groups to a class.  A group with the name of a function
that is there is left out. -/
def addMethods (g : Catalog) (c : Code.Class) (groups : List Overload) : Code.Class :=
  groups.foldl
    (fun c group => if c.functions.has group.name then c else c.addFunction (g.method group)) c

/-- The name of a service class: the one that is chosen, or that of the service if none
is. -/
def classNameOr (s : Service) (chosen : String) : String := if chosen = "" then s.name else chosen

/-- The docstring of a service class. -/
def serviceDocstring (s : Service) (className : String) : String :=
  className ++ (if s.rawName = className then "" else "\n\nService: " ++ s.rawName)

/-- A service class before its methods are added. -/
def serviceShell (location : String) (s : Service) (className : String) (isAbstract : Bool) :
    Code.Class :=
  { name := className
    docstring := some (serviceDocstring s className)
    blocks := [{ code := s.classMapDeclaration, order := 40 }]
    functions := Entries.ofPairs
      (((if isAbstract then [abstractGuard className] else []) ++ [constructor location]).map
        fun f => (f.name, f)) }

/-- The class of a service, under a name that may be chosen. -/
def serviceClass (g : Catalog) (location : String) (s : Service) (chosen : String)
    (isAbstract : Bool) : Code.Class :=
  g.addMethods (serviceShell location s (classNameOr s chosen) isAbstract) s.groups

/-- The notices for groups that are left out of a class. -/
def skippedMethods (g : Catalog) (c : Code.Class) : List Overload → List Notice
  | [] => []
  | group :: groups =>
    if c.functions.has group.name then
      .methodSkipped c.name group.name :: skippedMethods g c groups
    else skippedMethods g (c.addFunction (g.method group)) groups

/-- The notices of generating the class of a service. -/
def serviceClassNotices (g : Catalog) (location : String) (s : Service) (chosen : String)
    (isAbstract : Bool) : List Notice :=
  let className := classNameOr s chosen
  g.skippedMethods (serviceShell location s className isAbstract) s.groups ++
    [.serviceEmitted className s.groups.length s.classMap.length]

end Catalog

end ContractClient
