import ContractClient.Entries

/-!
# Code

Generated code is kept as a tree until it is written: a project has files, a
file has classes and blocks, a class has fields, functions and blocks, and a
function has parameters and a body.  Type annotations and default values are
expressions, which are words or groups of expressions.

Blocks, functions and classes carry an *order*.  A printer puts those with a
larger order first and keeps the order of insertion among equals.

A class holds its functions by name, and a file its classes.  Adding a function
under a name that is there replaces the old one in its place.  Adding a class
under a name that is there is refused.
-/

namespace ContractClient.Code

/-! ## Expressions -/

/-- A type annotation or a default value. -/
inductive Expr where
  /-- A text, taken as it is. -/
  | word (s : String)
  /-- Expressions separated by commas, between the brackets of `wrap` if there
  is one. -/
  | group (wrap : Option String) (items : List Expr)
  deriving Inhabited

/-- A group of one word. -/
def Expr.single (s : String) : Expr := .group none [.word s]

/-- One expression between the brackets of a name. -/
def Expr.wrapped (name : String) (e : Expr) : Expr := .group (some name) [e]

/-! ## Functions and classes -/

/-- A parameter of a function, or a field of a class. -/
structure Parameter where
  /-- The name. -/
  name : String
  /-- The default value. -/
  default : Option Expr := none
  /-- The type annotation. -/
  type : Option Expr := none
  /-- The order among the fields of a class. -/
  order : Int := 0

/-- A piece of code, taken as it is up to tabs. -/
structure Block where
  /-- The order among its neighbours. -/
  order : Int := 0
  /-- The text. -/
  code : String := "pass"

/-- A function. -/
structure Function where
  /-- The name. -/
  name : String
  /-- The parameters, in order. -/
  parameters : List Parameter := []
  /-- The annotation of the result. -/
  response : Option String := some "None"
  /-- The docstring. -/
  docstring : Option String := none
  /-- The body. -/
  code : Block := {}
  /-- The order among its neighbours. -/
  order : Int := 0

/-- A class. -/
structure Class where
  /-- The name. -/
  name : String
  /-- The names of the classes it inherits from. -/
  inherits : List String := []
  /-- The docstring. -/
  docstring : Option String := none
  /-- The functions, by name. -/
  functions : Entries Function := []
  /-- The blocks, in order of insertion. -/
  blocks : List Block := []
  /-- The fields, in order of insertion. -/
  parameters : List Parameter := []
  /-- The order among its neighbours. -/
  order : Int := 0

namespace Class

/-- Adds a function under its name. -/
def addFunction (c : Class) (f : Function) : Class :=
  { c with functions := c.functions.put f.name f }

/-- Adds a block. -/
def addBlock (c : Class) (b : Block) : Class := { c with blocks := c.blocks ++ [b] }

end Class

/-! ## Files and projects -/

/-- A file of generated code. -/
structure File where
  /-- The path of the file inside the project, with slashes. -/
  name : String
  /-- Whether an existing file is replaced.  A file that is not replaced belongs
  to the user. -/
  overwrite : Bool := true
  /-- The lines at the top. -/
  header : List String := []
  /-- The import statements. -/
  imports : List String := []
  /-- The classes, by name. -/
  classes : Entries Class := []
  /-- The blocks, in order of insertion. -/
  blocks : List Block := []

/-- A class of this name is declared in this file already. -/
structure DuplicateClass where
  /-- The name of the class. -/
  className : String
  /-- The name of the file. -/
  fileName : String

/-- The message for a class that is declared twice. -/
def DuplicateClass.message (d : DuplicateClass) : String :=
  "Класс " ++ d.className ++ " уже объявлен в " ++ d.fileName

namespace File

/-- Adds a class under its name. -/
def addClass (f : File) (c : Class) : Except DuplicateClass File :=
  if f.classes.has c.name then .error ⟨c.name, f.name⟩
  else .ok { f with classes := f.classes.put c.name c }

/-- Adds a block. -/
def addBlock (f : File) (b : Block) : File := { f with blocks := f.blocks ++ [b] }

end File

/-- A project: a name and its files. -/
structure Project where
  /-- The name. -/
  name : String
  /-- The files, in order. -/
  files : List File := []

namespace Project

/-- Adds a file at the end. -/
def addFile (p : Project) (f : File) : Project := { p with files := p.files ++ [f] }

/-- The first file of a name. -/
def file? (p : Project) (name : String) : Option File := p.files.find? (·.name = name)

end Project

end ContractClient.Code
