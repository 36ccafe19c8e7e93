import ContractClient.Code.Printer

/-!
# Drafts

A *draft* is a project under construction.  It has a current file and a current
class, and code is added to these.  The current class stays current when
another file is taken up, and then belongs to the file it was declared in.
-/

namespace ContractClient.Code

/-- A project under construction. -/
structure Draft where
  /-- The project so far. -/
  project : Project
  /-- The position of the current file. -/
  file : Option Nat := none
  /-- The position of the file of the current class, and the name of the
  class. -/
  cls : Option (Nat × String) := none

namespace Draft

/-- Adds a file, which becomes current. -/
def addFile (d : Draft) (f : File) : Draft :=
  { d with project := d.project.addFile f, file := some d.project.files.length }

/-- The first file of a name, which becomes current if there is one. -/
def openFile (d : Draft) (name : String) : Option File × Draft :=
  match d.project.files.findIdx? (·.name = name) with
  | some i => (d.project.files[i]?, { d with file := some i })
  | none => (none, d)

/-- The current file and its position. -/
def currentFile? (d : Draft) : Option (Nat × File) := do
  let i ← d.file
  let f ← d.project.files[i]?
  return (i, f)

/-- Puts a file at a position. -/
def setFile (d : Draft) (i : Nat) (f : File) : Draft :=
  { d with project := { d.project with files := d.project.files.set i f } }

/-- Adds a class to the current file.  The class becomes current.  There is no
outcome without a current file. -/
def addClass? (d : Draft) (c : Class) : Option (Except DuplicateClass Draft) := do
  let (i, f) ← d.currentFile?
  return (f.addClass c).map fun f => { d.setFile i f with cls := some (i, c.name) }

/-- Adds a block to the current file, and gives the file. -/
def addFileBlock? (d : Draft) (b : Block) : Option (File × Draft) := do
  let (i, f) ← d.currentFile?
  let f := f.addBlock b
  return (f, d.setFile i f)

/-- Changes the current class, and gives the changed class. -/
def changeClass? (d : Draft) (change : Class → Class) : Option (Class × Draft) := do
  let (i, name) ← d.cls
  let f ← d.project.files[i]?
  let c ← f.classes.get? name
  let c := change c
  return (c, d.setFile i { f with classes := f.classes.put name c })

/-- Adds a function to the current class, and gives the class. -/
def addFunction? (d : Draft) (f : Function) : Option (Class × Draft) :=
  d.changeClass? (·.addFunction f)

/-- Adds a block to the current class, and gives the class. -/
def addClassBlock? (d : Draft) (b : Block) : Option (Class × Draft) :=
  d.changeClass? (·.addBlock b)

end Draft

end ContractClient.Code
