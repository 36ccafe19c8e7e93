import ContractClient.Code.Printer
import ContractClient.Failure
import ContractClient.FileTree.Basic
import ContractClient.Notice

/-!
# Writing generated files

The files of a project are written below an output directory.  A file that is
not to be replaced belongs to the user: it is created once and never changed
again.

Files are written one after the other, and the first fault ends the run.  What
was written before it stays, and so do the first bytes of a file that the disk has no
room for.
-/

namespace ContractClient.Output

/-! ## Names and paths -/

/-- The directory of the files that are generated anew each time. -/
def generatedDirectory : String := "generated"

/-- The file of a client's base class. -/
def baseFile (name : String) : String := generatedDirectory ++ "/" ++ name ++ "Base.py"

/-- The file of a client that the user may change. -/
def clientFile (name : String) : String := name ++ ".py"

/-- The path of a file below an output directory. -/
def path (directory fileName : String) : String :=
  Path.joinAll directory (Path.parts fileName)

/-- Whether one of some clients has a file of the user already. -/
def anyClientExists (t : FileTree) (directory : String) (names : List String) : Bool :=
  names.any fun n => t.pathExists (path directory (clientFile n))

/-! ## Faults -/

/-- Why files are not written. -/
inductive WriteFault where
  /-- A directory cannot be created. -/
  | directory (path : String) (fault : FileFault)
  /-- A file cannot be written. -/
  | file (path : String) (fault : FileFault)
  /-- There was nothing to write. -/
  | nothing
  deriving DecidableEq, Repr

namespace WriteFault

/-- A fault as a failure of the generator.  A path that the system was not asked
for is not one. -/
def failure? : WriteFault → Option Failure
  | directory path fault =>
    if fault.isSystemFault then some (.directory path (some fault.message)) else none
  | file path fault =>
    if fault.isSystemFault then some (.writing (some path) (some fault.message)) else none
  | nothing => some (.writing none none)

/-- The text of a fault. -/
def message (f : WriteFault) : String :=
  match f with
  | directory _ fault | file _ fault => (f.failure?.map Failure.message).getD fault.message
  | nothing => (Failure.writing none none).message

end WriteFault

/-! ## Writing -/

/-- What came of writing. -/
structure Written (α : Type) where
  /-- The outcome. -/
  outcome : Except WriteFault α
  /-- The files afterwards. -/
  files : FileTree
  /-- What the user is told. -/
  notices : List Notice := []

/-- Creates a directory and those above it. -/
def prepareDirectory (t : FileTree) (directory : String) : Written Unit :=
  match t.makeDirectories directory with
  | (some fault, t) => { outcome := .error (.directory directory fault), files := t }
  | (none, t) => { outcome := .ok (), files := t }

/-- The directory that a file needs. -/
def directoryOf (path : String) : String :=
  if Path.parent path = "" then "." else Path.parent path

/-- Writes one file.  The outcome says whether it was written. -/
def writeOne (t : FileTree) (directory : String) (f : Code.File) : Written Bool :=
  let place := path directory f.name
  let ready := prepareDirectory t (directoryOf place)
  match ready.outcome with
  | .error fault => { outcome := .error fault, files := ready.files }
  | .ok () =>
    if !f.overwrite && ready.files.pathExists place then
      { outcome := .ok false, files := ready.files, notices := [.fileKept place] }
    else
      match ready.files.write place f.render.toUTF8 with
      | (some fault, t) => { outcome := .error (.file place fault), files := t }
      | (none, t) => { outcome := .ok true, files := t, notices := [.fileWritten place] }

/-- Writes files one after the other.  The outcome lists the paths that were
written. -/
def writeAll (t : FileTree) (directory : String) : List Code.File → Written (List String)
  | [] => { outcome := .ok [], files := t }
  | f :: fs =>
    let first := writeOne t directory f
    match first.outcome with
    | .error fault => { outcome := .error fault, files := first.files, notices := first.notices }
    | .ok written =>
      let rest := writeAll first.files directory fs
      { outcome := rest.outcome.map fun ps =>
          if written then path directory f.name :: ps else ps
        files := rest.files
        notices := first.notices ++ rest.notices }

/-- Writes a project.  To write nothing is a fault. -/
def writeProject (t : FileTree) (directory : String) (p : Code.Project) : Written (List String) :=
  let w := writeAll t directory p.files
  match w.outcome with
  | .ok [] => { w with outcome := .error .nothing }
  | _ => w

end ContractClient.Output
