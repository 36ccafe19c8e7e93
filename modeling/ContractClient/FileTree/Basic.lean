import ContractClient.FileTree.Path
import ContractClient.Text.Quoted

/-!
# File trees

Files are part of what a run starts from and of what it leaves behind, so they
are a value.  A *file tree* lists the directories and files there are.  The
place of each is the list of names that leads to it from the root.  Paths are
seen from one directory, the current one.

There are no links, so different places are different files, and there are no
permissions, so whatever is there can be read and replaced.  A disk may be full,
or a quota used up: a tree may say how many bytes can still be stored (`room`).
Directories take no room.

An operation that changes a tree gives the new tree beside its outcome, since it
may fail after it has changed something.  A file is written in two steps.  Opening
it creates or empties it, and the bytes that are stored then may be only the first
ones (`write`).  An operation fails as a system call does, and the fault says which
path was asked for.
-/

namespace ContractClient

/-! ## Faults -/

/-- Why a system call fails. -/
inductive FileProblem where
  /-- Nothing is there. -/
  | absent
  /-- Something is there already. -/
  | present
  /-- A directory is needed. -/
  | notDirectory
  /-- A directory is there. -/
  | isDirectory
  /-- A name is too long. -/
  | nameTooLong
  /-- There is no room for more bytes. -/
  | noSpace
  /-- The path holds the null character, so the system is not even asked. -/
  | nullByte
  deriving DecidableEq, Repr

/-- A system call that failed. -/
structure FileFault where
  /-- Why it failed. -/
  problem : FileProblem
  /-- The path that was asked for. -/
  path : String
  deriving DecidableEq, Repr

/-- The number the system gives to a problem. -/
def FileProblem.number? : FileProblem → Option Nat
  | absent => some 2
  | present => some 17
  | notDirectory => some 20
  | isDirectory => some 21
  | nameTooLong => some 36
  | noSpace => some 28
  | nullByte => none

/-- The text of a problem. -/
def FileProblem.message : FileProblem → String
  | absent => "No such file or directory"
  | present => "File exists"
  | notDirectory => "Not a directory"
  | isDirectory => "Is a directory"
  | nameTooLong => "File name too long"
  | noSpace => "No space left on device"
  | nullByte => "embedded null byte"

/-- Whether the system names a path with a problem.  Bytes go to a file that is open
already, so then it does not. -/
def FileProblem.namesPath : FileProblem → Bool
  | noSpace => false
  | _ => true

/-- The text of a fault. -/
def FileFault.message (f : FileFault) : String :=
  match f.problem.number? with
  | some n =>
    "[Errno " ++ toString n ++ "] " ++ f.problem.message ++
      (if f.problem.namesPath then ": " ++ Text.quote f.path else "")
  | none => f.problem.message

/-- Whether the system was asked. -/
def FileFault.isSystemFault (f : FileFault) : Bool := f.problem != .nullByte

/-! ## Trees -/

/-- What is at a place. -/
inductive FileNode where
  | directory
  | file (content : ByteArray)

instance : DecidableEq FileNode
  | .directory, .directory => isTrue rfl
  | .directory, .file _ => isFalse FileNode.noConfusion
  | .file _, .directory => isFalse FileNode.noConfusion
  | .file c, .file d =>
    match ByteArray.instDecidableEq c d with
    | isTrue h => isTrue (congrArg FileNode.file h)
    | isFalse h => isFalse fun e => h (FileNode.file.inj e)

/-- The number of bytes that are stored. -/
def FileNode.size : FileNode → Nat
  | directory => 0
  | file content => content.size

/-- A place: the names that lead to it from the root. -/
abbrev Place := List String

/-- The directories and files there are. -/
structure FileTree where
  /-- What is at each place.  The root is a directory and is not listed. -/
  nodes : List (Place × FileNode) := []
  /-- The current directory. -/
  current : Place := []
  /-- The number of bytes that can still be stored, if there is a bound. -/
  room : Option Nat := none
  deriving DecidableEq

namespace FileTree

/-- What is at a place. -/
def at? (t : FileTree) (p : Place) : Option FileNode :=
  if p = [] then some .directory else (t.nodes.find? (·.1 = p)).map Prod.snd

/-- The content of the file at a place. -/
def content? (t : FileTree) (p : Place) : Option ByteArray :=
  match t.at? p with
  | some (.file c) => some c
  | _ => none

/-- Puts a node at a place. -/
def set (t : FileTree) (p : Place) (n : FileNode) : FileTree :=
  if t.nodes.any (·.1 = p) then
    { t with nodes := t.nodes.map fun e => if e.1 = p then (p, n) else e }
  else { t with nodes := t.nodes ++ [(p, n)] }

/-- The number of bytes at a place. -/
def sizeAt (t : FileTree) (p : Place) : Nat := ((t.at? p).map FileNode.size).getD 0

/-- A tree in which more bytes can be stored. -/
def release (t : FileTree) (size : Nat) : FileTree := { t with room := t.room.map (· + size) }

/-- Drops a place and all that is below it. -/
def drop (t : FileTree) (p : Place) : FileTree :=
  let below (e : Place × FileNode) : Bool := p.isPrefixOf e.1
  let size := (t.nodes.filter below).foldl (fun n e => n + e.2.size) 0
  { t with nodes := t.nodes.filter fun e => !below e }.release size

/-! ## Finding a place -/

/-- The greatest number of bytes in a name. -/
def nameLimit : Nat := 255

/-- The number of bytes at which a path is too long. -/
def pathLimit : Nat := 4096

/-- Follows names from a place.  Every name but the last has to lead to
something, and only a directory can be left by a name. -/
def follow (t : FileTree) : Place → List String → Except FileProblem Place
  | p, [] => .ok p
  | p, n :: ns =>
    match t.at? p with
    | none => .error .absent
    | some (.file _) => .error .notDirectory
    | some .directory =>
      if n = "." then follow t p ns
      else if n = ".." then follow t p.dropLast ns
      else if nameLimit < n.utf8ByteSize then .error .nameTooLong
      else follow t (p ++ [n]) ns

/-- The names of a path that lead somewhere. -/
def steps (path : String) : List String := (Path.parts path).filter (· != "")

/-- Whether a path says by its end that it leads to a directory. -/
def endsWithSlash (path : String) : Bool := path.toList.getLast? = some '/'

/-- The place that names lead to from where a path starts. -/
def locateFrom (t : FileTree) (path : String) (names : List String) : Except FileProblem Place :=
  if '\x00' ∈ path.toList then .error .nullByte
  else if path = "" then .error .absent
  else if pathLimit ≤ path.utf8ByteSize then .error .nameTooLong
  else t.follow (if Path.isAbsolute path then [] else t.current) names

/-- The place of a path, whether something is there or not. -/
def locate (t : FileTree) (path : String) : Except FileProblem Place :=
  t.locateFrom path (steps path)

/-- What a path leads to.  A slash at its end asks for a directory. -/
def look (t : FileTree) (path : String) : Except FileProblem (Place × FileNode) := do
  let p ← t.locate path
  match t.at? p with
  | none => throw .absent
  | some .directory => return (p, .directory)
  | some (.file c) => if endsWithSlash path then throw .notDirectory else return (p, .file c)

/-- Whether a path leads to something. -/
def pathExists (t : FileTree) (path : String) : Bool :=
  match t.look path with
  | .ok _ => true
  | .error _ => false

/-- Whether a path leads to a directory. -/
def isDirectory (t : FileTree) (path : String) : Bool :=
  match t.look path with
  | .ok (_, .directory) => true
  | _ => false

/-! ## Reading and writing -/

/-- The content of a file. -/
def read (t : FileTree) (path : String) : Except FileFault ByteArray :=
  match t.look path with
  | .ok (_, .file c) => .ok c
  | .ok (_, .directory) => .error ⟨.isDirectory, path⟩
  | .error problem => .error ⟨problem, path⟩

/-- The place of a file that is about to be written.  A path with a slash at its
end can only be that of a directory, and its last name is not looked at. -/
def target (t : FileTree) (path : String) : Except FileProblem Place :=
  if endsWithSlash path then do
    let _ ← t.locateFrom path ((steps path).dropLast ++ ["."])
    throw .isDirectory
  else do
    let p ← t.locate path
    if t.at? p = some .directory then throw .isDirectory else return p

/-- Opens a file to write it.  It is created if nothing is there.  Otherwise it is
emptied, and there is room for what it held. -/
def openFile (t : FileTree) (path : String) : Except FileFault (Place × FileTree) :=
  match t.target path with
  | .ok p => .ok (p, (t.set p (.file .empty)).release (t.sizeAt p))
  | .error problem => .error ⟨problem, path⟩

/-- Stores the content of a file that was opened.  If there is no room for all of it,
as much is stored as there is room for. -/
def store (t : FileTree) (p : Place) (content : ByteArray) : Option FileProblem × FileTree :=
  match t.room with
  | none => (none, t.set p (.file content))
  | some room =>
    if content.size ≤ room then
      (none, { t.set p (.file content) with room := some (room - content.size) })
    else
      (some .noSpace, { t.set p (.file (content.extract 0 room)) with room := some 0 })

/-- Writes a file.  What the file held before is lost once it is open, whether the new
content can be stored or not. -/
def write (t : FileTree) (path : String) (content : ByteArray) : Option FileFault × FileTree :=
  match t.openFile path with
  | .error fault => (some fault, t)
  | .ok (p, opened) =>
    let (problem, after) := opened.store p content
    (problem.map fun problem => ⟨problem, path⟩, after)

/-- The tree with one directory more. -/
def makeDirectory (t : FileTree) (path : String) : Except FileFault FileTree :=
  match t.locate path with
  | .error problem => .error ⟨problem, path⟩
  | .ok p => if (t.at? p).isSome then .error ⟨.present, path⟩ else .ok (t.set p .directory)

/-- The directory above a path that is to be created, and the last name. -/
def above (path : String) : String × String :=
  if Path.name path = "" then (Path.parent (Path.parent path), Path.name (Path.parent path))
  else (Path.parent path, Path.name path)

/-- Creates a directory and those above it, as far as they are missing.  The
fault names the path whose creation failed.  Directories that were created
before it stay. -/
def makeDirectoriesWithin : (fuel : Nat) → FileTree → String → Option FileFault × FileTree
  | 0, t, _ => (none, t)
  | fuel + 1, t, path =>
    let (head, name) := above path
    let needsHead := head != "" && name != "" && !t.pathExists head
    let (early, t) := if needsHead then makeDirectoriesWithin fuel t head else (none, t)
    match early with
    | some ⟨.present, _⟩ | none =>
      if needsHead && name == "." then (none, t)
      else match t.makeDirectory path with
        | .ok t => (none, t)
        | .error fault => if t.isDirectory path then (none, t) else (some fault, t)
    | some fault => (some fault, t)

/-- Creates a directory and those above it, as far as they are missing. -/
def makeDirectories (t : FileTree) (path : String) : Option FileFault × FileTree :=
  makeDirectoriesWithin (path.length + 1) t path

/-- Everything below the current directory, with paths from there. -/
def listing (t : FileTree) : List (String × FileNode) :=
  t.nodes.filterMap fun e =>
    if t.current.isPrefixOf e.1 ∧ e.1 ≠ t.current then
      some ("/".intercalate (e.1.drop t.current.length), e.2)
    else none

end FileTree

end ContractClient
