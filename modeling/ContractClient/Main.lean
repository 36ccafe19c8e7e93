import ContractClient.CommandLine.Run
import Std.Time.DateTime.Timestamp

/-!
# The program

A run of the program is a function.  What is left to do here is to gather what it
starts from and to put into effect what it leaves behind.

A run sees the files that words of the command line or settings lead to, and those
around them.  It has no web.  The user's answers are not known before they are
asked for.  So the run is repeated with one answer more each time it runs out of
them, and only what is new is printed.
-/

namespace ContractClient.Main

/-! ## Files -/

/-- How deep directories are looked into. -/
def depthLimit : Nat := 3

/-- The size up to which the content of a file is looked at.  Of a larger file it
is only known that it is there. -/
def contentLimit : Nat := 16777216

/-- The content of a file, or nothing if it cannot be read. -/
def contentAt (path : String) : IO ByteArray := do
  try
    let here := (← IO.currentDir) / path
    if (← here.metadata).byteSize.toNat ≤ contentLimit then IO.FS.readBinFile here
    else return .empty
  catch _ => return .empty

/-- The names in a directory, or none if it cannot be read. -/
def namesAt (path : String) : IO (List String) := do
  try
    let entries ← ((← IO.currentDir) / path).readDir
    return entries.toList.map (·.fileName)
  catch _ => return []

/-- What there is at a path and below it, by place. -/
def gather : (depth : Nat) → (path : String) → Place → IO (List (Place × FileNode))
  | 0, _, _ => return []
  | depth + 1, path, place => do
    let here := (← IO.currentDir) / path
    if ← here.isDir then
      let inner ← (← namesAt path).mapM fun n =>
        gather depth (Path.join path n) (place ++ [n])
      return (place, .directory) :: inner.flatten
    else if ← here.pathExists then return [(place, .file (← contentAt path))]
    else return []

/-- The path of a place. -/
def pathOf (place : Place) : String := "/" ++ "/".intercalate place

/-- What there is on the way to a place. -/
def gatherAbove (place : Place) : IO (List (Place × FileNode)) := do
  let above := (List.range place.length).map fun i => place.take i
  let found ← above.mapM fun p => gather 1 (pathOf p) p
  return found.flatten

/-- What a path leads to, and what there is on the way.  Beside a file there may be
others that it refers to. -/
def gatherAround (current : Place) (path : String) : IO (List (Place × FileNode)) := do
  let place := Path.absoluteNames current path
  let above ← gatherAbove place
  let own ← gather depthLimit (pathOf place) place
  match own with
  | [(_, .file _)] =>
    return above ++ own ++ (← gather depthLimit (pathOf place.dropLast) place.dropLast)
  | _ => return above ++ own

/-- The tree of what some paths lead to. -/
def treeOf (current : Place) (paths : List String) : IO FileTree := do
  let found ← paths.mapM (gatherAround current)
  return { nodes := found.flatten.filter (·.1 ≠ []), current }

/-- The paths that words may mean. -/
def pathsIn (words : List String) : List String :=
  words ++ words.map fun w => .ofList ((w.toList.dropWhile (· != '=')).drop 1)

/-- The output directory that words name. -/
def outputIn (words : List String) : Option String :=
  match CommandLine.Arguments.parse words with
  | .ok a => a.choices.output.text?
  | .error _ => none

/-- The settings that a run with some words uses, from the files that lie where
settings can be. -/
def settingsFor (current : Place) (words : List String) : IO (Option Settings) := do
  let paths := Settings.fileName ::
    (outputIn words).toList.map fun d => Path.join d Settings.fileName
  let found ← paths.mapM fun path =>
    let place := Path.absoluteNames current path
    return (← gatherAbove place) ++ (← gather 1 (pathOf place) place)
  let tree : FileTree := { nodes := found.flatten.filter (·.1 ≠ []), current }
  match Settings.load tree Settings.fileName (outputIn words) with
  | .ok (settings, _) => return settings
  | .error _ => return none

/-- The files that a run with some words sees. -/
def filesFor (words : List String) : IO FileTree := do
  let current := Path.settle [] (Path.parts (← IO.currentDir).toString)
  let settings ← settingsFor current words
  let chosen := settings.toList.flatMap fun s => [s.contract, s.output].filterMap Value.text?
  treeOf current (Settings.fileName :: Settings.defaultOutput ::
    (pathsIn words ++ chosen).filter (· ≠ ""))

/-- Puts into effect what is different in a tree. -/
def apply (before after : FileTree) : IO Unit :=
  after.nodes.forM fun (place, node) => do
    if before.at? place ≠ some node then
      match node with
      | .directory => IO.FS.createDirAll (pathOf place)
      | .file content => IO.FS.writeBinFile (pathOf place) content

/-! ## Running -/

/-- The time on the clock. -/
def now : IO Moment := do
  return .ofEpoch (← Std.Time.Timestamp.now).toSecondsSinceUnixEpoch.val

/-- Runs the program, asking for answers as long as they are needed.  `shown`
counts the lines that were printed before. -/
partial def converse (world : Surroundings) (words answers : List String) (time : Client.Clock)
    (shown : Nat) : IO CommandLine.Run := do
  let r := CommandLine.run world words answers time
  (r.printed.drop shown).forM IO.println
  if r.ending = .aborted .outOfInput then
    let line ← (← IO.getStdin).getLine
    if line.isEmpty then return r
    converse world words (answers ++ [line]) time r.printed.length
  else return r

/-- Shows what there is to log. -/
def showNotices (verbose : Bool) (notices : List Notice) : IO Unit :=
  (notices.filter fun n => verbose || n.level == .warning).forM fun n => IO.eprintln n.message

/-- Whether the user wants to be told more. -/
def isVerbose (words : List String) : Bool :=
  match CommandLine.Arguments.parse words with
  | .ok a => a.verbose
  | .error _ => false

end ContractClient.Main

open ContractClient in
/-- Generates the client of a contract. -/
def main (words : List String) : IO UInt32 := do
  let files ← Main.filesFor words
  let r ← Main.converse { files } words [] (.ok (← Main.now)) 0
  Main.apply files r.files
  Main.showNotices (Main.isVerbose words) r.notices
  match r.ending with
  | .status code => return code.toUInt32
  | .aborted _ => return 1
