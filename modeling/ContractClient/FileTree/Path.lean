/-!
# Paths

A path is a text in which slashes divide names.  These functions look at the
text only and not at what is on a disk.
-/

namespace ContractClient.Path

/-- The names between the slashes of a path, empty ones included. -/
def parts (path : String) : List String :=
  (path.toList.splitOn '/').map String.ofList

/-- Whether a path starts at the root. -/
def isAbsolute (path : String) : Bool := path.toList.head? = some '/'

/-- A path below another one.  A path that starts at the root stays as it
is. -/
def join (path more : String) : String :=
  if isAbsolute more then more
  else if path = "" ∨ path.toList.getLast? = some '/' then path ++ more
  else path ++ "/" ++ more

/-- A path with several parts below it, one after the other. -/
def joinAll (path : String) (more : List String) : String := more.foldl join path

/-- The text in front of the last name of a path, with its slashes. -/
def beforeName (path : String) : List Char :=
  (path.toList.reverse.dropWhile (· != '/')).reverse

/-- The last name of a path.  It is empty if the path ends with a slash. -/
def name (path : String) : String :=
  .ofList (path.toList.reverse.takeWhile (· != '/')).reverse

/-- The path without its last name and without slashes at its end.  Slashes
alone are kept. -/
def parent (path : String) : String :=
  let head := beforeName path
  if head.all (· == '/') then .ofList head
  else .ofList (head.reverse.dropWhile (· == '/')).reverse

/-- The names of a path that starts at the root, after points and double points
are worked off.  The names before are given last first. -/
def settle : (before : List String) → List String → List String
  | before, [] => before.reverse
  | before, n :: ns =>
    if n = "" ∨ n = "." then settle before ns
    else if n = ".." then settle before.tail ns
    else settle (n :: before) ns

/-- The names of a path, seen from a directory. -/
def absoluteNames (directory : List String) (path : String) : List String :=
  if isAbsolute path then settle [] (parts path) else settle directory.reverse (parts path)

/-- A path from the root, seen from a directory.  Two slashes at its start stay
two. -/
def absolute (directory : List String) (path : String) : String :=
  let cs := path.toList
  let root := if cs.take 2 = ['/', '/'] ∧ cs[2]? ≠ some '/' then "//" else "/"
  root ++ "/".intercalate (absoluteNames directory path)

end ContractClient.Path
