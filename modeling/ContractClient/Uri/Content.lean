import ContractClient.FileTree.Basic
import ContractClient.Text.Base64
import ContractClient.Uri.Basic

/-!
# What an identifier leads to

An identifier with the scheme `file` leads to a file of this machine.  One with the
scheme `data` holds its content itself, behind its first comma.  `content?` gives the
bytes.  No other scheme leads anywhere.
-/

namespace ContractClient.Uri

/-- A text without blanks around it, without angle brackets around that and without
the letters `URL:` in front. -/
def unwrap (cs : List Char) : List Char :=
  let cs := Text.trim cs
  let cs :=
    if cs.head? = some '<' ∧ cs.getLast? = some '>' then Text.trim (cs.drop 1).dropLast else cs
  if cs.take 4 = "URL:".toList then Text.trim (cs.drop 4) else cs

/-- The names of this machine. -/
def hostNames : List String := ["", "localhost", "127.0.0.1"]

/-- Whether an authority means this machine.  A colon at its end does not count. -/
def isHere (authority : List Char) : Bool :=
  let name := (unescape authority).toList
  let name := if name.getLast? = some ':' then name.dropLast else name
  hostNames.contains (.ofList (name.map Char.toLower))

/-- Whether the part behind the scheme of a file names another machine as the owner of a
path that starts with two slashes. -/
def isForeign (authority path : List Char) : Bool :=
  path.take 2 == ['/', '/'] && path[2]? != some '/' && !authority.isEmpty &&
    unescape authority != "localhost"

/-- The path of a file, by the text behind its scheme. -/
def filePath? (cs : List Char) : Option String :=
  let (authority, path) := splitAuthority cs
  let path :=
    if cs.take 2 = ['/', '/'] ∧ !path.isEmpty ∧ path.head? ≠ some '/' then '/' :: path else path
  if isHere authority && !isForeign authority path then some (unescape path) else none

/-- The bytes that a text holds, by what is behind its scheme. -/
def data? (cs : List Char) : Option ByteArray :=
  let kind := cs.takeWhile (· != ',')
  match cs.drop kind.length with
  | _ :: body =>
    let bytes := bytesOf body
    if ";base64".toList.isSuffixOf kind then
      (Text.Base64.decode? (bytes.map fun b => Char.ofNat b.toNat)).map fun bs => ⟨bs.toArray⟩
    else some ⟨bytes.toArray⟩
  | [] => none

/-- What an identifier leads to. -/
def content? (files : FileTree) (cs : List Char) : Option ByteArray :=
  let cs := unwrap cs
  let scheme := cs.takeWhile fun c => c ≠ '/' ∧ c ≠ ':'
  match cs.drop scheme.length, String.ofList (scheme.map Char.toLower) with
  | ':' :: rest, "file" => (filePath? rest).bind fun path => (files.read path).toOption
  | ':' :: rest, "data" => data? rest
  | _, _ => none

end ContractClient.Uri
