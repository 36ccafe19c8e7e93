import ContractClient.Json.Reader
import ContractClient.Text.Lines
import ContractClient.Text.Utf8

/-!
# Identifiers of resources

An identifier of a resource has a scheme, an authority, a path, a query and a
fragment.  All of them may be empty.  `split?` takes a text apart and `text` puts the
parts together again.  The parts are kept as they are written, with their escapes.

`join?` gives the identifier that a text means in a document that has an identifier
itself.  Only the schemes for which parts of a path have a meaning are joined.
-/

namespace ContractClient

/-- An identifier of a resource. -/
structure Uri where
  /-- The scheme, in small letters. -/
  scheme : List Char := []
  /-- The authority. -/
  authority : List Char := []
  /-- The path. -/
  path : List Char := []
  /-- The query. -/
  query : List Char := []
  /-- The fragment. -/
  fragment : List Char := []
  deriving DecidableEq, Repr

namespace Uri

/-! ## Escapes -/

/-- Replaces escapes of a percent sign and two digits by the bytes they stand
for. -/
def unescapeBytes : List UInt8 → List UInt8
  | 0x25 :: a :: b :: rest =>
    match Json.hexValue? (Char.ofNat a.toNat), Json.hexValue? (Char.ofNat b.toNat) with
    | some x, some y => UInt8.ofNat (16 * x + y) :: unescapeBytes rest
    | _, _ => 0x25 :: unescapeBytes (a :: b :: rest)
  | c :: rest => c :: unescapeBytes rest
  | [] => []

/-- A text without escapes, as bytes. -/
def bytesOf (cs : List Char) : List UInt8 := unescapeBytes (String.ofList cs).toUTF8.toList

/-- A text without escapes.  Bytes that are no text are replaced. -/
def unescape (cs : List Char) : String := Text.Utf8.decodeLossy (bytesOf cs)

/-- Whether a character of a path is written as it is. -/
def isPathChar (c : Char) : Bool := c.isAlphanum || "_.-~/".toList.contains c

/-- A path with all other characters escaped. -/
def escapePath (path : String) : List Char :=
  path.toList.flatMap fun c =>
    if isPathChar c then [c]
    else (String.singleton c).toUTF8.toList.flatMap fun b =>
      '%' :: (Text.hex 2 b.toNat).map Char.toUpper

/-! ## Schemes -/

/-- The schemes whose identifiers have an authority. -/
def authoritySchemes : List String :=
  ["", "ftp", "http", "gopher", "nntp", "telnet", "imap", "wais", "file", "mms", "https", "shttp",
   "snews", "prospero", "rtsp", "rtspu", "rsync", "svn", "svn+ssh", "sftp", "nfs", "git",
   "git+ssh", "ws", "wss"]

/-- The schemes whose identifiers can be joined. -/
def relativeSchemes : List String :=
  ["", "ftp", "http", "gopher", "nntp", "imap", "wais", "file", "https", "shttp", "mms",
   "prospero", "rtsp", "rtspu", "sftp", "svn", "svn+ssh", "ws", "wss"]

/-- A character of a scheme. -/
def isSchemeChar (c : Char) : Bool := c.isAlphanum || c == '+' || c == '-' || c == '.'

/-! ## Taking apart and putting together -/

/-- The scheme a text starts with, in small letters, and the rest.  A scheme starts
with a letter. -/
def splitScheme? (cs : List Char) : Option (List Char × List Char) :=
  let head := cs.takeWhile isSchemeChar
  match cs.drop head.length, (head.head?.map Char.isAlpha).getD false with
  | ':' :: rest, true => some (head.map Char.toLower, rest)
  | _, _ => none

/-- The text up to a mark, and the text behind it. -/
def cut (mark : Char) (cs : List Char) : List Char × List Char :=
  (cs.takeWhile (· != mark), (cs.dropWhile (· != mark)).drop 1)

/-- The authority a text starts with, and the rest. -/
def splitAuthority : List Char → List Char × List Char
  | '/' :: '/' :: rest =>
    let isEnd (c : Char) : Bool := c == '/' || c == '?' || c == '#'
    (rest.takeWhile (!isEnd ·), rest.dropWhile (!isEnd ·))
  | cs => ([], cs)

/-- The parts of a text.  A text without a scheme gets the given one.  Tabs and line
breaks do not count.  There are none if a bracket in the authority stands alone. -/
def split? (scheme cs : List Char) : Option Uri :=
  let cs := cs.filter fun c => c ≠ '\t' ∧ c ≠ '\r' ∧ c ≠ '\n'
  let (scheme, rest) := (splitScheme? cs).getD (scheme, cs)
  let (authority, rest) := splitAuthority rest
  let (front, fragment) := cut '#' rest
  let (path, query) := cut '?' front
  if authority.contains '[' = authority.contains ']' then
    some { scheme, authority, path, query, fragment }
  else none

/-- Some text with a mark in front, unless it is empty. -/
def marked (mark : Char) (cs : List Char) : List Char := if cs.isEmpty then [] else mark :: cs

/-- The text of an identifier. -/
def text (u : Uri) : List Char :=
  let hasAuthority := !u.authority.isEmpty ||
    (!u.scheme.isEmpty && authoritySchemes.contains (.ofList u.scheme) &&
      u.path.take 2 != ['/', '/'])
  let path := if u.path.isEmpty ∨ u.path.head? = some '/' then u.path else '/' :: u.path
  let body := if hasAuthority then '/' :: '/' :: u.authority ++ path else u.path
  (if u.scheme.isEmpty then [] else u.scheme ++ [':']) ++ body ++ marked '?' u.query ++
    marked '#' u.fragment

/-- The text of an identifier without its fragment, and the fragment.  A text without
a fragment stays as it is. -/
def withoutFragment? (cs : List Char) : Option (List Char × List Char) :=
  if '#' ∈ cs then (split? [] cs).map fun u => ({ u with fragment := [] }.text, u.fragment)
  else some (cs, [])

/-- The usual form of a text.  Two texts with one form mean the same resource. -/
def usualForm? (cs : List Char) : Option (List Char) := (split? [] cs).map text

/-! ## Joining -/

/-- The names of a path after points and double points are worked off.  The names
before are given last first. -/
def settleNames : (before : List (List Char)) → List (List Char) → List (List Char)
  | before, [] => before.reverse
  | before, n :: ns =>
    if n = ['.', '.'] then settleNames before.tail ns
    else if n = ['.'] then settleNames before ns
    else settleNames (n :: before) ns

/-- The names of a path seen from another one.  Empty names in the middle are left
out. -/
def namesFrom (base path : List Char) : List (List Char) :=
  let names := Text.split ['/'] path
  if path.head? = some '/' then names
  else
    let above := Text.split ['/'] base
    let all := (if above.getLast? = some [] then above else above.dropLast) ++ names
    all.take 1 ++ (all.drop 1).dropLast.filter (!·.isEmpty) ++ (all.drop 1).reverse.take 1

/-- A path seen from another one. -/
def joinPath (base path : List Char) : List Char :=
  let names := namesFrom base path
  let settled := settleNames [] names
  let isOpen := names.getLast? = some ['.'] ∨ names.getLast? = some ['.', '.']
  let joined := Text.joinWith ['/'] (if isOpen then settled ++ [[]] else settled)
  if joined.isEmpty then ['/'] else joined

/-- What a text means in a document that has an identifier. -/
def join? (base cs : List Char) : Option (List Char) :=
  if base.isEmpty then some cs
  else if cs.isEmpty then some base
  else do
    let b ← split? [] base
    let u ← split? b.scheme cs
    if u.scheme ≠ b.scheme ∨ !relativeSchemes.contains (.ofList u.scheme) then return cs
    let hasAuthority := authoritySchemes.contains (.ofList u.scheme)
    if hasAuthority ∧ !u.authority.isEmpty then return u.text
    let u := if hasAuthority then { u with authority := b.authority } else u
    if u.path.isEmpty then
      return { u with path := b.path, query := if u.query.isEmpty then b.query else u.query }.text
    else return { u with path := joinPath b.path u.path }.text

end Uri

end ContractClient
