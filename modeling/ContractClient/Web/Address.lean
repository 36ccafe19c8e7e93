import ContractClient.Text.Numeral
import ContractClient.Web.Host

/-!
# Addresses on the web

An address has a scheme, an authority, a path, a query and a fragment.  The
authority has a user, a host and a port.  All parts but the path may be absent.

An address is *settled* before it is asked for: the scheme and the host are written
in small letters, the usual port of the scheme is left out, points and double points
in the path are worked off, and characters that cannot stand in a part are escaped.
An escape that is there already stays.

Not every text is an address.  It must not be too long or hold control characters,
and its host and its port have to make sense.
-/

namespace ContractClient.Web

/-! ## Parts -/

/-- The parts of an address. -/
structure Address where
  /-- The scheme. -/
  scheme : List Char
  /-- The user. -/
  user : List Char
  /-- The host. -/
  host : List Char
  /-- The port, if a mark for it is there. -/
  port : List Char
  /-- The path. -/
  path : List Char
  /-- The query. -/
  query : Option (List Char)
  /-- The fragment. -/
  fragment : Option (List Char)

/-- The text up to a mark, and the text behind the mark if it is there. -/
def splitAtMark (mark : Char) (cs : List Char) : List Char × Option (List Char) :=
  match cs.dropWhile (· != mark) with
  | [] => (cs, none)
  | _ :: rest => (cs.takeWhile (· != mark), some rest)

/-- The user and the rest of an authority.  The last mark counts. -/
def splitUser (cs : List Char) : List Char × List Char :=
  if '@' ∈ cs then
    (((cs.reverse.dropWhile (· != '@')).drop 1).reverse,
      (cs.reverse.takeWhile (· != '@')).reverse)
  else ([], cs)

/-- The host and the rest of an authority.  In brackets a host may hold any
characters. -/
def splitHost (cs : List Char) : List Char × List Char :=
  if cs.head? = some '[' ∧ ']' ∈ cs then
    ((cs.reverse.dropWhile (· != ']')).reverse, (cs.reverse.takeWhile (· != ']')).reverse)
  else (cs.takeWhile (· != ':'), cs.dropWhile (· != ':'))

/-- The parts of an address that starts with a scheme and two slashes. -/
def Address.ofChars (cs : List Char) : Address :=
  let scheme := cs.takeWhile (· != ':')
  let rest := cs.drop (scheme.length + 3)
  let isEnd (c : Char) : Bool := c == '/' || c == '?' || c == '#'
  let (user, place) := splitUser (rest.takeWhile (!isEnd ·))
  let (host, port) := splitHost place
  let (front, fragment) := splitAtMark '#' (rest.dropWhile (!isEnd ·))
  let (path, query) := splitAtMark '?' front
  { scheme, user, host, port := if port.head? = some ':' then port.drop 1 else port
    path, query, fragment }

/-! ## Settling -/

/-- A printable character of ASCII that is none of the given ones. -/
def isPrintedBut (others : List Char) (c : Char) : Bool :=
  32 < c.toNat && c.toNat < 127 && !others.contains c

/-- Whether a character may stand in a fragment. -/
def isFragmentSafe : Char → Bool := isPrintedBut "\"<>`".toList

/-- Whether a character may stand in a query. -/
def isQuerySafe : Char → Bool := isPrintedBut "\"#<>".toList

/-- Whether a character may stand in a path. -/
def isPathSafe : Char → Bool := isPrintedBut "\"#<>?`\x7b\x7d".toList

/-- Whether a character may stand in the name of a user. -/
def isUserSafe : Char → Bool := isPrintedBut "\"#<>?`\x7b\x7d/;=@[\\]^|".toList

/-- The parts of a path between its slashes, after points and double points are
worked off.  The parts before are given last first. -/
def settleParts : (before : List (List Char)) → List (List Char) → List (List Char)
  | before, [] => before.reverse
  | before, p :: ps =>
    if p = ['.'] then settleParts before ps
    else if p = ['.', '.'] then settleParts (if before = [[]] then before else before.tail) ps
    else settleParts (p :: before) ps

/-- A path after points and double points are worked off. -/
def settlePath (cs : List Char) : List Char :=
  Text.joinWith ['/'] (settleParts [] (Text.split ['/'] cs))

/-- The usual port of a scheme. -/
def usualPort (scheme : List Char) : Int := if scheme = "https".toList then 443 else 80

/-- The port as it is written, if it makes sense. -/
def port? (scheme cs : List Char) : Option (List Char) :=
  if cs.isEmpty then some []
  else (Text.integer? cs).map fun n =>
    if n = usualPort scheme then [] else ':' :: (toString n).toList

/-- The greatest length of an address. -/
def addressLimit : Nat := 65536

/-- Whether a text can be an address by its length and its characters. -/
def isPlausible (cs : List Char) : Bool :=
  cs.length ≤ addressLimit && cs.all fun c => 128 ≤ c.toNat || (32 ≤ c.toNat && c.toNat < 127)

/-- A part that may be absent, escaped and with its mark. -/
def withMark (mark : Char) (isSafe : Char → Bool) : Option (List Char) → List Char
  | none => []
  | some cs => mark :: escapeUnless isSafe cs

/-- The text of an address after it is settled. -/
def Address.settle? (a : Address) : Option (List Char) := do
  let host ← host? a.host
  let port ← port? a.scheme a.port
  let user := if a.user.isEmpty then [] else escapeUnless isUserSafe a.user ++ ['@']
  let authority := user ++ host ++ port
  return a.scheme ++ [':'] ++ (if authority.isEmpty then [] else '/' :: '/' :: authority) ++
    escapeUnless isPathSafe (settlePath a.path) ++ withMark '?' isQuerySafe a.query ++
    withMark '#' isFragmentSafe a.fragment

/-- An address that starts with a scheme and two slashes, settled.  There is none if
the text is no address. -/
def settle? (address : String) : Option String :=
  let cs := address.toList
  if isPlausible cs then (Address.ofChars cs).settle?.map String.ofList else none

end ContractClient.Web
