import ContractClient.Text.Lowercase
import ContractClient.Text.Quoted
import ContractClient.Text.Lines
import ContractClient.Web.DomainLabel

/-!
# Hosts

A host is a number address of four parts, a number address of eight parts in
brackets, or a name.  A name in ASCII is taken as it is, in small letters, and what
cannot stand in an address is escaped.  Any other name is a domain name, and its
labels are written in ASCII.

What looks like a number address of four parts has to be one.  It looks like one if
it has digits only, with three characters of any kind in between.
-/

namespace ContractClient.Web

/-! ## Escapes -/

/-- A byte as an escape. -/
def escapeByte (b : UInt8) : List Char := '%' :: (Text.hex 2 b.toNat).map Char.toUpper

/-- A text in which every character is escaped that is not safe. -/
def escapeUnless (isSafe : Char → Bool) (cs : List Char) : List Char :=
  cs.flatMap fun c =>
    if isSafe c then [c] else (String.singleton c).toUTF8.toList.flatMap escapeByte

/-- A character that is never escaped. -/
def isUnreserved (c : Char) : Bool := c.isAlphanum || "-._~".toList.contains c

/-! ## Number addresses -/

/-- Whether a text has digits only, with so many characters of any kind in between.
`isOpen` says whether a digit is in front. -/
def looksNumeric (separators : Nat) (isOpen : Bool) : List Char → Bool
  | [] => separators == 0 && isOpen
  | c :: cs =>
    (c.isDigit && looksNumeric separators true cs) ||
      (isOpen && separators != 0 && looksNumeric (separators - 1) false cs)

/-- Whether a text is a number below 256 without a needless zero. -/
def isOctet (cs : List Char) : Bool :=
  !cs.isEmpty && cs.length ≤ 3 && cs.all Char.isDigit && (cs.head? != some '0' || cs.length == 1) &&
    cs.foldl (fun n c => 10 * n + (c.toNat - 48)) 0 < 256

/-- Whether a text is a number address of four parts. -/
def isFourPart (cs : List Char) : Bool :=
  let parts := Text.split ['.'] cs
  parts.length == 4 && parts.all isOctet

/-- Whether a text is a hexadecimal number of four digits at most. -/
def isHextet (cs : List Char) : Bool :=
  !cs.isEmpty && cs.length ≤ 4 &&
    cs.all fun c => c.isDigit || ('a' ≤ c && c ≤ 'f') || ('A' ≤ c && c ≤ 'F')

/-- The parts of a number address in brackets.  A part of the other kind at its end
stands for two. -/
def hextets? (cs : List Char) : Option (List (List Char)) :=
  let parts := Text.split [':'] cs
  let final := parts.getLast?.getD []
  if parts.length < 3 then none
  else if '.' ∈ final then
    if isFourPart final then some (parts.dropLast ++ [['0'], ['0']]) else none
  else some parts

/-- Whether parts are those of a number address in brackets.  One run of zeros may
be left out. -/
def areHextets (parts : List (List Char)) : Bool :=
  let inner := (parts.drop 1).dropLast
  if 9 < parts.length then false
  else match inner.findIdx? List.isEmpty with
    | none => parts.length == 8 && parts.all isHextet
    | some i =>
      let front := parts.take (i + 1)
      let back := parts.drop (i + 2)
      let high := if front == [[]] then [] else front
      let low := if back == [[]] then [] else back
      high.all isHextet && low.all isHextet && high.length + low.length ≤ 7

/-- Whether a text is a number address as it stands in brackets.  The name of a
network may follow. -/
def isEightPart (cs : List Char) : Bool :=
  let address := cs.takeWhile (· != '%')
  let network := (cs.dropWhile (· != '%')).drop 1
  let isNetwork := '%' ∉ cs || (!network.isEmpty && !network.contains '%')
  isNetwork && ((hextets? address).map areHextets).getD false

/-! ## Names -/

/-- Whether a character may stand in a host name, besides those that are never
escaped. -/
def isHostSafe (c : Char) : Bool :=
  isUnreserved c || "!$&'()*+,;=\"`\x7b\x7d%|\\".toList.contains c

/-- The characters that divide the labels of a domain name. -/
def isLabelMark (c : Char) : Bool := c == '.' || [0x3002, 0xFF0E, 0xFF61].contains c.toNat

/-- The greatest length of a domain name. -/
def nameLimit : Nat := 253

/-- A domain name in ASCII.  It may end with a mark. -/
def domainName? (cs : List Char) : Option (List Char) := do
  let labels := cs.splitOnP isLabelMark
  let isClosed := 1 < labels.length && labels.getLast? == some []
  let encoded ← (if isClosed then labels.dropLast else labels).mapM label?
  let name := Text.joinWith ['.'] (if isClosed then encoded ++ [[]] else encoded)
  if (if isClosed then nameLimit + 1 else nameLimit) < name.length then none else some name

/-- A host as it stands in an address. -/
def host? (cs : List Char) : Option (List Char) :=
  if cs.isEmpty then some []
  else if looksNumeric 3 false cs then if isFourPart cs then some cs else none
  else if cs.head? = some '[' ∧ cs.getLast? = some ']' ∧ 1 < cs.length then
    if isEightPart (cs.drop 1).dropLast then some cs else none
  else if cs.all (·.toNat < 128) then some (escapeUnless isHostSafe (cs.map Char.toLower))
  else domainName? (Text.lowercase cs)

end ContractClient.Web
