import ContractClient.Contract.Elements
import ContractClient.Contract.Reference
import ContractClient.Markup.Reader

/-!
# Contract documents

A contract document is a text.  If it starts with an angle bracket, blanks
apart, it is markup, and otherwise it is JSON with references.  Either way it
gives a structured value, whose shape is checked later.
-/

namespace ContractClient

/-- Why a text gives no value. -/
inductive DocumentFault where
  /-- The text is not JSON. -/
  | notJson
  /-- A whole number has too many digits. -/
  | longNumber (digits : Nat)
  /-- The text is nested too deeply. -/
  | tooDeep
  /-- The text is not well-formed markup. -/
  | notMarkup
  /-- A reference leads to nothing, or to itself. -/
  | brokenReference
  /-- References lead to each other without end, or a document around them is nested
  too deeply. -/
  | endlessReference
  /-- The text of a reference is no identifier. -/
  | badIdentifier
  deriving DecidableEq, Repr

/-- The text of a fault.  What the reader of a format objects to, and where, is left
out of it. -/
def DocumentFault.message : DocumentFault → String
  | longNumber digits =>
    "Exceeds the limit (" ++ toString Text.digitLimit ++
      " digits) for integer string conversion: value has " ++ toString digits ++
      " digits; use sys.set_int_max_str_digits() to increase the limit"
  | badIdentifier => "Invalid IPv6 URL"
  | _ => "..."

/-- The fault of a document that a reference cannot be followed in. -/
def DocumentFault.ofReference : Reference.RefFault → DocumentFault
  | .broken => brokenReference
  | .endless => endlessReference
  | .invalid => badIdentifier

namespace Document

/-- Whether a location is an address on the web. -/
def isUrl (location : String) : Bool :=
  location.startsWith "http://" || location.startsWith "https://"

/-- The identifier of a document.  A document in a file has the absolute path of the
file in its identifier. -/
def identifier (files : FileTree) (location : String) : List Char :=
  if location = "" ∨ isUrl location then location.toList
  else "file://".toList ++ Uri.escapePath (Path.absolute files.current location)

/-- The value of a text in JSON. -/
def ofJson (files : FileTree) (text location : String) : Except DocumentFault Document :=
  match Json.parse text with
  | .error .malformed => .error .notJson
  | .error (.longNumber digits) => .error (.longNumber digits)
  | .error .tooDeep => .error .tooDeep
  | .ok root =>
    (Reference.resolveAll files (identifier files location) root).mapError .ofReference

/-- The value of a text in markup. -/
def ofMarkup (text : String) : Except DocumentFault Value :=
  match Markup.parse? text with
  | some root => .ok (Contract.valueOfElement root)
  | none => .error .notMarkup

/-- The value of a text. -/
def parse (files : FileTree) (text location : String) : Except DocumentFault Document :=
  let trimmed := Text.stripLeft text
  if trimmed.startsWith "<" then (ofMarkup trimmed).map .value
  else ofJson files text location

end Document

end ContractClient
