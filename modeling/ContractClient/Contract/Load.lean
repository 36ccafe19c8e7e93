import ContractClient.Contract.Document
import ContractClient.Failure
import ContractClient.Markup.Reader
import ContractClient.Notice
import ContractClient.Web

/-!
# Loading a contract

A contract comes from a file or an address on the web, from a structured value,
or is there already.  A document that is read goes through a *transform*, which
turns its text into a value.  Without one the text is a contract document.

Loading fails if the document cannot be read, if its bytes are no text, or if it
cannot be turned into a contract.  A value that is no table can only be a place, and
a place is a text.
-/

namespace ContractClient

/-! ## Faults -/

/-- Why a document cannot be read. -/
inductive ReadFault where
  /-- The file system refuses. -/
  | file (fault : FileFault)
  /-- The web refuses. -/
  | web (fault : WebFault)
  deriving DecidableEq, Repr

/-- The text of a fault. -/
def ReadFault.message : ReadFault → String
  | file f => f.message
  | web f => f.message

/-- Whether someone was asked for the document.  Nobody is asked for a text that can be
neither a path nor an address. -/
def ReadFault.isRefusal : ReadFault → Bool
  | file f => f.isSystemFault
  | web .badAddress => false
  | web _ => true

/-- Why a document gives no contract. -/
inductive ContractFault where
  /-- The text of the document gives no value. -/
  | document (fault : DocumentFault)
  /-- The transform gave up, with a message. -/
  | transform (message : String)
  /-- The value is no table, but something else. -/
  | notTable (typeName : String)
  /-- The value has not the shape of a contract. -/
  | shape (faults : List Fault)
  deriving DecidableEq, Repr

/-- The text of a fault.  What the reader of a format objects to, and where, is
left out of it. -/
def ContractFault.message : ContractFault → String
  | document _ | shape _ => "..."
  | transform m => m
  | notTable typeName => "expected a mapping, got " ++ typeName

/-- Why a contract cannot be loaded. -/
inductive LoadFault where
  /-- The document cannot be read. -/
  | unreadable (location : String) (fault : ReadFault)
  /-- The bytes of the document are no text. -/
  | undecodable (fault : Text.Utf8.Fault)
  /-- The document gives no contract. -/
  | uninterpretable (location : Option String) (fault : ContractFault)
  /-- There is no place to read a document from. -/
  | noPlace
  deriving DecidableEq, Repr

namespace LoadFault

/-- A fault as a failure of the generator.  Only a document that is refused or that
gives no contract is one. -/
def failure? : LoadFault → Option Failure
  | unreadable location fault =>
    if fault.isRefusal then some (.unreadable location fault.message) else none
  | uninterpretable location fault => some (.uninterpretable location fault.message)
  | undecodable _ | noPlace => none

/-- The text of a fault. -/
def message (f : LoadFault) : String :=
  match f.failure?, f with
  | some failure, _ => failure.message
  | none, unreadable _ fault => fault.message
  | none, undecodable fault => fault.message
  | none, _ => "There is no place to read a contract document from"

end LoadFault

/-! ## Loading -/

/-- What documents are read from. -/
structure Surroundings where
  /-- The files. -/
  files : FileTree
  /-- The web. -/
  web : Web := .ofTable []

/-- Turns the text of a document, and its location, into a value.  What it gives is a
plain value, as a document holds it.  It may give up with a fault, of which only the
text matters. -/
abbrev Transform := String → String → Except String Value

/-- Where a contract comes from. -/
inductive Source where
  /-- A path or an address on the web. -/
  | place (path : String)
  /-- A structured value. -/
  | value (v : Value)
  /-- A contract that is there already. -/
  | contract (c : Contract)

namespace Source

/-- The source that a value is: a text is a place and a table is a contract. -/
def ofValue : Value → Source
  | .text path => place path
  | v => value v

end Source

namespace Contract

/-- A location, unless it is empty. -/
def given? : Option String → Option String
  | some l => if l = "" then none else some l
  | none => none

/-- The text of the document at a place. -/
def fetch (world : Surroundings) (path : String) : Except LoadFault String :=
  if Document.isUrl path then
    (world.web.get path).mapError fun f => .unreadable path (.web f)
  else
    match world.files.read path with
    | .error f => .error (.unreadable path (.file f))
    | .ok bytes =>
      match Text.Utf8.decode bytes with
      | .error f => .error (.undecodable f)
      | .ok text => .ok (.ofList (Markup.unifyLineEnds text.toList))

/-- The entries of a contract with a location, if they have none. -/
def withLocation (es : Entries Value) : Option String → Entries Value
  | some l =>
    if ((es.get? "location").map Value.isTruthy).getD false then es
    else es.put "location" (.text l)
  | none => es

/-- The contract that a value describes. -/
def interpret (v : Value) (location : Option String) : Except LoadFault Contract :=
  match v with
  | .table es =>
    match ofValue (.table (withLocation es (given? location))) with
    | .ok c => .ok c
    | .faults fs => .error (.uninterpretable location (.shape fs))
  | v => .error (.uninterpretable location (.notTable v.typeName))

/-- The contract in the text of a document. -/
def ofText (world : Surroundings) (transform : Option Transform) (text location : String) :
    Except LoadFault Contract :=
  match transform with
  | some f =>
    match f text location with
    | .ok v => interpret v (some location)
    | .error m => .error (.uninterpretable (some location) (.transform m))
  | none =>
    match Document.parse world.files text location with
    | .ok (.value v) => interpret v (some location)
    | .ok (.reference _) => .error (.uninterpretable (some location) (.notTable "JsonRef"))
    | .error f => .error (.uninterpretable (some location) (.document f))

/-- Loads a contract. -/
def load (world : Surroundings) (source : Source) (transform : Option Transform)
    (location : Option String) : Except LoadFault Contract :=
  match source with
  | .contract c =>
    match given? location, given? c.location with
    | some l, none => .ok { c with location := some l }
    | _, _ => .ok c
  | .value (.table es) => interpret (.table es) location
  | .value _ => .error .noPlace
  | .place path => do
    let text ← fetch world path
    ofText world transform text ((given? location).getD path)

/-- The notices of loading a contract. -/
def loadNotices (world : Surroundings) (source : Source) (transform : Option Transform)
    (location : Option String) : List Notice :=
  match source with
  | .place path =>
    .fetching path ::
      match load world source transform location with
      | .ok c =>
        [.contractLoaded ((given? location).getD path) c.classes.length c.services.length]
      | .error _ => []
  | .value (.table _) | .contract _ => []
  | .value v => [.fetching v.render]

end Contract

end ContractClient
