/-!
# Failures

A failure is a reason why a client could not be generated.  `message` is the
text shown to the user.  A reason that comes from outside, such as a refused
connection, is part of the failure as a text.
-/

namespace ContractClient

/-- A reason why a client could not be generated. -/
inductive Failure where
  /-- A failure with a message of its own. -/
  | general (message : String)
  /-- The contract document could not be read. -/
  | unreadable (location reason : String)
  /-- The contract document could not be understood.  A contract that was not
  read from anywhere has no location. -/
  | uninterpretable (location : Option String) (reason : String)
  /-- The inheritance chains of these classes end in a cycle or in an undefined
  class. -/
  | unrootedClasses (names : List String)
  /-- The contract has no service. -/
  | noServices
  /-- A directory could not be created. -/
  | directory (path : String) (reason : Option String)
  /-- A file could not be written, or no file was. -/
  | writing (path reason : Option String)
  /-- A value that should be the name of a kind is no text. -/
  | invalidKind (typeName : String)
  /-- A name of a client is taken already. -/
  | nameCollision (name conflict : String)
  deriving DecidableEq, Repr

namespace Failure

/-- A text that is absent or empty is left out.  Any other is put between the
given ones. -/
def between (before after : String) : Option String → String
  | some s => if s = "" then "" else before ++ s ++ after
  | none => ""

/-- The text of a failure. -/
def message : Failure → String
  | general m => m
  | unreadable location reason =>
    "Error loading contract document " ++ location ++ " (" ++ reason ++ ")"
  | uninterpretable location reason =>
    let place := match location with
      | some l => if l = "" then "<memory>" else l
      | none => "<memory>"
    "Error interpreting contract document " ++ place ++ " (" ++ reason ++ ")"
  | unrootedClasses names => "Error loading classes: " ++ ", ".intercalate names
  | noServices => "No services loaded"
  | directory path reason => "Unable to create dir " ++ path ++ between " (" ")" reason
  | writing path reason =>
    "Error writing source files" ++ between ": " "" path ++ between " (" ")" reason
  | invalidKind typeName => "Given type must be a string, " ++ typeName ++ " given"
  | nameCollision name conflict =>
    "Client name " ++ name ++ " collides with " ++ conflict ++ "; use set_service_alias"

end Failure

end ContractClient
