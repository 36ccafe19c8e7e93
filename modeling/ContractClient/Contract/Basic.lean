import ContractClient.Checked

/-!
# Contracts

A *contract* describes a remote interface: the classes of its messages and the
services that exchange them.  Everything in it is named by a raw text, as the
author of the contract wrote it.  Turning raw texts into names of generated
code is the business of later modules.

A contract may be given as a structured value.  `Contract.ofValue` checks its
shape.  The name of a base class is trimmed there, and a blank one counts as
none.
-/

namespace ContractClient

/-- A field of a class, or a parameter or result of a function. -/
structure Entry where
  /-- The raw name. -/
  name : String
  /-- The text of the type. -/
  type : String := ""
  deriving DecidableEq, Repr

/-- A class of messages. -/
structure ClassDecl where
  /-- The raw name. -/
  name : String
  /-- The raw name of the base class. -/
  base : Option String := none
  /-- The fields, in order. -/
  entries : List Entry := []
  deriving DecidableEq, Repr

/-- A remote function. -/
structure FunctionDecl where
  /-- The raw name. -/
  name : String
  /-- The parameters, in order. -/
  parameters : List Entry := []
  /-- The results, in order. -/
  returns : List Entry := []
  deriving DecidableEq, Repr

/-- A service: a set of remote functions. -/
structure ServiceDecl where
  /-- The raw name. -/
  name : String
  /-- The functions, in order. -/
  functions : List FunctionDecl := []
  deriving DecidableEq, Repr

/-- A contract. -/
structure Contract where
  /-- Where the contract comes from. -/
  location : Option String := none
  /-- The classes, in order. -/
  classes : List ClassDecl := []
  /-- The services, in order. -/
  services : List ServiceDecl := []
  deriving DecidableEq, Repr

/-! ## Contracts from structured values -/

open Checked

/-- An entry. -/
def Entry.ofValue : Value → Checked Entry := record fun es =>
  Entry.mk <$> required es "name" text <*> defaulted es "type" text ""

/-- The name of a base class, trimmed.  A blank name counts as none. -/
def baseOfValue : Value → Checked (Option String)
  | .text s => let name := Text.strip s; ok (if name = "" then none else some name)
  | v => optional text v

/-- A class. -/
def ClassDecl.ofValue : Value → Checked ClassDecl := record fun es =>
  ClassDecl.mk <$> required es "name" text <*>
    defaulted es "extends" baseOfValue none <*>
    defaulted es "entries" (listOf Entry.ofValue) []

/-- A function. -/
def FunctionDecl.ofValue : Value → Checked FunctionDecl := record fun es =>
  FunctionDecl.mk <$> required es "name" text <*>
    defaulted es "parameters" (listOf Entry.ofValue) [] <*>
    defaulted es "returns" (listOf Entry.ofValue) []

/-- A service. -/
def ServiceDecl.ofValue : Value → Checked ServiceDecl := record fun es =>
  ServiceDecl.mk <$> required es "name" text <*>
    defaulted es "functions" (listOf FunctionDecl.ofValue) []

/-- A contract. -/
def Contract.ofValue : Value → Checked Contract := record fun es =>
  Contract.mk <$> defaulted es "location" (optional text) none <*>
    defaulted es "classes" (listOf ClassDecl.ofValue) [] <*>
    defaulted es "services" (listOf ServiceDecl.ofValue) []

end ContractClient
