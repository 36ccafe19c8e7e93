import ContractClient.Catalog.Build
import ContractClient.Contract.Load
import ContractClient.Engine
import ContractClient.Service.Build

/-!
# Clients of a contract

A *client* is a loaded contract with what is chosen for the code generated from
it: the engine, and other names for services.  The catalog and the services
follow from the contract.

The catalog, the services and the model classes are looked at many times, but what
there is to tell about each is told once.  `Told` remembers what was told.  A
catalog that cannot be built is told about each time.
-/

namespace ContractClient

/-- What the user was told already. -/
structure Told where
  /-- The notices on the catalog. -/
  catalog : Bool := false
  /-- The notices on the services. -/
  services : Bool := false
  /-- The notices on the model classes. -/
  classes : Bool := false
  deriving DecidableEq, Repr

/-- A contract and what is chosen for its clients. -/
structure Client where
  /-- The contract. -/
  contract : Contract
  /-- The engine that clients call. -/
  engine : EngineRef
  /-- Other names for services, by raw or valid name. -/
  aliases : Entries String := []
  /-- What was told already. -/
  told : Told := {}

/-- Why there is no client. -/
inductive ClientFault where
  /-- There is no reference to an engine. -/
  | engine (fault : EngineRef.EngineFault)
  /-- The contract cannot be loaded. -/
  | load (fault : LoadFault)
  deriving DecidableEq, Repr

/-- The text of a fault. -/
def ClientFault.message : ClientFault → String
  | engine fault => fault.message
  | load fault => fault.message

namespace Client

/-- The client of a contract.  The engine is looked at before the contract is
loaded. -/
def create (world : Surroundings) (source : Source) (transform : Option Transform)
    (location : Option String) (engine : Value) : Except ClientFault Client := do
  let engine ← (EngineRef.ofValue engine).mapError .engine
  let contract ← (Contract.load world source transform location).mapError .load
  return { contract, engine }

/-- The notices of creating a client. -/
def createNotices (world : Surroundings) (source : Source) (transform : Option Transform)
    (location : Option String) (engine : Value) : List Notice :=
  match EngineRef.ofValue engine with
  | .error _ => []
  | .ok _ => Contract.loadNotices world source transform location

/-- The location of the contract, or the empty text. -/
def location (c : Client) : String := c.contract.location.getD ""

/-! ## Names -/

/-- The message for a text that cannot be the name of a client. -/
def nameRejection (chosen : String) : String :=
  "Псевдоним сервиса должен быть идентификатором Python: " ++ Text.quote chosen

/-- Gives a service another name, if it is an identifier. -/
def rename? (c : Client) (service chosen : String) : Option Client :=
  if Identifier.isIdentifier chosen ∧ ¬ Identifier.isKeyword chosen then
    some { c with aliases := c.aliases.put service chosen }
  else none

/-- The name of the client for a service. -/
def clientName (c : Client) (s : Service) : String :=
  match c.aliases.get? s.rawName, c.aliases.get? s.name with
  | some chosen, _ => chosen
  | none, some chosen => chosen
  | none, none => s.name

/-- The name of the base class of a client. -/
def baseName (name : String) : String := name ++ "Base"

/-! ## The catalog and the services -/

/-- The catalog of the contract. -/
def catalog (c : Client) : Except Failure Catalog :=
  (Catalog.build c.contract.classes).mapError .unrootedClasses

/-- The services of the contract. -/
def services (c : Client) : Except Failure (List Service) :=
  c.catalog.map fun g => g.services c.contract.services

/-- The services of the contract, of which there has to be one. -/
def someServices (c : Client) : Except Failure (List Service) := do
  let ss ← c.services
  if ss.isEmpty then .error .noServices else .ok ss

/-- Whether the catalog can be built. -/
def hasCatalog (c : Client) : Bool :=
  match c.catalog with
  | .ok _ => true
  | .error _ => false

/-- What there is to tell about the catalog. -/
def catalogNotices (c : Client) : List Notice :=
  if c.told.catalog then [] else Catalog.notices c.contract.classes

/-- What there is to tell about the services. -/
def servicesNotices (c : Client) : List Notice :=
  c.catalogNotices ++
    match c.catalog with
    | .ok g => if c.told.services then [] else g.serviceNotices c.contract.services
    | .error _ => []

/-- The client after the catalog was looked at. -/
def afterCatalog (c : Client) : Client :=
  if c.hasCatalog then { c with told := { c.told with catalog := true } } else c

/-- The client after the services were looked at. -/
def afterServices (c : Client) : Client :=
  if c.hasCatalog then { c with told := { c.told with catalog := true, services := true } } else c

end Client

end ContractClient
