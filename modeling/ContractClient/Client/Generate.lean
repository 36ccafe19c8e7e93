import ContractClient.Calendar.Moment
import ContractClient.Client.Basic
import ContractClient.Emission.ServiceClass
import ContractClient.Output

/-!
# Generating clients

For each service two files are generated.  The *base file* holds the model
classes of the contract and the base class of the client, and is written anew
each time.  So it starts with a banner: comment lines that say what generated it,
when, and from which contract.  The *client file* holds the client itself, which
the user may change.

Before anything is generated the names of the clients are checked.  A client or
its base class must not have the name of a model class or of another client.
-/

namespace ContractClient

/-! ## Banners -/

/-- The first and last line of a banner. -/
def bannerBorder : String := "# " ++ String.ofList (List.replicate 76 '*')

/-- What a banner says. -/
def bannerTexts (on : Moment) (location : String) : List String :=
  ["This class was generated using WSDLInterpreter!",
   "Do not modify this file manually!",
   "Generated on " ++ on.stamp,
   "WSDL " ++ location]

/-- The lines of a banner, without blanks at their ends. -/
def banner (on : Moment) (location : String) : List String :=
  [bannerBorder] ++ (bannerTexts on location).map (fun t => Text.stripRight ("# * " ++ t)) ++
    [bannerBorder]

/-! ## Faults -/

/-- Why no code is generated. -/
inductive GenerationFault where
  /-- The contract does not allow it. -/
  | failure (f : Failure)
  /-- There is no moment at which it is generated. -/
  | moment (f : MomentFault)
  /-- The table of a class names fields that are not there. -/
  | unknownFields (u : Catalog.UnknownFields)
  /-- A file would declare a class twice. -/
  | duplicateClass (d : Code.DuplicateClass)

/-- The text of a fault. -/
def GenerationFault.message : GenerationFault → String
  | failure f => f.message
  | moment f => f.message
  | unknownFields u => u.message
  | duplicateClass d => d.message

namespace Client

/-! ## The check of names -/

/-- Checks the names of clients against the names that are taken, each with what
has it. -/
def checkNamesFrom (c : Client) : (taken : Entries String) → List Service → Except Failure Unit
  | _, [] => .ok ()
  | taken, s :: ss =>
    let name := c.clientName s
    match taken.get? name, taken.get? (baseName name) with
    | some holder, _ => .error (.nameCollision name holder)
    | none, some holder => .error (.nameCollision (baseName name) holder)
    | none, none =>
      let holder := "service " ++ s.rawName
      checkNamesFrom c ((taken.put (baseName name) holder).put name holder) ss

/-- The names of the model classes, each with what has it. -/
def classHolders (g : Catalog) : Entries String :=
  Entries.ofPairs (g.names.map fun n => (n, "contract type " ++ n))

/-- Checks the names of the clients for some services. -/
def checkNames (c : Client) (g : Catalog) (ss : List Service) : Except Failure Unit :=
  c.checkNamesFrom (classHolders g) ss

/-! ## Files -/

/-- The import statements of a base file. -/
def baseImports (engine : EngineRef) : String :=
  "from typing import Any, ClassVar, Dict, List, Optional, Union\n\n" ++
    "from pydantic import BaseModel, ConfigDict, Field\n\n" ++ engine.importLine

/-- The import statements of a client file. -/
def clientImports (name : String) : String :=
  "from generated." ++ baseName name ++ " import *  # noqa: F401,F403\n" ++
    "from generated." ++ baseName name ++ " import " ++ baseName name

/-- The docstring of a client. -/
def clientDocstring (name : String) (on : Moment) : String :=
  "Implementation class of " ++ name ++ ".\n\n" ++
    "You may modify this class for custom logic additions/method overrides.\n" ++
    "If you do so, don't forget to call the overridden super-class method!\n\n" ++
    "This stub was generated using WSDLInterpreter on " ++ on.stamp ++ "\n\n" ++
    "See " ++ baseName name

/-- The model classes of a catalog, in front of everything else in a file. -/
def modelClasses (g : Catalog) : List Code.Class :=
  g.models.map fun n => { g.modelClass n with order := 20 }

/-- The model classes of a catalog, if the table of each names fields that are
there. -/
def checkedClasses (g : Catalog) : Except Catalog.UnknownFields (List Code.Class) := do
  g.models.forM g.checkTable
  return modelClasses g

/-- The lines that complete the model classes, if there are any. -/
def rebuildBlocks (classes : List Code.Class) : List Code.Block :=
  if classes.isEmpty then []
  else [{ code := "\n".intercalate (classes.map fun d => d.name ++ ".model_rebuild()") }]

/-- The base file of a service. -/
def baseFile (c : Client) (g : Catalog) (s : Service) (on : Moment) :
    Except GenerationFault Code.File := do
  let name := c.clientName s
  let classes ← (checkedClasses g).mapError .unknownFields
  let base := { g.serviceClass c.location s (baseName name) true with order := 10 }
  let file : Code.File :=
    { name := Output.baseFile name, header := banner on c.location,
      imports := [baseImports c.engine] }
  let file ← ((classes ++ [base]).foldlM Code.File.addClass file).mapError .duplicateClass
  return (rebuildBlocks classes).foldl Code.File.addBlock file

/-- The client class of a service. -/
def clientClass (name : String) (on : Moment) : Code.Class :=
  { name, inherits := [baseName name], docstring := some (clientDocstring name on) }

/-- The client file of a service. -/
def clientFile (c : Client) (s : Service) (on : Moment) : Except Code.DuplicateClass Code.File :=
  let name := c.clientName s
  Code.File.addClass
    { name := Output.clientFile name, overwrite := false, imports := [clientImports name] }
    (clientClass name on)

/-- The files of some services. -/
def files (c : Client) (g : Catalog) (on : Moment) :
    List Service → Except GenerationFault (List Code.File)
  | [] => .ok []
  | s :: ss => do
    let base ← c.baseFile g s on
    let own ← (c.clientFile s on).mapError .duplicateClass
    let rest ← files c g on ss
    return base :: own :: rest

/-! ## Projects -/

/-- The name of a project whose contract has no location. -/
def defaultName : String := "wsdl_client"

/-- The moment at which files are generated, if there is one. -/
abbrev Clock := Except MomentFault Moment

/-- The moment that files are stamped with: that of the clock, in its zone. -/
def momentOf (on : Clock) : Except MomentFault Moment := on >>= Moment.zoned

/-- What has to hold before files are generated: there is a catalog, there are
services, the names of the clients are free, and there is a moment. -/
def ready (c : Client) (on : Clock) :
    Except GenerationFault (Catalog × List Service × Moment) := do
  let ss ← c.someServices.mapError .failure
  let g ← c.catalog.mapError .failure
  (c.checkNames g ss).mapError .failure
  let moment ← (momentOf on).mapError .moment
  return (g, ss, moment)

/-- The files of all clients. -/
def generate (c : Client) (on : Clock) : Except GenerationFault Code.Project := do
  let (g, ss, moment) ← c.ready on
  let files ← c.files g moment ss
  return { name := if c.location = "" then defaultName else c.location, files }

/-- What there is to tell when files are generated. -/
def generateNotices (c : Client) (on : Clock) : List Notice :=
  c.servicesNotices ++
    match c.ready on with
    | .ok (g, ss, _) =>
      (if c.told.classes then [] else g.models.flatMap Catalog.modelNotices) ++
        ss.flatMap fun s => g.serviceClassNotices c.location s (baseName (c.clientName s)) true
    | .error _ => []

/-- The client after files were generated. -/
def afterGenerate (c : Client) (on : Clock) : Client :=
  match c.ready on with
  | .ok _ => { c with told := { catalog := true, services := true, classes := true } }
  | .error _ => c.afterServices

/-! ## Writing -/

/-- Why files are not written. -/
inductive DeliveryFault where
  /-- There is no code. -/
  | generation (fault : GenerationFault)
  /-- The files cannot be written. -/
  | write (fault : Output.WriteFault)

/-- The text of a fault. -/
def DeliveryFault.message : DeliveryFault → String
  | generation fault => fault.message
  | write fault => fault.message

/-- What came of writing the files of all clients. -/
structure Delivery where
  /-- The paths that were written. -/
  outcome : Except DeliveryFault (List String)
  /-- The files afterwards. -/
  files : FileTree
  /-- What the user is told. -/
  notices : List Notice

/-- Generates the files of all clients and writes them. -/
def deliver (c : Client) (t : FileTree) (directory : String) (on : Clock) : Delivery :=
  match c.generate on with
  | .error fault =>
    { outcome := .error (.generation fault), files := t, notices := c.generateNotices on }
  | .ok project =>
    let w := Output.writeProject t directory project
    { outcome := w.outcome.mapError .write
      files := w.files
      notices := c.generateNotices on ++ w.notices ++
        match w.outcome with
        | .ok paths => [.filesWritten paths.length]
        | .error _ => [] }

/-- Whether one of the clients has a file of the user already. -/
def hasClient (c : Client) (t : FileTree) (directory : String) : Except Failure Bool :=
  c.someServices.map fun ss => Output.anyClientExists t directory (ss.map c.clientName)

end Client

end ContractClient
