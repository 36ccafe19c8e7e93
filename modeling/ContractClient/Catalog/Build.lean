import ContractClient.Catalog.Basic

/-!
# Building the catalog

The classes of a contract are registered under their identifiers.  A later
class of one identifier takes the place of an earlier one, and a class without
an identifier is left out.  The raw names of the classes, and then those of
their bases, go into the class map.

The registered models are put in an order in which every base stands before the
classes that inherit from it.  The pending models are scanned again and again.  A
scan takes a model if it has no base, or a primitive one, or if its base is taken
already, perhaps earlier in the same scan.  If a scan takes nothing, the chains
of the remaining models never reach a root: they run into a cycle, or into a
class that is not defined.
-/

namespace ContractClient.Catalog

/-! ## Registration -/

/-- The identifiers of the classes of a contract. -/
def classNames (decls : List ClassDecl) : List String :=
  (decls.map fun d => Identifier.className d.name).filter (· ≠ "")

/-- The model of a class. -/
def modelOf (classNames : List String) (d : ClassDecl) : Model :=
  { rawName := d.name
    name := Identifier.className d.name
    rawBase := d.base
    baseType := (d.base.filter (· ≠ "")).map TypeRef.parse
    fields := Field.ofEntries classNames d.entries }

/-- Registers the models of classes after those of earlier ones. -/
def registerFrom (classNames : List String) (models : Entries Model) (decls : List ClassDecl) :
    Entries Model :=
  decls.foldl
    (fun models d =>
      if Identifier.className d.name = "" then models
      else models.put (Identifier.className d.name) (modelOf classNames d))
    models

/-- The registered models by name, in order of first registration. -/
def register (decls : List ClassDecl) : Entries Model :=
  registerFrom (classNames decls) [] decls

/-- The notices of registering classes after those of the given names. -/
def registrationNotices (classNames : List String) :
    (seen : List String) → List ClassDecl → List Notice
  | _, [] => []
  | seen, d :: ds =>
    let name := Identifier.className d.name
    if name = "" then .unnamedClass d.name :: registrationNotices classNames seen ds
    else
      (if seen.contains name then [.classReplaced d.name name] else []) ++
        Field.notices classNames d.entries ++ registrationNotices classNames (name :: seen) ds

/-! ## The class map -/

/-- The raw names of the classes themselves. -/
def declaredMeanings (decls : List ClassDecl) : ClassMap :=
  decls.foldl
    (fun m d =>
      if Identifier.className d.name = "" then m
      else m.put d.name (.classId (Identifier.className d.name)))
    []

/-- The model that the base of a registered model leads to. -/
def registeredBase (models : Entries Model) (n : Model) : Option Model :=
  n.baseType.bind (lookUp models.get? (indexByLocalName models.values).get?)

/-- What the base of a registered model stands for. -/
def baseMeaning (models : Entries Model) (n : Model) : Option Meaning :=
  match n.baseType.bind TypeRef.primitive with
  | some k => some (.kind k)
  | none => (registeredBase models n).map fun b => .classId b.name

/-- Adds the raw names of the bases to a class map, where they are not there
already. -/
def addBaseMeanings (models : Entries Model) (m : ClassMap) : ClassMap :=
  models.values.foldl
    (fun m n =>
      match n.rawBase, baseMeaning models n with
      | some raw, some meaning => m.putNew raw meaning
      | _, _ => m)
    m

/-- The class map of a contract. -/
def meanings (decls : List ClassDecl) : ClassMap :=
  addBaseMeanings (register decls) (declaredMeanings decls)

/-! ## Order -/

/-- The name under which the base of a registered model has to be taken first. -/
def awaitedName (models : Entries Model) (n : Model) : Option String :=
  n.baseType.bind fun r =>
    if r.isPrimitive then none
    else some (((registeredBase models n).map Model.name).getD r.name)

/-- One scan over the pending models.  It gives the models taken, including those
taken before, and the models still pending. -/
def scan (awaited : Model → Option String) :
    (pending ready : List Model) → List Model × List Model
  | [], ready => (ready, [])
  | n :: pending, ready =>
    let isReady := match awaited n with
      | none => true
      | some name => (ready.map Model.name).contains name
    if isReady then scan awaited pending (ready ++ [n])
    else
      let (ready, rest) := scan awaited pending ready
      (ready, n :: rest)

/-- Scans until no model is pending, or until a scan takes nothing.  Then the
error holds the names of the pending models. -/
def order (awaited : Model → Option String) (pending ready : List Model) :
    Except (List String) (List Model) :=
  if pending.isEmpty then .ok ready
  else
    let next := scan awaited pending ready
    if next.2.length < pending.length then order awaited next.2 next.1
    else .error (next.2.map Model.name)
termination_by pending.length

/-- The catalog of the classes of a contract, or the names of the classes
whose chains of bases do not reach a root. -/
def build (decls : List ClassDecl) : Except (List String) Catalog :=
  let models := register decls
  (order (awaitedName models) models.values []).map fun ordered =>
    { models := ordered, classMap := meanings decls, byLocal := indexByLocalName models.values }

/-- The notices of building the catalog. -/
def notices (decls : List ClassDecl) : List Notice :=
  registrationNotices (classNames decls) [] decls ++
    match build decls with
    | .ok g => [.classesLoaded g.models.length]
    | .error _ => []

end ContractClient.Catalog
