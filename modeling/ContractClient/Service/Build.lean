import ContractClient.Service.Reachable

/-!
# Building services

A service of a contract is built over the catalog.  A service or an operation
without identifier characters is left out.  Of two services with one identifier
the later counts, at the place of the first.
-/

namespace ContractClient.Catalog

/-! ## Operations and groups -/

/-- The operation of a function, unless it has no identifier. -/
def operation? (f : FunctionDecl) : Option Operation :=
  let name := Identifier.operationName f.name
  if name = "" then none
  else
    some
      { rawName := f.name
        name
        parameters := Field.ofEntries [] f.parameters
        returns := Field.ofEntries [] f.returns }

/-- The notices of building an operation. -/
def operationNotices (f : FunctionDecl) : List Notice :=
  if Identifier.operationName f.name = "" then [.unnamedOperation f.name]
  else Field.notices [] f.parameters ++ Field.notices [] f.returns

/-- The overload groups of operations, in order of first appearance. -/
def overloadsOf (operations : List Operation) : List Overload :=
  (distinct (operations.map Operation.name)).filterMap fun name =>
    Overload.ofList? name (operations.filter (·.name = name))

/-! ## Services -/

/-- The service of a declaration, unless it has no identifier. -/
def service? (g : Catalog) (d : ServiceDecl) : Option Service :=
  let name := Identifier.normalize d.name
  if name = "" then none
  else
    let operations := d.functions.filterMap operation?
    let groups := overloadsOf operations
    some
      { rawName := d.name
        name
        operations
        groups
        classMap := g.classMapFor operations groups }

/-- The services of a contract by name. -/
def serviceIndex (g : Catalog) (decls : List ServiceDecl) : Entries Service :=
  Entries.ofPairs ((decls.filterMap g.service?).map fun s => (s.name, s))

/-- The services of a contract, in order of first registration. -/
def services (g : Catalog) (decls : List ServiceDecl) : List Service :=
  (g.serviceIndex decls).values

/-- The notices of building services after those of the given names. -/
def buildNotices : (seen : List String) → List ServiceDecl → List Notice
  | _, [] => []
  | seen, d :: ds =>
    let name := Identifier.normalize d.name
    if name = "" then .unnamedService d.name :: buildNotices seen ds
    else
      d.functions.flatMap operationNotices ++
        (if seen.contains name then [.serviceReplaced d.name name] else []) ++
        buildNotices (name :: seen) ds

/-- The notices of building the services of a contract. -/
def serviceNotices (g : Catalog) (decls : List ServiceDecl) : List Notice :=
  buildNotices [] decls ++ [.servicesLoaded (g.services decls).length]

end ContractClient.Catalog
