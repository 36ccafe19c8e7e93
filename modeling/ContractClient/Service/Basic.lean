import ContractClient.Catalog.Basic
import ContractClient.Entries

/-!
# Services

The normal form of a contract's services.  Operations whose names become equal
in the generated code form an *overload group*.  A group has at least one
operation, and its first one gives the name under which the remote side is
called.
-/

namespace ContractClient

/-- A remote operation. -/
structure Operation where
  /-- The raw name. -/
  rawName : String
  /-- The name in the generated code. -/
  name : String
  /-- The parameters, in order. -/
  parameters : List Field := []
  /-- The results, in order. -/
  returns : List Field := []
  deriving DecidableEq, Repr

namespace Operation

/-- The types an operation returns.  Only the first result counts. -/
def returnTypes (o : Operation) : List TypeRef := (o.returns.head?.map Field.type).toList

/-- All entries of an operation: its parameters and its results. -/
def entries (o : Operation) : List Field := o.parameters ++ o.returns

end Operation

/-- The operations of one name. -/
structure Overload where
  /-- The common name in the generated code. -/
  name : String
  /-- The first operation. -/
  first : Operation
  /-- The others, in order. -/
  rest : List Operation := []
  deriving DecidableEq, Repr

namespace Overload

/-- The group of a list of operations.  An empty list has none. -/
def ofList? (name : String) : List Operation → Option Overload
  | [] => none
  | o :: os => some ⟨name, o, os⟩

/-- The operations of a group, in order. -/
def operations (g : Overload) : List Operation := g.first :: g.rest

/-- The name under which the remote side is called. -/
def remoteName (g : Overload) : String := g.first.rawName

/-- The types the operations of a group return, each once. -/
def returnTypes (g : Overload) : List TypeRef :=
  distinct (g.operations.flatMap Operation.returnTypes)

end Overload

/-- A service in normal form. -/
structure Service where
  /-- The raw name. -/
  rawName : String
  /-- The name in the generated code. -/
  name : String
  /-- The operations, in order. -/
  operations : List Operation := []
  /-- The overload groups, in order of their first operations. -/
  groups : List Overload := []
  /-- The part of the contract's class map that the service uses. -/
  classMap : ClassMap := []

end ContractClient
