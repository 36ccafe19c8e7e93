import ContractClient.Service.Basic

/-!
# The types a service uses

A service uses the classes that its parameters and results refer to, the
classes named like one of its overload groups, and then all that these classes
inherit from or refer to, and so on.  `reachable` walks from the first ones
outward, breadth first.

The walk keeps a queue and the models not yet visited.  A model taken from the
queue that was visited before is dropped.  So in every step the unvisited models
or the queue get fewer, and the walk ends although classes may refer to each
other in circles.

`classMapFor` is the part of the class map that a service needs: the raw type
names that occur in its entries and in the classes it uses, and every raw name
of a class it uses.
-/

namespace ContractClient.Catalog

/-- The models a model refers to directly: its base and the types of its
fields. -/
def neighbours (g : Catalog) (n : Model) : List Model :=
  (g.parent? n).toList ++ n.fields.filterMap fun f => g.find? f.type

/-- The models of another name than the given one. -/
def others (n : Model) (models : List Model) : List Model :=
  models.filter (·.name ≠ n.name)

/-- The walk outward from the models of a queue.  Each visited model is given
once, in the order of the visits. -/
def walk (g : Catalog) (fresh queue : List Model) : List Model :=
  match queue with
  | [] => []
  | n :: queue =>
    if (others n fresh).length < fresh.length then
      n :: walk g (others n fresh) (queue ++ g.neighbours n)
    else walk g fresh queue
termination_by (fresh.length, queue.length)

/-- The model with the name of a group, which is the type of its composite
parameter. -/
def argumentModel (g : Catalog) (group : Overload) : Option Model :=
  g.find? (TypeRef.parse group.name)

/-- The models that operations and groups refer to directly. -/
def roots (g : Catalog) (operations : List Operation) (groups : List Overload) :
    List Model :=
  (operations.flatMap Operation.entries).filterMap (fun f => g.find? f.type) ++
    groups.filterMap g.argumentModel

/-- The models that operations and groups use. -/
def reachable (g : Catalog) (operations : List Operation) (groups : List Overload) :
    List Model :=
  g.walk g.candidates (g.roots operations groups)

/-- The element types in the texts of fields. -/
def rawTypes (fields : List Field) : List String :=
  (fields.filter (·.rawType ≠ "")).map fun f => TypeRef.elementText f.rawType

/-- The raw type names that occur in operations and in the models they use. -/
def rawNames (used : List Model) (operations : List Operation) : List String :=
  (used.flatMap fun n => (n.rawBase.filter (· ≠ "")).toList ++ rawTypes n.fields) ++
    operations.flatMap fun o => rawTypes o.entries

/-- The part of the class map that operations and groups use. -/
def classMapFor (g : Catalog) (operations : List Operation) (groups : List Overload) :
    ClassMap :=
  let used := g.reachable operations groups
  let usedNames := used.map Model.name
  let raw := rawNames used operations
  g.classMap.filter fun p =>
    raw.contains p.1 || (!p.2.isPrimitive && usedNames.contains p.2.text)

end ContractClient.Catalog
