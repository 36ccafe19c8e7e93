import ContractClient.Emission.ServiceClass
import ContractClient.Proofs.Client.Legal
import ContractClient.Proofs.Code.Scope
import ContractClient.Proofs.Service.Reachable

/-!
# Annotations of generated classes

An annotation is made of words that every generated module knows, and of the classes
that references lead to.  In a catalog that was built a reference leads to a class of
the catalog, and a reference that leads nowhere is written `Any`.  So every name in
the annotation of a field, of an accessor and of a method is a word or a class of the
catalog (`isAnnotated_fieldParameter`, `isAnnotated_accessor`, `isAnnotated_method`).
-/

namespace ContractClient.Catalog

open Code Identifier

/-- The names that an annotation may use although no class is declared under them. -/
def typeWords : List String := ["int", "float", "str", "Any", "List", "Optional", "Union"]

/-- The names that an annotation of a class of the catalog may use. -/
def knownNames (g : Catalog) : List String := typeWords ++ g.names

variable {g : Catalog} {decls : List ClassDecl}

theorem closed_typeWord {w : String} (h : w ∈ typeWords) : Closed g.knownNames w := by
  have identifiers : ∀ w ∈ typeWords, isIdentifier w = true := by decide +kernel
  exact closed_of_mem (identifiers w h) (List.mem_append_left _ h)

theorem closed_any : Closed g.knownNames "Any" := closed_typeWord (by decide)

section Built

variable (h : build decls = .ok g)
include h

theorem closed_name {name : String} (hname : name ∈ g.names) : Closed g.knownNames name :=
  closed_of_mem (isClassName_of_mem_names h hname).identifier (List.mem_append_right _ hname)

theorem closed_name_of_find? {r : TypeRef} {n : Model} (found : g.find? r = some n) :
    Closed g.knownNames n.name :=
  closed_name h (List.mem_map_of_mem (mem_models_of_find? h found))

theorem closed_reference (r : TypeRef) (quoted : Bool) :
    Closed g.knownNames (g.annotation r quoted).render := by
  have arrayed : ∀ inner, Closed g.knownNames inner →
      Closed g.knownNames
        (if r.isArray then Expr.wrapped "List" (.single inner) else .single inner).render := by
    intro inner closed
    split
    · exact Expr.closed_wrapped closed_any (closed_typeWord (by decide))
        (Expr.closed_single closed)
    · exact Expr.closed_single closed
  apply arrayed
  split
  next k _ => cases k <;> exact closed_typeWord (by decide)
  next =>
    split
    next n found =>
      have closed := closed_name_of_find? h found
      split
      · exact closed_quoted closed
      · exact closed
    next => exact closed_any

theorem closed_fieldAnnotation (f : Field) :
    Closed g.knownNames (g.fieldAnnotation f).render :=
  Expr.closed_wrapped closed_any (closed_typeWord (by decide)) (closed_reference h f.type true)

theorem isAnnotated_fieldParameter (f : Field) :
    (g.fieldParameter f).IsAnnotated g.knownNames :=
  ⟨_, rfl, closed_fieldAnnotation h f⟩

/-- The accessors of a renamed field have its annotation. -/
theorem isAnnotated_accessor {n : Model} {k : Function} (hk : k ∈ g.accessors n) :
    k.IsAnnotated g.knownNames := by
  obtain ⟨f, -, hk⟩ := List.mem_flatMap.mp hk
  have field := closed_fieldAnnotation h f
  rcases List.mem_pair.mp hk with rfl | rfl
  · refine ⟨?_, _, rfl, field⟩
    intro p hp
    cases hp
  · refine ⟨?_, _, rfl, ?_⟩
    · intro p hp
      rw [List.mem_singleton.mp (hp : p ∈ [_])]
      exact ⟨_, rfl, field⟩
    · have reserved : Code.names "None" = [] := by decide +kernel
      intro w hw
      rw [reserved] at hw
      cases hw

theorem closed_argumentType (group : Overload) :
    Closed g.knownNames (g.argumentType group) := by
  rw [argumentType]
  cases found : g.argumentModel group with
  | none => exact closed_any
  | some n => exact closed_name_of_find? h found

theorem closed_resultType (group : Overload) : Closed g.knownNames (g.resultType group) := by
  have closed : ∀ a ∈ distinct (group.returnTypes.map fun r => (g.annotation r false).render),
      Closed g.knownNames a := by
    intro a ha
    obtain ⟨r, -, rfl⟩ := List.mem_map.mp (mem_distinct.mp ha)
    exact closed_reference h r false
  rw [resultType]
  split
  next => exact closed_any
  next a only => exact closed a (only ▸ List.mem_singleton_self a)
  next =>
    have comma : IsSeparator ", " := by decide +kernel
    have opening : "Union[" = "Union" ++ "[" := by decide
    have union : Closed g.knownNames "Union" := closed_typeWord (by decide)
    rw [opening]
    exact closed_bracketed union (closed_intercalate comma closed)

/-- The composite parameter of a method and its result. -/
theorem isAnnotated_method (group : Overload) : (g.method group).IsAnnotated g.knownNames where
  parameters := by
    intro p hp
    rw [List.mem_singleton.mp (hp : p ∈ [_])]
    exact ⟨_, rfl, Expr.closed_single (closed_quoted (closed_argumentType h group))⟩
  response := ⟨_, rfl, closed_quoted (closed_resultType h group)⟩

end Built

end ContractClient.Catalog
