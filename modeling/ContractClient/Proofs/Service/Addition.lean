import ContractClient.Emission.ServiceClass
import ContractClient.Proofs.Catalog.Addition
import ContractClient.Proofs.Service.ClassMap

/-!
# Services and a class that nothing refers to

A service sees the classes of a contract through its references only: through the types
of its parameters and results and the names of its groups, and from there through the
bases and the fields of the classes it reaches.  If a new class has nothing to do with
all these, the walk from a service visits the same models in the same order
(`reachable_of_grows`).  The raw name of the new class is no raw type of theirs, so the
part of the class map that the service uses is the same (`classMapFor_of_grows`), and so
are the annotations in its methods.  Hence every service, and the class that is generated
for it, is what it was (`services_of_unrelated_class`).
-/

namespace ContractClient

open Identifier (className)

seal Identifier.className Identifier.typeName TypeRef.parse TypeRef.elementText Field.ofEntries

/-- The references that operations and groups make: the types of their parameters and
results and the names of the groups. -/
def serviceReferences (operations : List Operation) (groups : List Overload) : List TypeRef :=
  (operations.flatMap Operation.entries).map Field.type ++
    groups.map fun group => TypeRef.parse group.name

/-- The references in the declaration of a service. -/
def ServiceDecl.references (d : ServiceDecl) : List TypeRef :=
  let operations := d.functions.filterMap Catalog.operation?
  serviceReferences operations (Catalog.overloadsOf operations)

namespace Catalog

variable {g g' : Catalog} {decls : List ClassDecl} {d : ClassDecl} {added : Model}
  {operations : List Operation} {groups : List Overload}

/-! ## The walk -/

theorem mem_models_of_grows (grows : Grows g g' d added) {n : Model} (hn : n ∈ g.models) :
    n ∈ g'.models := by
  obtain ⟨front, back, old, new⟩ := grows.models
  rw [old, List.mem_append] at hn
  rw [new, List.mem_append, List.mem_cons]
  exact hn.imp_right Or.inr

theorem neighbours_of_grows (grows : Grows g g' d added) (unrelated : Unrelated g d) {n : Model}
    (hn : n ∈ g.models) : g'.neighbours n = g.neighbours n := by
  have parent : g'.parent? n = g.parent? n := by
    rw [parent?, parent?]
    cases base : n.baseType with
    | none => rfl
    | some r => exact grows.find r (unrelated.avoided r (base_mem_references hn base))
  rw [neighbours, neighbours, parent]
  congr 1
  apply List.filterMap_congr
  intro f hf
  exact grows.find _ (unrelated.avoided _ (field_mem_references hn hf))

/-- A walk among the models of the old catalog is the same in both, if the same of them
are left to visit. -/
theorem walk_of_grows (h : build decls = .ok g) (grows : Grows g g' d added)
    (unrelated : Unrelated g d) {fresh queue : List Model} (queued : ∀ n ∈ queue, n ∈ g.models) :
    ∀ fresh', (∀ n ∈ g.models, n.name ∈ fresh'.map Model.name ↔ n.name ∈ fresh.map Model.name) →
      g'.walk fresh' queue = g.walk fresh queue := by
  fun_induction walk g fresh queue with
  | case1 fresh =>
      intro fresh' _
      rw [walk]
  | case2 fresh n queue visited ih =>
      intro fresh' same
      have hn := queued n List.mem_cons_self
      have visited' := length_others_lt_iff.mpr
        ((same n hn).mpr (length_others_lt_iff.mp visited))
      have next : ∀ m ∈ queue ++ g.neighbours n, m ∈ g.models := by
        intro m hm
        rcases List.mem_append.mp hm with hm | hm
        · exact queued m (List.mem_cons_of_mem _ hm)
        · exact mem_models_of_mem_neighbours h hm
      have left : ∀ m ∈ g.models, m.name ∈ (others n fresh').map Model.name ↔
          m.name ∈ (others n fresh).map Model.name := by
        intro m hm
        rw [mem_names_others, mem_names_others, same m hm]
      rw [walk, if_pos visited', neighbours_of_grows grows unrelated hn, ih next _ left]
  | case3 fresh n queue seen ih =>
      intro fresh' same
      have hn := queued n List.mem_cons_self
      have seen' : ¬ (others n fresh').length < fresh'.length := by
        rwa [length_others_lt_iff, same n hn, ← length_others_lt_iff]
      rw [walk, if_neg seen']
      exact ih (fun m hm => queued m (List.mem_cons_of_mem _ hm)) fresh' same

section References

variable (avoided : ∀ r ∈ serviceReferences operations groups, r.Avoids d)
include avoided

theorem find?_entry_of_grows (grows : Grows g g' d added) {o : Operation} (ho : o ∈ operations)
    {f : Field} (hf : f ∈ o.entries) : g'.find? f.type = g.find? f.type :=
  grows.find _ (avoided _ (List.mem_append_left _
    (List.mem_map_of_mem (List.mem_flatMap.mpr ⟨o, ho, hf⟩))))

theorem argumentModel_of_grows (grows : Grows g g' d added) {group : Overload}
    (hgroup : group ∈ groups) : g'.argumentModel group = g.argumentModel group :=
  grows.find _ (avoided _ (List.mem_append_right _ (List.mem_map_of_mem hgroup)))

theorem roots_of_grows (grows : Grows g g' d added) :
    g'.roots operations groups = g.roots operations groups := by
  rw [roots, roots]
  congr 1
  · apply List.filterMap_congr
    intro f hf
    obtain ⟨o, ho, hf⟩ := List.mem_flatMap.mp hf
    exact find?_entry_of_grows avoided grows ho hf
  · exact List.filterMap_congr fun group hgroup => argumentModel_of_grows avoided grows hgroup

/-- A service reaches the same models. -/
theorem reachable_of_grows (h : build decls = .ok g) (grows : Grows g g' d added)
    (unrelated : Unrelated g d) :
    g'.reachable operations groups = g.reachable operations groups := by
  rw [reachable, reachable, roots_of_grows avoided grows]
  apply walk_of_grows h grows unrelated (fun n => mem_models_of_mem_roots h)
  intro n hn
  exact iff_of_true (name_mem_candidates (mem_models_of_grows grows hn)) (name_mem_candidates hn)

/-! ## The class map -/

omit avoided in
theorem rawType_ne {f : Field} (type : f.type = TypeRef.parse f.rawType)
    (avoids : f.type.Avoids d) (proper : (TypeRef.parse d.name).isPrimitive = false) :
    TypeRef.elementText f.rawType ≠ d.name := by
  intro same
  rw [← same] at proper
  apply avoids.1
  rw [type, ← TypeRef.parse_elementText_name proper, TypeRef.parse_name proper, same]

/-- The raw name of the new class does not occur in a service, or in a class it uses. -/
theorem not_mem_rawNames (h : build decls = .ok g) (unrelated : Unrelated g d)
    (types : ∀ o ∈ operations, ∀ f ∈ o.entries, f.type = TypeRef.parse f.rawType) :
    d.name ∉ rawNames (g.reachable operations groups) operations := by
  intro occurs
  rcases mem_rawNames_iff.mp occurs with ⟨n, hn, base, -⟩ | ⟨n, hn, field⟩ | ⟨o, ho, entry⟩
  · have model := mem_models_of_mem_reachable h hn
    exact rawBase_ne h unrelated ((models_perm_of_build h).mem_iff.mp model) base
  · have model := mem_models_of_mem_reachable h hn
    obtain ⟨f, hf, -, same⟩ := mem_rawTypes_iff.mp field
    exact rawType_ne (type_of_mem_fields h model hf)
      (unrelated.avoided _ (field_mem_references model hf)) unrelated.proper same.symm
  · obtain ⟨f, hf, -, same⟩ := mem_rawTypes_iff.mp entry
    exact rawType_ne (types o ho f hf) (avoided _ (List.mem_append_left _
      (List.mem_map_of_mem (List.mem_flatMap.mpr ⟨o, ho, hf⟩)))) unrelated.proper same.symm

theorem classMapFor_of_grows (h : build decls = .ok g) (grows : Grows g g' d added)
    (unrelated : Unrelated g d)
    (types : ∀ o ∈ operations, ∀ f ∈ o.entries, f.type = TypeRef.parse f.rawType) :
    g'.classMapFor operations groups = g.classMapFor operations groups := by
  have unmentioned := not_mem_rawNames avoided h unrelated types
  have unused : className d.name ∉ (g.reachable operations groups).map Model.name := by
    intro used
    obtain ⟨n, hn, same⟩ := List.mem_map.mp used
    exact unrelated.name (same ▸ List.mem_map_of_mem (mem_models_of_mem_reachable h hn))
  obtain ⟨front, back, old, new⟩ := grows.classMap
  rw [classMapFor, classMapFor, reachable_of_grows avoided h grows unrelated, old, new,
    List.filter_append, List.filter_append, List.filter_cons_of_neg]
  simpa [Meaning.text, unmentioned] using fun _ => unused

end References

/-! ## Services -/

theorem service?_of_grows (h : build decls = .ok g) (grows : Grows g g' d added)
    (unrelated : Unrelated g d) {sd : ServiceDecl} (avoided : ∀ r ∈ sd.references, r.Avoids d) :
    g'.service? sd = g.service? sd := by
  rw [service?, service?]
  split
  next => rfl
  next named =>
    have types : ∀ o ∈ sd.functions.filterMap operation?, ∀ f ∈ o.entries,
        f.type = TypeRef.parse f.rawType := fun o ho f hf =>
      type_of_mem_entries (g := g) (d := sd) (if_neg named) ho hf
    dsimp only
    rw [classMapFor_of_grows avoided h grows unrelated types]

/-! ## Generated classes -/

theorem annotation_of_grows (grows : Grows g g' d added) {r : TypeRef} (avoids : r.Avoids d)
    (quoted : Bool) : g'.annotation r quoted = g.annotation r quoted := by
  rw [Catalog.annotation, Catalog.annotation, grows.find r avoids]

/-- The results of a group are results of its operations. -/
theorem returnTypes_subset {group : Overload} (hgroup : group ∈ overloadsOf operations)
    {r : TypeRef} (hr : r ∈ group.returnTypes) :
    r ∈ serviceReferences operations (overloadsOf operations) := by
  rw [Overload.returnTypes, mem_distinct, List.mem_flatMap] at hr
  obtain ⟨o, ho, hr⟩ := hr
  rw [operations_of_mem_overloadsOf hgroup] at ho
  rw [Operation.returnTypes, Option.mem_toList, Option.map_eq_some_iff] at hr
  obtain ⟨f, first, rfl⟩ := hr
  have entry : f ∈ o.entries := List.mem_append_right _ (List.mem_of_head? first)
  exact List.mem_append_left _
    (List.mem_map_of_mem (List.mem_flatMap.mpr ⟨o, (List.mem_filter.mp ho).1, entry⟩))

theorem method_of_grows (grows : Grows g g' d added)
    (avoided : ∀ r ∈ serviceReferences operations (overloadsOf operations), r.Avoids d)
    {group : Overload} (hgroup : group ∈ overloadsOf operations) :
    g'.method group = g.method group := by
  have argument : g'.argumentType group = g.argumentType group := by
    rw [argumentType, argumentType, argumentModel_of_grows avoided grows hgroup]
  have result : g'.resultType group = g.resultType group := by
    have annotations : group.returnTypes.map (fun r => (g'.annotation r false).render) =
        group.returnTypes.map fun r => (g.annotation r false).render := by
      apply List.map_congr_left
      intro r hr
      rw [annotation_of_grows grows (avoided r (returnTypes_subset hgroup hr))]
    rw [resultType, resultType, annotations]
  rw [method, method, methodDocstring, methodDocstring, argument, result]

theorem serviceClass_of_grows (grows : Grows g g' d added) {sd : ServiceDecl} {s : Service}
    (made : g.service? sd = some s) (avoided : ∀ r ∈ sd.references, r.Avoids d)
    (location name : String) (isAbstract : Bool) :
    g'.serviceClass location s name isAbstract = g.serviceClass location s name isAbstract := by
  obtain ⟨operations, groups, -⟩ := parts_of_service? made
  rw [ServiceDecl.references, ← operations] at avoided
  rw [serviceClass, serviceClass, addMethods, addMethods]
  apply List.foldl_ext
  intro c group hgroup
  rw [method_of_grows grows avoided (groups ▸ hgroup)]

/-- A class without a base at the end of a contract, which no reference bears a name of
and no field is called like, changes nothing else.  The catalog is built, the models are
those of before in their order, with the new one in between, and every reference leads
where it led.  The services are the same, with their operations, groups and class maps,
and so are the classes that are generated for them. -/
theorem services_of_unrelated_class (h : build decls = .ok g) (unrelated : Unrelated g d)
    (services : List ServiceDecl)
    (avoided : ∀ r ∈ services.flatMap ServiceDecl.references, r.Avoids d) :
    ∃ g', build (decls ++ [d]) = .ok g' ∧
      (∃ front back, g.models = front ++ back ∧
        g'.models = front ++ modelOf (classNames (decls ++ [d])) d :: back) ∧
      (∀ r ∈ g.references ++ services.flatMap ServiceDecl.references, g'.find? r = g.find? r) ∧
      (∀ sd ∈ services, g'.service? sd = g.service? sd) ∧
      g'.services services = g.services services ∧
      ∀ s ∈ g.services services, ∀ location name isAbstract,
        g'.serviceClass location s name isAbstract =
          g.serviceClass location s name isAbstract := by
  obtain ⟨g', built, grows⟩ := grows_of_unrelated h unrelated
  have declared : ∀ sd ∈ services, ∀ r ∈ sd.references, r.Avoids d := fun sd hsd r hr =>
    avoided r (List.mem_flatMap.mpr ⟨sd, hsd, hr⟩)
  have same : ∀ sd ∈ services, g'.service? sd = g.service? sd := fun sd hsd =>
    service?_of_grows h grows unrelated (declared sd hsd)
  refine ⟨g', built, grows.models, ?_, same, ?_, ?_⟩
  · intro r hr
    rcases List.mem_append.mp hr with hr | hr
    · exact grows.find r (unrelated.avoided r hr)
    · exact grows.find r (avoided r hr)
  · rw [Catalog.services, Catalog.services, serviceIndex, serviceIndex,
      List.filterMap_congr same]
  · intro s hs location name isAbstract
    obtain ⟨sd, hsd, made⟩ := mem_services hs
    exact serviceClass_of_grows grows made (declared sd hsd) location name isAbstract

/-- Classes of a harbour, with a base in another namespace that is found by its local
name, and a field that has the name of a class. -/
def harbourClasses : List ClassDecl :=
  [⟨"tns:Ferry", some "sea:Ship", [{ name := "Pier", type := "Pier[]" }]⟩,
   { name := "Ship", base := some "xsd:string" }, { name := "Pier" }]

/-- A service whose group has the name of a class. -/
def harbourService : ServiceDecl :=
  { name := "Harbour"
    functions :=
      [{ name := "Ship"
         parameters := [{ name := "id", type := "xsd:int" }]
         returns := [{ name := "found", type := "tns:Ferry[]" }] }] }

/-- A class without a base that refers to the others, but nothing refers to it. -/
def lighthouse : ClassDecl :=
  { name := "tns:Light-house", entries := [{ name := "seen", type := "tns:Ferry" }] }

/-- The lighthouse comes between the other models, and the service does not see it. -/
theorem harbour_with_lighthouse :
    ∃ g g', build harbourClasses = .ok g ∧ build (harbourClasses ++ [lighthouse]) = .ok g' ∧
      g.names = ["Ship", "Pier", "tns_Ferry"] ∧
      g'.names = ["Ship", "Pier", "tns_Lighthouse", "tns_Ferry"] ∧
      g'.services [harbourService] = g.services [harbourService] ∧
      ∃ s ∈ g.services [harbourService],
        g'.serviceClass "" s "Harbour" false = g.serviceClass "" s "Harbour" false := by
  have facts : (build harbourClasses).toOption.any (fun g =>
      g.names = ["Ship", "Pier", "tns_Ferry"] ∧ className lighthouse.name ∉ g.names ∧
      (∀ n ∈ g.models, ∀ f ∈ n.fields,
        Identifier.fieldName f.rawName ≠ className lighthouse.name) ∧
      ∀ r ∈ g.references, r.Avoids lighthouse) = true := by decide +kernel
  have names' : (build (harbourClasses ++ [lighthouse])).toOption.map Catalog.names =
      some ["Ship", "Pier", "tns_Lighthouse", "tns_Ferry"] := by decide +kernel
  cases built : build harbourClasses with
  | error unrooted => rw [built] at facts; cases facts
  | ok g =>
      rw [built, Except.toOption, Option.any_some] at facts
      obtain ⟨names, name, field, avoided⟩ := of_decide_eq_true facts
      have unrelated : Unrelated g lighthouse :=
        ⟨rfl, by decide +kernel, by decide +kernel, name, field, avoided⟩
      obtain ⟨g', built', -, -, -, services, classes⟩ :=
        services_of_unrelated_class built unrelated [harbourService] (by decide +kernel)
      rw [built'] at names'
      have some : g.services [harbourService] ≠ [] := by
        rw [ne_eq, services_eq_nil_iff]
        decide +kernel
      obtain ⟨s, hs⟩ := List.exists_mem_of_ne_nil _ some
      exact ⟨g, g', rfl, built', names, Option.some.inj names', services, s, hs,
        classes s hs "" "Harbour" false⟩

end Catalog

end ContractClient
