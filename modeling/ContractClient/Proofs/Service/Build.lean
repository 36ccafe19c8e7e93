import ContractClient.Proofs.Entries
import ContractClient.Proofs.Identifier.Roles
import ContractClient.Service.Build

/-!
# Services and their groups

A service comes from a declaration whose name has a normal form, and it has this normal
form as its name.  So there are services exactly if there is such a declaration
(`services_eq_nil_iff`).

The groups of a service are those of the names of its operations, and no group is
empty (`names_of_groups`).  A group holds the operations of its name in their order
(`operations_of_mem_overloadsOf`), so every operation is in one group and in no other
(`existsUnique_overload`), and the groups stand in the order of their first operations
(`first_sublist`).
-/

namespace ContractClient.Catalog

seal Identifier.normalize Identifier.operationName Field.ofEntries

/-! ## Services -/

theorem service?_eq_none_iff {g : Catalog} {d : ServiceDecl} :
    g.service? d = none ↔ Identifier.normalize d.name = "" := by
  rw [service?]
  split
  next unnamed => simp [unnamed]
  next named => simp [named]

theorem mem_services {g : Catalog} {decls : List ServiceDecl} {s : Service}
    (h : s ∈ g.services decls) : ∃ d ∈ decls, g.service? d = some s := by
  obtain ⟨e, he, rfl⟩ := List.mem_map.mp h
  obtain ⟨s, hs, rfl⟩ := List.mem_map.mp (Entries.mem_of_mem_ofPairs he)
  exact List.mem_filterMap.mp hs

/-- What a service is built from. -/
theorem parts_of_service? {g : Catalog} {d : ServiceDecl} {s : Service}
    (h : g.service? d = some s) :
    s.operations = d.functions.filterMap operation? ∧ s.groups = overloadsOf s.operations ∧
      s.classMap = g.classMapFor s.operations s.groups := by
  rw [service?] at h
  split at h
  next => cases h
  next => cases h; exact ⟨rfl, rfl, rfl⟩

theorem name_of_service? {g : Catalog} {d : ServiceDecl} {s : Service}
    (h : g.service? d = some s) : s.name = Identifier.normalize d.name ∧ s.name ≠ "" := by
  rw [service?] at h
  split at h
  next => cases h
  next named => cases h; exact ⟨rfl, named⟩

theorem rawName_of_service? {g : Catalog} {d : ServiceDecl} {s : Service}
    (h : g.service? d = some s) : s.rawName = d.name := by
  rw [service?] at h
  split at h
  next => cases h
  next => cases h; rfl

theorem keys_serviceIndex (g : Catalog) (decls : List ServiceDecl) :
    (g.serviceIndex decls).keys = distinct ((decls.filterMap g.service?).map Service.name) := by
  rw [serviceIndex, Entries.keys_ofPairs, List.map_map]
  rfl

theorem map_name_services (g : Catalog) (decls : List ServiceDecl) :
    (g.services decls).map Service.name = (g.serviceIndex decls).keys := by
  rw [services, Entries.values, List.map_map, Entries.keys]
  refine List.map_congr_left fun e he => ?_
  obtain ⟨s, -, rfl⟩ := List.mem_map.mp (Entries.mem_of_mem_ofPairs he)
  rfl

theorem nodup_names_services (g : Catalog) (decls : List ServiceDecl) :
    ((g.services decls).map Service.name).Nodup := by
  rw [map_name_services, keys_serviceIndex]
  exact nodup_distinct _

/-- There are services exactly if the name of one has a normal form. -/
theorem services_eq_nil_iff {g : Catalog} {decls : List ServiceDecl} :
    g.services decls = [] ↔ ∀ d ∈ decls, Identifier.normalize d.name = "" := by
  have empty : g.services decls = [] ↔ decls.filterMap g.service? = [] := by
    constructor
    · intro h
      have noKeys : (g.serviceIndex decls).keys = [] := by
        rw [Entries.keys, List.map_eq_nil_iff]
        exact List.map_eq_nil_iff.mp h
      rw [List.eq_nil_iff_forall_not_mem]
      intro s hs
      have key : s.name ∈ (g.serviceIndex decls).keys := by
        rw [keys_serviceIndex, mem_distinct]
        exact List.mem_map_of_mem hs
      rw [noKeys] at key
      cases key
    · intro h
      rw [services, serviceIndex, h]
      rfl
  rw [empty, List.filterMap_eq_nil_iff]
  exact forall₂_congr fun d _ => service?_eq_none_iff

/-! ## Operations -/

/-- What an operation is built from. -/
theorem parts_of_operation? {f : FunctionDecl} {o : Operation} (h : operation? f = some o) :
    o.rawName = f.name ∧ o.name = Identifier.operationName f.name ∧ o.name ≠ "" ∧
      o.parameters = Field.ofEntries [] f.parameters ∧
      o.returns = Field.ofEntries [] f.returns := by
  rw [operation?] at h
  split at h
  next => cases h
  next named => cases h; exact ⟨rfl, rfl, named, rfl, rfl⟩

theorem mem_operations_of_service? {g : Catalog} {d : ServiceDecl} {s : Service}
    (h : g.service? d = some s) {o : Operation} (ho : o ∈ s.operations) :
    ∃ f ∈ d.functions, operation? f = some o := by
  rw [(parts_of_service? h).1] at ho
  exact List.mem_filterMap.mp ho

/-- A parameter or a result is the field of an entry. -/
theorem mem_ofEntries_of_mem_entries {g : Catalog} {d : ServiceDecl} {s : Service}
    (h : g.service? d = some s) {o : Operation} (ho : o ∈ s.operations) {f : Field}
    (hf : f ∈ o.entries) : ∃ entries, f ∈ Field.ofEntries [] entries := by
  obtain ⟨decl, -, made⟩ := mem_operations_of_service? h ho
  obtain ⟨-, -, -, parameters, returns⟩ := parts_of_operation? made
  rw [Operation.entries, parameters, returns, List.mem_append] at hf
  rcases hf with hf | hf
  · exact ⟨_, hf⟩
  · exact ⟨_, hf⟩

theorem isOperationName_of_operation? {f : FunctionDecl} {o : Operation}
    (h : operation? f = some o) : Identifier.IsOperationName o.name := by
  obtain ⟨-, name, named, -, -⟩ := parts_of_operation? h
  rw [name] at named ⊢
  exact Identifier.isOperationName_operationName named

theorem any_operation?_iff {f : FunctionDecl} {name : String} (h : name ≠ "") :
    (operation? f).any (fun o => o.name = name) = true ↔
      Identifier.operationName f.name = name := by
  rw [operation?]
  split
  next unnamed =>
    constructor
    · intro found; cases found
    · intro same; exact absurd (same.symm.trans unnamed) h
  next => simp

/-! ## Groups -/

/-- No group is empty, so none is left out. -/
theorem map_name_overloadsOf (operations : List Operation) :
    (overloadsOf operations).map Overload.name = distinct (operations.map Operation.name) := by
  have group : ∀ name ∈ distinct (operations.map Operation.name),
      (Overload.ofList? name (operations.filter (·.name = name))).map Overload.name =
        some name := by
    intro name hname
    obtain ⟨o, ho, same⟩ := List.mem_map.mp (mem_distinct.mp hname)
    have member : o ∈ operations.filter (·.name = name) :=
      List.mem_filter.mpr ⟨ho, by simpa using same⟩
    cases members : operations.filter (·.name = name) with
    | nil => rw [members] at member; cases member
    | cons first rest => rfl
  rw [overloadsOf, List.map_filterMap]
  exact ((List.filterMap_eq_map_iff_forall_eq_some (g := id)).mpr group).trans (List.map_id _)

theorem names_of_groups {g : Catalog} {decls : List ServiceDecl} {s : Service}
    (h : s ∈ g.services decls) :
    s.groups.map Overload.name = distinct (s.operations.map Operation.name) := by
  obtain ⟨d, _, built⟩ := mem_services h
  rw [(parts_of_service? built).2.1, map_name_overloadsOf]

theorem nodup_name_overloadsOf (operations : List Operation) :
    ((overloadsOf operations).map Overload.name).Nodup := by
  rw [map_name_overloadsOf]
  exact nodup_distinct _

/-- A group holds the operations of its name. -/
theorem operations_of_mem_overloadsOf {operations : List Operation} {group : Overload}
    (h : group ∈ overloadsOf operations) :
    group.operations = operations.filter (·.name = group.name) := by
  obtain ⟨name, _, made⟩ := List.mem_filterMap.mp h
  cases members : operations.filter (·.name = name) with
  | nil => rw [members] at made; cases made
  | cons first rest =>
      rw [members] at made
      cases made
      exact members.symm

theorem find?_of_mem_overloadsOf {operations : List Operation} {group : Overload}
    (h : group ∈ overloadsOf operations) :
    operations.find? (·.name = group.name) = some group.first := by
  rw [← List.head?_filter, ← operations_of_mem_overloadsOf h]
  rfl

theorem name_of_mem_operations {operations : List Operation} {group : Overload}
    (h : group ∈ overloadsOf operations) {o : Operation} (ho : o ∈ group.operations) :
    o.name = group.name := by
  rw [operations_of_mem_overloadsOf h] at ho
  simpa using (List.mem_filter.mp ho).2

theorem isOperationName_of_mem_groups {g : Catalog} {d : ServiceDecl} {s : Service}
    (h : g.service? d = some s) {group : Overload} (hgroup : group ∈ s.groups) :
    Identifier.IsOperationName group.name := by
  rw [(parts_of_service? h).2.1] at hgroup
  have found := find?_of_mem_overloadsOf hgroup
  obtain ⟨f, -, made⟩ := mem_operations_of_service? h (List.mem_of_find?_eq_some found)
  have same : group.first.name = group.name := by simpa using List.find?_some found
  exact same ▸ isOperationName_of_operation? made

/-- Every operation is in exactly one group. -/
theorem existsUnique_overload {operations : List Operation} {o : Operation}
    (h : o ∈ operations) :
    ∃! group, group ∈ overloadsOf operations ∧ o ∈ group.operations := by
  have listed : o.name ∈ (overloadsOf operations).map Overload.name := by
    rw [map_name_overloadsOf, mem_distinct]
    exact List.mem_map_of_mem h
  obtain ⟨group, hgroup, same⟩ := List.mem_map.mp listed
  refine ⟨group, ⟨hgroup, ?_⟩, ?_⟩
  · rw [operations_of_mem_overloadsOf hgroup, List.mem_filter]
    exact ⟨h, by simp [same]⟩
  · rintro other ⟨hother, ho⟩
    apply List.inj_on_of_nodup_map (nodup_name_overloadsOf operations) hother hgroup
    rw [same, name_of_mem_operations hother ho]

/-- The first items of all keys stand in the order of the list. -/
theorem filterMap_find?_sublist {α : Type} (key : α → String) (xs : List α) :
    ((distinct (xs.map key)).filterMap fun k => xs.find? (key · = k)).Sublist xs := by
  induction xs with
  | nil => exact List.Sublist.refl _
  | cons x xs ih =>
      have first : (x :: xs).find? (key · = key x) = some x := by simp
      have others : ∀ k ∈ (distinct (xs.map key)).filter (· ≠ key x),
          (x :: xs).find? (key · = k) = xs.find? (key · = k) := by
        intro k hk
        have differs : k ≠ key x := by simpa using (List.mem_filter.mp hk).2
        exact List.find?_cons_of_neg (by simpa using differs.symm)
      rw [List.map_cons, distinct, List.filterMap_cons, first, List.filterMap_congr others]
      exact ((List.filter_sublist.filterMap _).trans ih).cons_cons x

/-- The groups stand in the order of their first operations. -/
theorem first_sublist (operations : List Operation) :
    ((overloadsOf operations).map Overload.first).Sublist operations := by
  have firsts : (overloadsOf operations).map Overload.first =
      (distinct (operations.map Operation.name)).filterMap
        fun name => operations.find? (·.name = name) := by
    rw [← map_name_overloadsOf, List.filterMap_map]
    refine (List.filterMap_eq_map_iff_forall_eq_some.mpr ?_).symm
    intro group hgroup
    exact find?_of_mem_overloadsOf hgroup
  rw [firsts]
  exact filterMap_find?_sublist Operation.name operations

end ContractClient.Catalog
