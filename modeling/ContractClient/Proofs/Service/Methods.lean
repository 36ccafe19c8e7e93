import ContractClient.Emission.ServiceClass
import ContractClient.Proofs.Service.Build

/-!
# One method for each group

A service class starts with its constructor, and with a guard if it is abstract.
Then the methods of the groups are added, and a group with the name of a function
that is there would be left out.  No group is: the names of groups are distinct, and
they do not begin with an underscore, as the names of the guard and of the
constructor do.

So the functions of the class are the guard, the constructor and one method for each
group, in order (`one_method_for_each_group`).
-/

namespace ContractClient.Catalog

seal Identifier.operationName

variable {g : Catalog} {c : Code.Class} {group : Overload} {groups : List Overload}

/-! ## Adding methods -/

/-- Groups with distinct names that no function of a class has. -/
structure Fresh (c : Code.Class) (groups : List Overload) : Prop where
  nodup : (groups.map Overload.name).Nodup
  unused : ∀ group ∈ groups, group.name ∉ c.functions.keys

theorem Fresh.not_has (h : Fresh c (group :: groups)) : ¬ c.functions.has group.name = true :=
  fun there => h.unused group List.mem_cons_self (Entries.has_iff.mp there)

theorem Fresh.functions_addFunction (h : Fresh c (group :: groups)) :
    (c.addFunction (g.method group)).functions = c.functions ++ [(group.name, g.method group)] :=
  Entries.put_of_not_mem (h.unused group List.mem_cons_self) _

/-- What is fresh stays fresh while the groups before it get their methods. -/
theorem Fresh.step (h : Fresh c (group :: groups)) :
    Fresh (c.addFunction (g.method group)) groups := by
  obtain ⟨once, nodup⟩ := List.nodup_cons.mp h.nodup
  refine ⟨nodup, ?_⟩
  intro other hother there
  rw [h.functions_addFunction, Entries.keys, List.map_append, List.mem_append] at there
  rcases there with there | there
  · exact h.unused other (List.mem_cons_of_mem group hother) there
  · have same : other.name = group.name := by simpa using there
    exact once (same ▸ List.mem_map_of_mem hother)

theorem addMethods_cons (g : Catalog) (c : Code.Class) (group : Overload)
    (groups : List Overload) :
    g.addMethods c (group :: groups) =
      g.addMethods (if c.functions.has group.name then c else c.addFunction (g.method group))
        groups := rfl

theorem functions_addMethods (h : Fresh c groups) :
    (g.addMethods c groups).functions =
      c.functions ++ groups.map fun group => (group.name, g.method group) := by
  induction groups generalizing c with
  | nil => exact (List.append_nil _).symm
  | cons group groups ih =>
      rw [addMethods_cons, if_neg h.not_has, ih h.step, h.functions_addFunction]
      simp

theorem skippedMethods_eq_nil (h : Fresh c groups) : g.skippedMethods c groups = [] := by
  induction groups generalizing c with
  | nil => rfl
  | cons group groups ih =>
      rw [skippedMethods, if_neg h.not_has]
      exact ih h.step

/-! ## The class of a service -/

section Class

variable {d : ServiceDecl} {s : Service}

/-- The names of the functions that a service class has of its own. -/
def ownFunctions (isAbstract : Bool) : List String :=
  (if isAbstract then ["__new__"] else []) ++ ["__init__"]

theorem keys_serviceShell (location : String) (s : Service) (className : String)
    (isAbstract : Bool) :
    (serviceShell location s className isAbstract).functions.keys = ownFunctions isAbstract := by
  rw [serviceShell, Entries.keys_ofPairs]
  cases isAbstract with
  | false => rfl
  | true => rfl

theorem fresh_groups (h : g.service? d = some s) (location className : String)
    (isAbstract : Bool) : Fresh (serviceShell location s className isAbstract) s.groups where
  nodup := by
    rw [(parts_of_service? h).2.1]
    exact nodup_name_overloadsOf _
  unused := by
    intro group hgroup there
    rw [keys_serviceShell] at there
    have hidden : ∀ name ∈ ownFunctions isAbstract, name.toList.head? = some '_' := by
      cases isAbstract <;> decide
    exact (isOperationName_of_mem_groups h hgroup).shown (hidden group.name there)

theorem functions_serviceClass (h : g.service? d = some s) (location className : String)
    (isAbstract : Bool) :
    (g.serviceClass location s className isAbstract).functions =
      (serviceShell location s (classNameOr s className) isAbstract).functions ++
        s.groups.map fun group => (group.name, g.method group) :=
  functions_addMethods (fresh_groups h location (classNameOr s className) isAbstract)

theorem keys_serviceClass (h : g.service? d = some s) (location className : String)
    (isAbstract : Bool) :
    (g.serviceClass location s className isAbstract).functions.keys =
      ownFunctions isAbstract ++ s.groups.map Overload.name := by
  have own := keys_serviceShell location s (classNameOr s className) isAbstract
  rw [Entries.keys] at own
  rw [functions_serviceClass h, Entries.keys, List.map_append, own, List.map_map]
  rfl

theorem nodup_keys_serviceClass (h : g.service? d = some s) (location className : String)
    (isAbstract : Bool) :
    (g.serviceClass location s className isAbstract).functions.keys.Nodup := by
  have fresh := fresh_groups h location className isAbstract
  rw [keys_serviceClass h, List.nodup_append]
  refine ⟨by cases isAbstract <;> decide, fresh.nodup, ?_⟩
  intro name own other hother same
  obtain ⟨group, hgroup, rfl⟩ := List.mem_map.mp hother
  apply fresh.unused group hgroup
  rw [keys_serviceShell, ← same]
  exact own

theorem get?_serviceClass (h : g.service? d = some s) (location className : String)
    (isAbstract : Bool) (hgroup : group ∈ s.groups) :
    (g.serviceClass location s className isAbstract).functions.get? group.name =
      some (g.method group) := by
  apply Entries.get?_of_mem (nodup_keys_serviceClass h location className isAbstract)
  rw [functions_serviceClass h]
  exact List.mem_append_right _ (List.mem_map.mpr ⟨group, hgroup, rfl⟩)

/-- The first function of a declaration that belongs to a group gives the group its
remote name. -/
theorem find?_function_of_mem_groups (h : g.service? d = some s) (hgroup : group ∈ s.groups) :
    ∃ f, d.functions.find? (fun f => Identifier.operationName f.name = group.name) = some f ∧
      f.name = group.remoteName := by
  have named : group.name ≠ "" := by
    intro empty
    have identifier := (isOperationName_of_mem_groups h hgroup).identifier
    rw [empty] at identifier
    cases identifier
  have byName : (fun f => (operation? f).any fun o => o.name = group.name) =
      fun f : FunctionDecl => decide (Identifier.operationName f.name = group.name) := by
    funext f
    exact Bool.eq_iff_iff.mpr (by rw [any_operation?_iff named, decide_eq_true_eq])
  rw [(parts_of_service? h).2.1] at hgroup
  have found := find?_of_mem_overloadsOf hgroup
  rw [(parts_of_service? h).1, List.find?_filterMap, byName] at found
  obtain ⟨f, hf, made⟩ := Option.bind_eq_some_iff.mp found
  exact ⟨f, hf, (parts_of_operation? made).1.symm⟩

/-- The groups of a service have distinct names, in the order in which these first
appear among the operations.  A group holds exactly the operations of its name, so
every operation is in one group only, and its return types are the first ones of its
operations.  The service class has a method for each group and no other function
but its own ones.  The method calls the engine under the raw name of the first
function that belongs to the group. -/
theorem one_method_for_each_group (g : Catalog) {d : ServiceDecl} {s : Service}
    (h : g.service? d = some s) (location className : String) (isAbstract : Bool) :
    ((s.groups.map Overload.name).Nodup ∧
      s.groups.map Overload.name = distinct (s.operations.map Operation.name) ∧
      (s.groups.map Overload.first).Sublist s.operations) ∧
    (∀ group ∈ s.groups,
      group.operations = s.operations.filter (·.name = group.name) ∧
      group.returnTypes.Nodup ∧
      group.returnTypes = distinct
        ((s.operations.filter (·.name = group.name)).filterMap fun o =>
          o.returns.head?.map Field.type)) ∧
    (∀ o ∈ s.operations, ∃! group, group ∈ s.groups ∧ o ∈ group.operations) ∧
    (g.serviceClass location s className isAbstract).functions.keys =
      (if isAbstract then ["__new__"] else []) ++ ["__init__"] ++ s.groups.map Overload.name ∧
    g.skippedMethods (serviceShell location s className isAbstract) s.groups = [] ∧
    ∀ group ∈ s.groups, ∃ f method,
      d.functions.find? (fun f => Identifier.operationName f.name = group.name) = some f ∧
      (g.serviceClass location s className isAbstract).functions.get? group.name = some method ∧
      method.code.code =
        "return self._engine.call(" ++ Text.quote f.name ++ ", [" ++ group.name ++ "])" := by
  have made := (parts_of_service? h).2.1
  refine ⟨⟨?_, ?_, ?_⟩, ?_, ?_, keys_serviceClass h location className isAbstract,
    skippedMethods_eq_nil (fresh_groups h location className isAbstract), ?_⟩
  · exact (fresh_groups h location className isAbstract).nodup
  · rw [made, map_name_overloadsOf]
  · rw [made]
    exact first_sublist s.operations
  · intro group hgroup
    rw [made] at hgroup
    have members := operations_of_mem_overloadsOf hgroup
    refine ⟨members, nodup_distinct _, ?_⟩
    rw [Overload.returnTypes, members, List.filterMap_eq_flatMap_toList]
    rfl
  · intro o ho
    rw [made]
    exact existsUnique_overload ho
  · intro group hgroup
    obtain ⟨f, hf, name⟩ := find?_function_of_mem_groups h hgroup
    refine ⟨f, _, hf, get?_serviceClass h location className isAbstract hgroup, ?_⟩
    rw [name]
    rfl

/-- A service with two spellings of one operation and with an operation that is
called like a constructor. -/
def shop : ServiceDecl :=
  { name := "Shop"
    functions := [{ name := "getItem" }, { name := "__init__" },
      { name := "get-Item", returns := [{ name := "item", type := "tns:Item" }] }] }

/-- Both spellings share a method, and the constructor keeps its place. -/
theorem one_method_for_each_group_of_shop :
    ∃ s, (ofModels [] []).service? shop = some s ∧
      ((ofModels [] []).serviceClass "" s "ShopBase" true).functions.keys =
        ["__new__", "__init__", "getItem", "init__"] ∧
      ∀ group ∈ s.groups, ∃ f method,
        shop.functions.find? (fun f => Identifier.operationName f.name = group.name) = some f ∧
        ((ofModels [] []).serviceClass "" s "ShopBase" true).functions.get? group.name =
          some method ∧
        method.code.code =
          "return self._engine.call(" ++ Text.quote f.name ++ ", [" ++ group.name ++ "])" := by
  have names : ((ofModels [] []).service? shop).map (fun s => s.groups.map Overload.name) =
      some ["getItem", "init__"] := by decide +kernel
  obtain ⟨s, built, groups⟩ := Option.map_eq_some_iff.mp names
  obtain ⟨-, -, -, keys, -, calls⟩ :=
    one_method_for_each_group (ofModels [] []) built "" "ShopBase" true
  refine ⟨s, built, ?_, calls⟩
  rw [keys, groups]
  rfl

end Class

end ContractClient.Catalog
