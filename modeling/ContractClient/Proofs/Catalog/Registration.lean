import ContractClient.Catalog.Build
import ContractClient.Proofs.Entries

/-!
# Registered classes and their bases

What registration leaves of a list of classes, said without the table it uses.
`registered` lists one model per identifier: that of the last class with the
identifier, at the place of the first (`values_register`).  Their names are
distinct and not empty.

`resolveIn` looks a reference up in a list of models, by the three steps of
`lookUp`.  A base that is found while the classes are registered
(`registeredBase_eq`) and a reference that is looked up in a catalog of the same
models (`find?_eq_resolveIn`) are both found by `resolveIn`, whatever the order
of the models in the catalog.
-/

namespace ContractClient.Catalog

-- Nothing here depends on how an identifier is found, and the tables of characters
-- behind it are long.
seal Identifier.className Identifier.typeName

/-! ## The registered models -/

/-- The last class with an identifier. -/
def lastDecl? (decls : List ClassDecl) (name : String) : Option ClassDecl :=
  decls.reverse.find? fun d => Identifier.className d.name = name

/-- The registered models, one per identifier.  It is the model of the last class
with the identifier, at the place of the first. -/
def registered (decls : List ClassDecl) : List Model :=
  (distinct (classNames decls)).filterMap fun name =>
    (lastDecl? decls name).map (modelOf (classNames decls))

/-- The writes that registration makes. -/
def registrations (decls : List ClassDecl) : List (String × Model) :=
  (decls.filter fun d => Identifier.className d.name ≠ "").map fun d =>
    (Identifier.className d.name, modelOf (classNames decls) d)

theorem register_eq (decls : List ClassDecl) :
    register decls = Entries.ofPairs (registrations decls) := by
  rw [Entries.ofPairs, registrations, List.foldl_map, List.foldl_filter, register, registerFrom]
  congr 1
  funext models d
  by_cases h : Identifier.className d.name = ""
  · simp [h]
  · simp [h]

theorem map_fst_registrations (decls : List ClassDecl) :
    (registrations decls).map Prod.fst = classNames decls := by
  rw [registrations, classNames, List.map_map, List.filter_map]
  rfl

theorem keys_register (decls : List ClassDecl) :
    (register decls).keys = distinct (classNames decls) := by
  rw [register_eq, Entries.keys_ofPairs, map_fst_registrations]

theorem nodup_keys_register (decls : List ClassDecl) : (register decls).keys.Nodup := by
  rw [register_eq]
  exact Entries.nodup_keys_ofPairs _

theorem mem_classNames {decls : List ClassDecl} {name : String} :
    name ∈ classNames decls ↔ name ≠ "" ∧ ∃ d ∈ decls, Identifier.className d.name = name := by
  rw [classNames, List.mem_filter, List.mem_map, and_comm]
  simp

theorem empty_not_mem_classNames (decls : List ClassDecl) : "" ∉ classNames decls :=
  fun listed => (mem_classNames.mp listed).1 rfl

theorem get?_register {decls : List ClassDecl} {name : String} (h : name ≠ "") :
    (register decls).get? name = (lastDecl? decls name).map (modelOf (classNames decls)) := by
  rw [register_eq, Entries.get?_ofPairs, registrations, ← List.map_reverse, ← List.filter_reverse,
    List.find?_map, List.find?_filter, lastDecl?, Option.map_map]
  congr 1
  congr 1
  funext d
  by_cases hd : Identifier.className d.name = name
  · simp [hd, h]
  · simp [hd]

/-- The values of the table are the registered models. -/
theorem values_register (decls : List ClassDecl) :
    (register decls).values = registered decls := by
  rw [Entries.values_eq_filterMap (nodup_keys_register decls), keys_register, registered]
  apply List.filterMap_congr
  intro name hname
  exact get?_register (mem_classNames.mp (mem_distinct.mp hname)).1

/-- Every registered model comes from a class of the list, and has its
identifier. -/
theorem mem_registered {decls : List ClassDecl} {n : Model} (h : n ∈ registered decls) :
    ∃ d ∈ decls, Identifier.className d.name ≠ "" ∧ n = modelOf (classNames decls) d := by
  rw [← values_register, Entries.values, List.mem_map] at h
  obtain ⟨⟨k, m⟩, hmem, rfl⟩ := h
  rw [register_eq] at hmem
  obtain ⟨d, hd, he⟩ := List.mem_map.mp (Entries.mem_of_mem_ofPairs hmem)
  obtain ⟨hdecl, hname⟩ := List.mem_filter.mp hd
  cases he
  exact ⟨d, hdecl, by simpa using hname, rfl⟩

theorem name_ne_empty_of_mem_registered {decls : List ClassDecl} {n : Model}
    (h : n ∈ registered decls) : n.name ≠ "" := by
  obtain ⟨d, -, hname, rfl⟩ := mem_registered h
  exact hname

/-- Each model stands under its own name. -/
theorem name_of_mem_register {decls : List ClassDecl} {k : String} {n : Model}
    (h : (k, n) ∈ register decls) : n.name = k := by
  rw [register_eq] at h
  obtain ⟨d, -, he⟩ := List.mem_map.mp (Entries.mem_of_mem_ofPairs h)
  cases he
  rfl

theorem registered_names (decls : List ClassDecl) :
    (registered decls).map Model.name = distinct (classNames decls) := by
  rw [← keys_register, ← values_register, Entries.values, List.map_map, Entries.keys]
  apply List.map_congr_left
  intro e he
  exact name_of_mem_register he

theorem nodup_registered_names (decls : List ClassDecl) :
    ((registered decls).map Model.name).Nodup := by
  rw [registered_names]
  exact nodup_distinct _

/-- A class with an identifier has a registered model of that identifier. -/
theorem exists_registered {decls : List ClassDecl} {d : ClassDecl} (hd : d ∈ decls)
    (hname : Identifier.className d.name ≠ "") :
    ∃ n ∈ registered decls, n.name = Identifier.className d.name := by
  have listed : Identifier.className d.name ∈ (registered decls).map Model.name := by
    rw [registered_names, mem_distinct, mem_classNames]
    exact ⟨hname, d, hd, rfl⟩
  obtain ⟨n, hn, he⟩ := List.mem_map.mp listed
  exact ⟨n, hn, he⟩

/-! ## Looking up in a list of models -/

/-- The model a reference leads to in a list of models: by full name, by local
name, or by the local name of a raw name. -/
def resolveIn (models : List Model) (r : TypeRef) : Option Model :=
  lookUp (fun name => models.find? (·.name = name)) (fun name => models.find? (·.localName = name)) r

/-- The model that the base of a model leads to. -/
def baseIn (models : List Model) (n : Model) : Option Model := n.baseType.bind (resolveIn models)

/-- Under distinct keys, what is found by key is the one value of that key. -/
theorem find?_key_eq_some_iff {α : Type} (key : α → String) {xs : List α}
    (nodup : (xs.map key).Nodup) {k : String} {x : α} :
    xs.find? (key · = k) = some x ↔ x ∈ xs ∧ key x = k := by
  constructor
  · intro h
    exact ⟨List.mem_of_find?_eq_some h, by simpa using List.find?_some h⟩
  · rintro ⟨hx, rfl⟩
    cases hfound : xs.find? (key · = key x) with
    | none => simpa using List.find?_eq_none.mp hfound x hx
    | some y =>
        have hy := List.mem_of_find?_eq_some hfound
        have hkey : key y = key x := by simpa using List.find?_some hfound
        rw [List.inj_on_of_nodup_map nodup hy hx hkey]

/-- Under distinct keys, the order of the models does not matter. -/
theorem find?_key_of_perm (key : Model → String) {models others : List Model}
    (perm : models.Perm others) (nodup : (models.map key).Nodup) (k : String) :
    models.find? (key · = k) = others.find? (key · = k) := by
  have nodup' : (others.map key).Nodup := (perm.map key).nodup_iff.mp nodup
  ext n
  rw [find?_key_eq_some_iff key nodup, find?_key_eq_some_iff key nodup', perm.mem_iff]

theorem mem_of_resolveIn {models : List Model} {r : TypeRef} {n : Model}
    (h : resolveIn models r = some n) : n ∈ models := by
  rw [resolveIn, lookUp] at h
  split at h
  next => cases h
  next =>
    rcases Option.or_eq_some_iff.mp h with h | ⟨-, h⟩
    · exact List.mem_of_find?_eq_some h
    · rcases Option.or_eq_some_iff.mp h with h | ⟨-, h⟩
      · exact List.mem_of_find?_eq_some h
      · exact List.mem_of_find?_eq_some h

theorem mem_of_baseIn {models : List Model} {n b : Model} (h : baseIn models n = some b) :
    b ∈ models := by
  obtain ⟨r, -, hr⟩ := Option.bind_eq_some_iff.mp h
  exact mem_of_resolveIn hr

/-- A reference that is not primitive leads to the model of its full name, if
there is one. -/
theorem resolveIn_of_name {models : List Model} (nodup : (models.map Model.name).Nodup)
    {r : TypeRef} (hr : r.isPrimitive = false) {n : Model} (hn : n ∈ models)
    (hname : n.name = r.name) : resolveIn models r = some n := by
  have found := (find?_key_eq_some_iff Model.name nodup).mpr ⟨hn, hname⟩
  rw [resolveIn, lookUp, hr, found]
  rfl

/-! ## The tables agree with the list -/

theorem get?_eq_find?_name {models : Entries Model} (named : ∀ e ∈ models, e.2.name = e.1)
    (name : String) : models.get? name = models.values.find? (·.name = name) := by
  induction models with
  | nil => rfl
  | cons e models ih =>
      obtain ⟨k, n⟩ := e
      have first : n.name = k := named (k, n) (List.mem_cons_self ..)
      have rest := ih fun e he => named e (List.mem_cons_of_mem _ he)
      rw [Entries.get?_cons, rest]
      by_cases h : k = name
      · simp [Entries.values, first, h]
      · simp [Entries.values, first, h]

theorem get?_register_eq_find? (decls : List ClassDecl) (name : String) :
    (register decls).get? name = (registered decls).find? (·.name = name) := by
  rw [get?_eq_find?_name (fun e he => name_of_mem_register he), values_register]

theorem get?_indexByLocalName (models : List Model) (name : String) :
    (indexByLocalName models).get? name = models.find? (·.localName = name) := by
  have asPairs : indexByLocalName models =
      Entries.addNew [] (models.map fun n => (n.localName, n)) := by
    rw [Entries.addNew, List.foldl_map, indexByLocalName]
  rw [asPairs, Entries.get?_addNew, Entries.get?_nil, Option.none_or, List.find?_map,
    Option.map_map]
  simp only [Function.comp_def, Option.map_id_fun', id_eq]

theorem registeredBase_eq (decls : List ClassDecl) (n : Model) :
    registeredBase (register decls) n = baseIn (registered decls) n := by
  have byName : (register decls).get? = fun name => (registered decls).find? (·.name = name) :=
    funext (get?_register_eq_find? decls)
  have byLocal : (indexByLocalName (registered decls)).get? =
      fun name => (registered decls).find? (·.localName = name) :=
    funext (get?_indexByLocalName _)
  rw [registeredBase, values_register, byName, byLocal]
  rfl

/-- A catalog of the models of a list, in any order, leads where the list
leads. -/
theorem find?_eq_resolveIn {g : Catalog} {models : List Model} (perm : g.models.Perm models)
    (nodup : (models.map Model.name).Nodup) (byLocal : g.byLocal = indexByLocalName models)
    (r : TypeRef) : g.find? r = resolveIn models r := by
  have byName : g.model? = fun name => models.find? (·.name = name) := by
    funext name
    have perm' : models.Perm g.models.reverse := (g.models.reverse_perm.trans perm).symm
    rw [find?_key_of_perm Model.name perm' nodup]
    rfl
  have local' : g.byLocal.get? = fun name => models.find? (·.localName = name) := by
    rw [byLocal]
    exact funext (get?_indexByLocalName _)
  rw [find?, byName, local', resolveIn]

end ContractClient.Catalog
