import ContractClient.Proofs.Catalog.ClassMap

/-!
# The order of the classes of a contract

Classes are registered one after the other, the first of two local names counts, a
raw base is written unless it is there, and the models are scanned in order of
registration.  So the order of the classes could show in the catalog.  It does not, if
no two classes share an identifier or a local name (`build_of_perm`).

Such classes are registered as they are (`registered_eq_map`), and a permutation of
the classes permutes the registered models.  A lookup by distinct keys does not see
the order of a list, so every reference leads to the same model, and every chain of
bases is the same.  What a catalog is built from, which classes have no root, and what
a raw name means, are all said in terms of these.
-/

namespace ContractClient

/-- The names of fields depend on which classes there are, not on their order. -/
theorem Field.ofEntries_congr {names others : List String}
    (same : ∀ name, name ∈ names ↔ name ∈ others) : ofEntries names = ofEntries others := by
  have listed : ∀ name, names.contains name = others.contains name := by
    intro name
    rw [Bool.eq_iff_iff, List.contains_iff_mem, List.contains_iff_mem]
    exact same name
  have wanted : wantedName names = wantedName others := by
    funext e
    rw [wantedName, wantedName, listed]
  funext entries
  rw [ofEntries, ofEntries]
  congr 1
  funext position e
  rw [ofEntry, ofEntry, wanted]

namespace Catalog

open Identifier (className typeName localPart)

seal className typeName TypeRef.parse Field.ofEntries

variable {decls others : List ClassDecl}

/-! ## Classes that are registered as they are -/

/-- The classes that have an identifier. -/
def identified (decls : List ClassDecl) : List ClassDecl :=
  decls.filter fun d => className d.name ≠ ""

/-- No two classes share an identifier or a local name. -/
structure Apart (decls : List ClassDecl) : Prop where
  names : ((identified decls).map fun d => className d.name).Nodup
  locals : ((identified decls).map fun d => typeName (localPart d.name)).Nodup

theorem identified_perm (perm : decls.Perm others) :
    (identified decls).Perm (identified others) := perm.filter _

theorem mem_classNames_of_perm (perm : decls.Perm others) (name : String) :
    name ∈ classNames decls ↔ name ∈ classNames others := by
  rw [mem_classNames, mem_classNames]
  simp only [perm.mem_iff]

theorem modelOf_of_perm (perm : decls.Perm others) :
    modelOf (classNames decls) = modelOf (classNames others) := by
  funext d
  rw [modelOf, modelOf, Field.ofEntries_congr (mem_classNames_of_perm perm)]

/-- Where no two classes share an identifier, none takes the place of another. -/
theorem registered_eq_map (apart : Apart decls) :
    registered decls = (identified decls).map (modelOf (classNames decls)) := by
  have keys : ((registrations decls).map Prod.fst).Nodup := by
    rw [registrations, List.map_map]
    exact apart.names
  rw [← values_register, register_eq, Entries.ofPairs_eq_self keys, registrations, Entries.values,
    List.map_map]
  rfl

theorem Apart.of_perm (apart : Apart decls) (perm : decls.Perm others) : Apart others where
  names := ((identified_perm perm).map _).nodup_iff.mp apart.names
  locals := ((identified_perm perm).map _).nodup_iff.mp apart.locals

theorem registered_perm (apart : Apart decls) (perm : decls.Perm others) :
    (registered decls).Perm (registered others) := by
  rw [registered_eq_map apart, registered_eq_map (apart.of_perm perm), modelOf_of_perm perm]
  exact (identified_perm perm).map _

theorem nodup_registered_locals (apart : Apart decls) :
    ((registered decls).map Model.localName).Nodup := by
  rw [registered_eq_map apart, List.map_map]
  exact apart.locals

/-! ## References and chains -/

theorem resolveIn_of_perm (apart : Apart decls) (perm : decls.Perm others) :
    resolveIn (registered decls) = resolveIn (registered others) := by
  have models := registered_perm apart perm
  have byName : (fun name => (registered decls).find? (·.name = name)) =
      fun name => (registered others).find? (·.name = name) :=
    funext (find?_key_of_perm Model.name models (nodup_registered_names decls))
  have byLocal : (fun name => (registered decls).find? (·.localName = name)) =
      fun name => (registered others).find? (·.localName = name) :=
    funext (find?_key_of_perm Model.localName models (nodup_registered_locals apart))
  funext r
  rw [resolveIn, resolveIn, byName, byLocal]

theorem baseIn_of_perm (apart : Apart decls) (perm : decls.Perm others) :
    baseIn (registered decls) = baseIn (registered others) := by
  funext n
  rw [baseIn, baseIn, resolveIn_of_perm apart perm]

/-- A chain of bases is a chain among other models with the same bases. -/
theorem Rooted.congr {models models' : List Model} (same : baseIn models = baseIn models')
    {n : Model} (h : Rooted models n) : Rooted models' n := by
  induction h with
  | root isRoot => exact .root isRoot
  | step base _ ih => exact .step (same ▸ base) ih

theorem rooted_iff_of_perm (apart : Apart decls) (perm : decls.Perm others) (n : Model) :
    Rooted (registered decls) n ↔ Rooted (registered others) n :=
  ⟨Rooted.congr (baseIn_of_perm apart perm), Rooted.congr (baseIn_of_perm apart perm).symm⟩

/-! ## Class maps -/

theorem isDeclared_of_perm (perm : decls.Perm others) (raw : String) :
    IsDeclared decls raw ↔ IsDeclared others raw := by
  rw [IsDeclared, IsDeclared]
  simp only [perm.mem_iff]

theorem isBase_of_perm (apart : Apart decls) (perm : decls.Perm others) (raw : String) :
    IsBase decls raw ↔ IsBase others raw := by
  rw [IsBase, IsBase]
  simp only [(registered_perm apart perm).mem_iff]

theorem meaningIn_of_perm (apart : Apart decls) (perm : decls.Perm others) (raw : String) :
    meaningIn (registered decls) raw = meaningIn (registered others) raw := by
  rw [meaningIn, meaningIn, resolveIn_of_perm apart perm]

theorem get?_meanings_of_perm (apart : Apart decls) (perm : decls.Perm others) (raw : String) :
    (meanings decls).get? raw = (meanings others).get? raw := by
  have declaredIff := isDeclared_of_perm perm raw
  have baseIff := isBase_of_perm apart perm raw
  have meaning := meaningIn_of_perm apart perm raw
  by_cases declared : IsDeclared decls raw
  · rw [get?_meanings_of_declared declared, get?_meanings_of_declared (declaredIff.mp declared)]
  · by_cases base : IsBase decls raw ∧ ∃ m, meaningIn (registered decls) raw = some m
    · obtain ⟨base, m, hm⟩ := base
      rw [get?_meanings_of_base declared base hm,
        get?_meanings_of_base (fun there => declared (declaredIff.mpr there)) (baseIff.mp base)
          (meaning ▸ hm)]
    · have absent : raw ∉ (meanings decls).keys := by
        rw [mem_keys_meanings, not_or]
        exact ⟨declared, base⟩
      have absent' : raw ∉ (meanings others).keys := by
        rw [mem_keys_meanings, not_or, ← declaredIff, ← baseIff, ← meaning]
        exact ⟨declared, base⟩
      rw [Entries.get?_eq_none_iff.mpr absent, Entries.get?_eq_none_iff.mpr absent']

/-! ## Catalogs -/

/-- Two catalogs that differ in the order of their models and entries only: every name
stands for the same model, every reference leads to the same model, every model has
the same base, and every raw name has the same meaning. -/
structure Agree (g g' : Catalog) : Prop where
  models : g.models.Perm g'.models
  model : ∀ name, g.model? name = g'.model? name
  find : ∀ r, g.find? r = g'.find? r
  parent : ∀ n, g.parent? n = g'.parent? n
  meaning : ∀ raw, g.classMap.get? raw = g'.classMap.get? raw

theorem models_of_perm {g g' : Catalog} (apart : Apart decls) (perm : decls.Perm others)
    (h : build decls = .ok g) (h' : build others = .ok g') : g.models.Perm g'.models :=
  (models_perm_of_build h).trans
    ((registered_perm apart perm).trans (models_perm_of_build h').symm)

theorem agree_of_perm {g g' : Catalog} (apart : Apart decls) (perm : decls.Perm others)
    (h : build decls = .ok g) (h' : build others = .ok g') : Agree g g' where
  models := models_of_perm apart perm h h'
  model := by
    intro name
    have reversed : g.models.reverse.Perm g'.models.reverse :=
      g.models.reverse_perm.trans
        ((models_of_perm apart perm h h').trans g'.models.reverse_perm.symm)
    apply find?_key_of_perm Model.name reversed
    rw [List.map_reverse, List.nodup_reverse]
    exact nodup_names_of_build h
  find := by
    intro r
    rw [find?_of_build h, find?_of_build h', resolveIn_of_perm apart perm]
  parent := by
    intro n
    rw [parent?_of_build h, parent?_of_build h', baseIn_of_perm apart perm]
  meaning := by
    intro raw
    rw [(progress_of_build h).2.1, (progress_of_build h').2.1, get?_meanings_of_perm apart perm]

/-- A catalog can be built of classes in one order exactly if it can be built of them
in another. -/
theorem exists_build_of_perm (apart : Apart decls) (perm : decls.Perm others)
    (h : ∃ g, build decls = .ok g) : ∃ g, build others = .ok g := by
  rw [exists_build_iff] at h ⊢
  intro n hn
  have rooted := h n ((registered_perm apart perm).mem_iff.mpr hn)
  exact (rooted_iff_of_perm apart perm n).mp rooted

/-- The same classes are named, if they have no root. -/
theorem names_of_perm {names names' : List String} (apart : Apart decls)
    (perm : decls.Perm others) (h : build decls = .error names)
    (h' : build others = .error names') : names.Perm names' := by
  classical
  rw [(names_of_build_error h).1, (names_of_build_error h').1]
  simp only [rooted_iff_of_perm apart perm]
  exact ((registered_perm apart perm).filter _).map _

/-- The order of the classes of a contract does not matter, as long as no two classes
share an identifier or a local name.  Either there is a catalog for both orders, and
the two catalogs agree on every name, reference, base and meaning.  Or there is none
for either, and the errors name the same classes. -/
theorem build_of_perm {decls others : List ClassDecl} (perm : decls.Perm others)
    (apart : Apart decls) :
    (∃ g g', build decls = .ok g ∧ build others = .ok g' ∧ Agree g g') ∨
      ∃ names names', build decls = .error names ∧ build others = .error names' ∧
        names.Perm names' := by
  cases h : build decls with
  | ok g =>
      obtain ⟨g', h'⟩ := exists_build_of_perm apart perm ⟨g, h⟩
      exact Or.inl ⟨g, g', rfl, h', agree_of_perm apart perm h h'⟩
  | error names =>
      cases h' : build others with
      | ok g' =>
          obtain ⟨g, built⟩ := exists_build_of_perm (apart.of_perm perm) perm.symm ⟨g', h'⟩
          rw [h] at built
          cases built
      | error names' => exact Or.inr ⟨names, names', rfl, rfl, names_of_perm apart perm h h'⟩

/-- Classes in an order that puts no base first, with a class that has no identifier and
with bases given by local name. -/
def atlasClasses : List ClassDecl :=
  [{ name := "tns:Capital", base := some "City" },
   { name := "tns:City", base := some "geo:Place", entries := [{ name := "zip-code" }] },
   { name := "--" }, { name := "Place", base := some "xsd:string" }, { name := "tns:Street" }]

/-- The atlas read backwards has another order, and the same models and meanings. -/
theorem build_of_atlas_reversed :
    ∃ g g', build atlasClasses = .ok g ∧ build atlasClasses.reverse = .ok g' ∧
      g.names = ["Place", "tns_Street", "tns_City", "tns_Capital"] ∧
      g'.names = ["tns_Street", "Place", "tns_City", "tns_Capital"] ∧ Agree g g' := by
  have apart : Apart atlasClasses := ⟨by decide +kernel, by decide +kernel⟩
  have names : (build atlasClasses).toOption.map Catalog.names =
      some ["Place", "tns_Street", "tns_City", "tns_Capital"] := by decide +kernel
  have names' : (build atlasClasses.reverse).toOption.map Catalog.names =
      some ["tns_Street", "Place", "tns_City", "tns_Capital"] := by decide +kernel
  rcases build_of_perm atlasClasses.reverse_perm.symm apart with
    ⟨g, g', h, h', agree⟩ | ⟨unrooted, unrooted', h, h', -⟩
  · rw [h] at names
    rw [h'] at names'
    exact ⟨g, g', h, h', Option.some.inj names, Option.some.inj names', agree⟩
  · rw [h] at names
    cases names

end Catalog

end ContractClient
