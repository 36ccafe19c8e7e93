import ContractClient.Proofs.Catalog.Order
import ContractClient.Proofs.Identifier.ClassName

/-!
# The class map and references

A raw type name has a meaning in the class map, and it can be read as a
reference and looked up in the catalog.  The class map is filled in two passes:
the names of the classes, and then those of their bases where nothing is there
yet.  This module shows that the two ways never disagree
(`classMap_agrees_with_references`).

Every base with one raw name has the same meaning, `meaningIn`, so it does not
matter which of them is written first.  For the name of a class the meaning is its
identifier, and a reference by this name has the identifier as its full name.
-/

namespace ContractClient.Catalog

open Identifier (className typeName)

seal className typeName TypeRef.parse

/-! ## The names of the classes -/

/-- The first pass: the raw name of each class with its identifier. -/
def declarations (decls : List ClassDecl) : List (String × Meaning) :=
  (decls.filter fun d => className d.name ≠ "").map fun d => (d.name, .classId (className d.name))

theorem declaredMeanings_eq (decls : List ClassDecl) :
    declaredMeanings decls = Entries.ofPairs (declarations decls) := by
  rw [Entries.ofPairs, declarations, List.foldl_map, List.foldl_filter, declaredMeanings]
  congr 1
  funext m d
  by_cases h : className d.name = ""
  · simp [h]
  · simp [h]

theorem mem_declarations {decls : List ClassDecl} {raw : String} {m : Meaning} :
    (raw, m) ∈ declarations decls ↔
      m = .classId (className raw) ∧ className raw ≠ "" ∧ ∃ d ∈ decls, d.name = raw := by
  rw [declarations, List.mem_map]
  constructor
  · rintro ⟨d, hd, he⟩
    obtain ⟨hdecl, hname⟩ := List.mem_filter.mp hd
    cases he
    exact ⟨rfl, by simpa using hname, d, hdecl, rfl⟩
  · rintro ⟨rfl, hname, d, hdecl, rfl⟩
    exact ⟨d, List.mem_filter.mpr ⟨hdecl, by simpa using hname⟩, rfl⟩

/-- Whether a raw name is that of a class with an identifier. -/
def IsDeclared (decls : List ClassDecl) (raw : String) : Prop :=
  ∃ d ∈ decls, className d.name ≠ "" ∧ d.name = raw

theorem mem_keys_declaredMeanings {decls : List ClassDecl} {raw : String} :
    raw ∈ (declaredMeanings decls).keys ↔ IsDeclared decls raw := by
  rw [declaredMeanings_eq, Entries.keys_ofPairs, mem_distinct, List.mem_map]
  constructor
  · rintro ⟨⟨raw, m⟩, hmem, rfl⟩
    obtain ⟨-, hname, d, hdecl, rfl⟩ := mem_declarations.mp hmem
    exact ⟨d, hdecl, hname, rfl⟩
  · rintro ⟨d, hdecl, hname, rfl⟩
    exact ⟨(d.name, _), mem_declarations.mpr ⟨rfl, hname, d, hdecl, rfl⟩, rfl⟩

theorem get?_declaredMeanings {decls : List ClassDecl} {raw : String}
    (h : IsDeclared decls raw) :
    (declaredMeanings decls).get? raw = some (.classId (className raw)) := by
  have listed := mem_keys_declaredMeanings.mpr h
  cases hfound : (declaredMeanings decls).get? raw with
  | none => exact absurd listed (Entries.get?_eq_none_iff.mp hfound)
  | some m =>
      rw [declaredMeanings_eq] at hfound
      have written := Entries.mem_of_mem_ofPairs (Entries.mem_of_get? hfound)
      rw [(mem_declarations.mp written).1]

/-! ## The names of the bases -/

/-- What a raw name stands for as that of a base: a primitive, or the class it
leads to. -/
def meaningIn (models : List Model) (raw : String) : Option Meaning :=
  match (TypeRef.parse raw).primitive with
  | some k => some (.kind k)
  | none => (resolveIn models (TypeRef.parse raw)).map fun b => .classId b.name

/-- The raw base of a model and its meaning, if it has both. -/
def baseEntry (models : Entries Model) (n : Model) : Option (String × Meaning) :=
  n.rawBase.bind fun raw => (baseMeaning models n).map fun m => (raw, m)

theorem addBaseMeanings_eq (models : Entries Model) (m : ClassMap) :
    addBaseMeanings models m = m.addNew (models.values.filterMap (baseEntry models)) := by
  rw [Entries.addNew, List.foldl_filterMap, addBaseMeanings]
  congr 1
  funext m n
  rw [baseEntry]
  cases n.rawBase with
  | none => rfl
  | some raw =>
      cases baseMeaning models n with
      | none => rfl
      | some meaning => rfl

/-- The base of a registered model is its raw base, read as a reference.  An empty
text counts as none. -/
theorem baseType_of_mem_registered {decls : List ClassDecl} {n : Model}
    (h : n ∈ registered decls) : n.baseType = (n.rawBase.filter (· ≠ "")).map TypeRef.parse := by
  obtain ⟨d, -, -, rfl⟩ := mem_registered h
  rfl

theorem baseEntry_eq_some_iff {decls : List ClassDecl} {n : Model} (hn : n ∈ registered decls)
    {raw : String} {m : Meaning} :
    baseEntry (register decls) n = some (raw, m) ↔
      n.rawBase = some raw ∧ raw ≠ "" ∧ meaningIn (registered decls) raw = some m := by
  have hbase := baseType_of_mem_registered hn
  rw [baseEntry, baseMeaning, registeredBase_eq, baseIn, hbase]
  cases n.rawBase with
  | none => simp
  | some base =>
      by_cases hempty : base = ""
      · subst hempty
        have dropped : (some "").filter (· ≠ "") = none := by simp
        rw [dropped, Option.map_none, Option.bind_none, Option.bind_none, Option.bind_some]
        constructor
        · intro h
          cases h
        · rintro ⟨he, hraw, -⟩
          cases he
          exact absurd rfl hraw
      · have kept : (some base).filter (· ≠ "") = some base := by simp [hempty]
        rw [kept, Option.map_some, Option.bind_some, Option.bind_some, Option.bind_some,
          Option.map_eq_some_iff, Option.some.injEq]
        constructor
        · rintro ⟨m', hm, he⟩
          cases he
          exact ⟨rfl, hempty, hm⟩
        · rintro ⟨rfl, -, hm⟩
          exact ⟨m, hm, rfl⟩

theorem mem_baseEntries {decls : List ClassDecl} {raw : String} {m : Meaning} :
    (raw, m) ∈ (registered decls).filterMap (baseEntry (register decls)) ↔
      raw ≠ "" ∧ meaningIn (registered decls) raw = some m ∧
        ∃ n ∈ registered decls, n.rawBase = some raw := by
  rw [List.mem_filterMap]
  constructor
  · rintro ⟨n, hn, he⟩
    obtain ⟨hraw, hne, hm⟩ := (baseEntry_eq_some_iff hn).mp he
    exact ⟨hne, hm, n, hn, hraw⟩
  · rintro ⟨hne, hm, n, hn, hraw⟩
    exact ⟨n, hn, (baseEntry_eq_some_iff hn).mpr ⟨hraw, hne, hm⟩⟩

/-! ## Both passes -/

/-- Whether a raw name is that of the base of a registered class.  An empty text
counts as none. -/
def IsBase (decls : List ClassDecl) (raw : String) : Prop :=
  raw ≠ "" ∧ ∃ n ∈ registered decls, n.rawBase = some raw

theorem meanings_eq (decls : List ClassDecl) :
    meanings decls = (declaredMeanings decls).addNew
      ((registered decls).filterMap (baseEntry (register decls))) := by
  rw [meanings, addBaseMeanings_eq, values_register]

theorem nodup_keys_meanings (decls : List ClassDecl) : (meanings decls).keys.Nodup := by
  rw [meanings_eq]
  apply Entries.nodup_keys_addNew
  rw [declaredMeanings_eq]
  exact Entries.nodup_keys_ofPairs _

theorem mem_keys_meanings {decls : List ClassDecl} {raw : String} :
    raw ∈ (meanings decls).keys ↔
      IsDeclared decls raw ∨
        (IsBase decls raw ∧ ∃ m, meaningIn (registered decls) raw = some m) := by
  rw [meanings_eq, Entries.mem_keys_addNew, mem_keys_declaredMeanings]
  refine or_congr Iff.rfl ?_
  rw [List.mem_map]
  constructor
  · rintro ⟨⟨raw, m⟩, hmem, rfl⟩
    obtain ⟨hne, hm, hn⟩ := mem_baseEntries.mp hmem
    exact ⟨⟨hne, hn⟩, m, hm⟩
  · rintro ⟨⟨hne, hn⟩, m, hm⟩
    exact ⟨(raw, m), mem_baseEntries.mpr ⟨hne, hm, hn⟩, rfl⟩

/-- The name of a class stands for its identifier, even if it is the name of a
base too. -/
theorem get?_meanings_of_declared {decls : List ClassDecl} {raw : String}
    (h : IsDeclared decls raw) :
    (meanings decls).get? raw = some (.classId (className raw)) := by
  rw [meanings_eq, Entries.get?_addNew, get?_declaredMeanings h, Option.some_or]

/-- Any other name of a base stands for what it leads to. -/
theorem get?_meanings_of_base {decls : List ClassDecl} {raw : String} {m : Meaning}
    (undeclared : ¬ IsDeclared decls raw) (base : IsBase decls raw)
    (hm : meaningIn (registered decls) raw = some m) : (meanings decls).get? raw = some m := by
  have absent : (declaredMeanings decls).get? raw = none :=
    Entries.get?_eq_none_iff.mpr fun hkey => undeclared (mem_keys_declaredMeanings.mp hkey)
  have listed : (raw, m) ∈ (registered decls).filterMap (baseEntry (register decls)) :=
    mem_baseEntries.mpr ⟨base.1, hm, base.2⟩
  rw [meanings_eq, Entries.get?_addNew, absent, Option.none_or]
  cases hfound : ((registered decls).filterMap (baseEntry (register decls))).find? (·.1 = raw) with
  | none => simpa using List.find?_eq_none.mp hfound _ listed
  | some e =>
      -- Another base of the same raw name may come first, with the same meaning.
      obtain ⟨raw', m'⟩ := e
      have hraw : raw' = raw := by simpa using List.find?_some hfound
      subst hraw
      obtain ⟨-, hm', -⟩ := mem_baseEntries.mp (List.mem_of_find?_eq_some hfound)
      rw [hm, Option.some.injEq] at hm'
      rw [hm', Option.map_some]

/-! ## Names of bases have identifiers -/

theorem localName_ne_empty_of_mem_registered {decls : List ClassDecl} {n : Model}
    (h : n ∈ registered decls) : n.localName ≠ "" := by
  obtain ⟨d, -, hname, rfl⟩ := mem_registered h
  rw [ne_eq, Identifier.className_eq_empty_iff] at hname
  exact hname

/-- A reference without a name leads nowhere. -/
theorem name_ne_empty_of_resolveIn {decls : List ClassDecl} {raw : String} {b : Model}
    (hraw : (TypeRef.parse raw).isPrimitive = false)
    (h : resolveIn (registered decls) (TypeRef.parse raw) = some b) : className raw ≠ "" := by
  intro hempty
  have hlocal : typeName (Identifier.localPart raw) = "" :=
    Identifier.className_eq_empty_iff.mp hempty
  have byName : (registered decls).find? (·.name = "") = none := by
    rw [List.find?_eq_none]
    intro n hn
    simpa using name_ne_empty_of_mem_registered hn
  have byLocal : (registered decls).find? (·.localName = "") = none := by
    rw [List.find?_eq_none]
    intro n hn
    simpa using localName_ne_empty_of_mem_registered hn
  rw [resolveIn, lookUp, hraw, TypeRef.parse_name hraw, TypeRef.parse_localName hraw, hempty,
    hlocal, byName, byLocal] at h
  cases h

theorem className_ne_empty_of_meaningIn {decls : List ClassDecl} {raw : String} {m : Meaning}
    (h : meaningIn (registered decls) raw = some m) : className raw ≠ "" := by
  rw [meaningIn] at h
  cases hkind : (TypeRef.parse raw).primitive with
  | some k => exact TypeRef.className_ne_empty_of_primitive hkind
  | none =>
      rw [hkind] at h
      obtain ⟨b, hb, -⟩ := Option.map_eq_some_iff.mp h
      exact name_ne_empty_of_resolveIn (by rw [TypeRef.isPrimitive, hkind]; rfl) hb

/-! ## Agreement -/

/-- In a catalog that is built, every base stands for something. -/
theorem exists_meaningIn_of_build {decls : List ClassDecl} {g : Catalog}
    (h : build decls = .ok g) {raw : String} (base : IsBase decls raw) :
    ∃ m, meaningIn (registered decls) raw = some m := by
  obtain ⟨hne, n, hn, hraw⟩ := base
  have hbase : n.baseType = some (TypeRef.parse raw) := by
    rw [baseType_of_mem_registered hn, hraw]
    simp [hne]
  rw [meaningIn]
  cases hkind : (TypeRef.parse raw).primitive with
  | some k => exact ⟨_, rfl⟩
  | none =>
      cases (exists_build_iff decls).mp ⟨g, h⟩ n hn with
      | root isRoot =>
          have primitive := isRoot _ hbase
          rw [TypeRef.isPrimitive, hkind] at primitive
          cases primitive
      | step base _ =>
          rw [baseIn, hbase, Option.bind_some] at base
          rw [base]
          exact ⟨_, rfl⟩

theorem isBase_iff_of_build {decls : List ClassDecl} {g : Catalog} (h : build decls = .ok g)
    {raw : String} : IsBase decls raw ↔ raw ≠ "" ∧ ∃ n ∈ g.models, n.rawBase = some raw := by
  rw [IsBase]
  simp only [(models_perm_of_build h).mem_iff]

theorem mem_keys_of_build {decls : List ClassDecl} {g : Catalog} (h : build decls = .ok g)
    {raw : String} : raw ∈ g.classMap.keys ↔ IsDeclared decls raw ∨ IsBase decls raw := by
  rw [(progress_of_build h).2.1, mem_keys_meanings]
  refine or_congr Iff.rfl ⟨And.left, fun base => ⟨base, exists_meaningIn_of_build h base⟩⟩

/-- A reference by the name of a class leads to the model of its identifier. -/
theorem find?_of_declared {decls : List ClassDecl} {g : Catalog} (h : build decls = .ok g)
    {raw : String} (declared : IsDeclared decls raw)
    (hraw : (TypeRef.parse raw).isPrimitive = false) :
    ∃ n ∈ g.models, g.find? (TypeRef.parse raw) = some n ∧ n.name = className raw := by
  obtain ⟨d, hd, hname, rfl⟩ := declared
  obtain ⟨n, hn, he⟩ := exists_registered hd hname
  refine ⟨n, (models_perm_of_build h).mem_iff.mpr hn, ?_, he⟩
  rw [find?_of_build h]
  apply resolveIn_of_name (nodup_registered_names decls) hraw hn
  rw [he, TypeRef.parse_name hraw]

theorem className_mem_names {decls : List ClassDecl} {g : Catalog} (h : build decls = .ok g)
    {raw : String} (declared : IsDeclared decls raw) : className raw ∈ g.names := by
  obtain ⟨d, hd, hname, rfl⟩ := declared
  obtain ⟨n, hn, he⟩ := exists_registered hd hname
  rw [← he]
  exact List.mem_map_of_mem ((models_perm_of_build h).mem_iff.mpr hn)

/-- The keys of the class map are the names of the classes with an identifier and
the raw bases of the models.  The name of a class stands for its identifier, any
other name that reads as a primitive for this primitive, and every name that does
not read as one for the class it leads to as a reference. -/
theorem classMap_agrees_with_references {decls : List ClassDecl} {g : Catalog}
    (h : build decls = .ok g) :
    g.classMap.keys.Nodup ∧
    (∀ raw, raw ∈ g.classMap.keys ↔
      (∃ d ∈ decls, className d.name ≠ "" ∧ d.name = raw) ∨
        (raw ≠ "" ∧ ∃ n ∈ g.models, n.rawBase = some raw)) ∧
    ∀ raw ∈ g.classMap.keys,
      ((∃ d ∈ decls, d.name = raw) →
        g.classMap.get? raw = some (.classId (className raw)) ∧ className raw ∈ g.names) ∧
      ((∀ d ∈ decls, d.name ≠ raw) → ∀ k, (TypeRef.parse raw).primitive = some k →
        g.classMap.get? raw = some (.kind k)) ∧
      ((TypeRef.parse raw).isPrimitive = false →
        ∃ n ∈ g.models, g.find? (TypeRef.parse raw) = some n ∧
          g.classMap.get? raw = some (.classId n.name)) := by
  have hmap : g.classMap = meanings decls := (progress_of_build h).2.1
  refine ⟨hmap ▸ nodup_keys_meanings decls, fun raw => ?_, fun raw hkey => ⟨?_, ?_, ?_⟩⟩
  · rw [mem_keys_of_build h, isBase_iff_of_build h, IsDeclared]
  · rintro ⟨d, hd, rfl⟩
    have declared : IsDeclared decls d.name := by
      rcases (mem_keys_of_build h).mp hkey with declared | base
      · exact declared
      · obtain ⟨m, hm⟩ := exists_meaningIn_of_build h base
        exact ⟨d, hd, className_ne_empty_of_meaningIn hm, rfl⟩
    rw [hmap]
    exact ⟨get?_meanings_of_declared declared, className_mem_names h declared⟩
  · intro unnamed k hkind
    have undeclared : ¬ IsDeclared decls raw := fun ⟨d, hd, _, he⟩ => unnamed d hd he
    have base := ((mem_keys_of_build h).mp hkey).resolve_left undeclared
    rw [hmap]
    apply get?_meanings_of_base undeclared base
    rw [meaningIn, hkind]
  · intro hraw
    by_cases declared : IsDeclared decls raw
    · obtain ⟨n, hn, hfound, hname⟩ := find?_of_declared h declared hraw
      refine ⟨n, hn, hfound, ?_⟩
      rw [hmap, get?_meanings_of_declared declared, hname]
    · have base := ((mem_keys_of_build h).mp hkey).resolve_left declared
      obtain ⟨m, hm⟩ := exists_meaningIn_of_build h base
      have stands := get?_meanings_of_base declared base hm
      have hkind : (TypeRef.parse raw).primitive = none := by
        simpa [TypeRef.isPrimitive] using hraw
      rw [meaningIn, hkind] at hm
      obtain ⟨b, hb, rfl⟩ := Option.map_eq_some_iff.mp hm
      refine ⟨b, (models_perm_of_build h).mem_iff.mpr (mem_of_resolveIn hb), ?_, hmap ▸ stands⟩
      rw [find?_of_build h, hb]

/-- Two classes of one identifier, with a namespace and an array marker, and a
class between them that inherits by the local name. -/
def forecastClasses : List ClassDecl :=
  [{ name := "tns:Forecast", base := some "xsd:int" }, { name := "Day", base := some "Forecast" },
   { name := "tns:Forecast[]", base := some "Weather" }, { name := "Weather" }]

/-- The class map of the forecast classes takes both spellings to one class. -/
theorem classMap_forecast :
    ∃ g, build forecastClasses = .ok g ∧
      g.classMap.get? "tns:Forecast[]" = some (.classId "tns_Forecast") ∧
      ∃ n ∈ g.models, g.find? (TypeRef.parse "tns:Forecast[]") = some n ∧
        g.classMap.get? "tns:Forecast[]" = some (.classId n.name) := by
  have built : (build forecastClasses).isOk = true := by decide +kernel
  cases h : build forecastClasses with
  | error names => rw [h] at built; cases built
  | ok g =>
      have named : className "tns:Forecast[]" = "tns_Forecast" := by decide +kernel
      have notPrimitive : (TypeRef.parse "tns:Forecast[]").isPrimitive = false := by
        decide +kernel
      obtain ⟨-, keys, values⟩ := classMap_agrees_with_references h
      have hd : ({ name := "tns:Forecast[]", base := some "Weather" } : ClassDecl) ∈
          forecastClasses := by decide
      have hkey := (keys "tns:Forecast[]").mpr
        (Or.inl ⟨_, hd, by show className "tns:Forecast[]" ≠ ""; rw [named]; decide, rfl⟩)
      obtain ⟨declared, -, leads⟩ := values _ hkey
      refine ⟨g, rfl, ?_, leads notPrimitive⟩
      rw [(declared ⟨_, hd, rfl⟩).1, named]

end ContractClient.Catalog
