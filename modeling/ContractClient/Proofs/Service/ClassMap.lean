import ContractClient.Proofs.Catalog.ClassMap
import ContractClient.Proofs.Identifier.ElementText
import ContractClient.Proofs.Service.Build
import ContractClient.Proofs.Service.Reachable

/-!
# The class map of a service

The class map of a service is cut out of that of the contract by two tests: the raw
name occurs in the service or in a class it uses, or its meaning is a class it uses.
The first test compares texts only.  It brings in no class beyond those the service
uses (`mem_reachable_of_mem_rawNames`): a raw name that occurs as the type of a field
leads where the field leads, although an array marker was taken off it, and the used
classes are closed under references.
-/

namespace ContractClient

namespace Meaning

theorem isPrimitive_kind (k : Primitive) : (kind k).isPrimitive = true := by
  cases k <;> decide

theorem isPrimitive_classId_eq_false_iff {id : String} :
    (classId id).isPrimitive = false ↔ id ∉ Primitive.all.map Primitive.word := by
  rw [isPrimitive, text, Primitive.ofWord?, Option.isSome_eq_false_iff,
    Option.isNone_iff_eq_none, List.find?_eq_none, List.mem_map]
  simp

end Meaning

namespace Catalog

seal Identifier.className Identifier.typeName TypeRef.parse TypeRef.elementText

variable {g : Catalog} {decls : List ClassDecl}

/-! ## The raw names that occur -/

/-- The type of a field is its type text, read as a reference. -/
theorem type_of_mem_ofEntries {classNames : List String} {entries : List Entry} {f : Field}
    (h : f ∈ Field.ofEntries classNames entries) : f.type = TypeRef.parse f.rawType := by
  obtain ⟨position, within, rfl⟩ := List.mem_mapIdx.mp h
  rfl

theorem type_of_mem_fields (h : build decls = .ok g) {n : Model} (hn : n ∈ g.models) {f : Field}
    (hf : f ∈ n.fields) : f.type = TypeRef.parse f.rawType := by
  obtain ⟨d, -, -, rfl⟩ := mem_registered ((models_perm_of_build h).mem_iff.mp hn)
  exact type_of_mem_ofEntries hf

theorem type_of_mem_entries {d : ServiceDecl} {s : Service} (h : g.service? d = some s)
    {o : Operation} (ho : o ∈ s.operations) {f : Field} (hf : f ∈ o.entries) :
    f.type = TypeRef.parse f.rawType := by
  obtain ⟨entries, hf⟩ := mem_ofEntries_of_mem_entries h ho hf
  exact type_of_mem_ofEntries hf

theorem mem_rawTypes_iff {fields : List Field} {raw : String} :
    raw ∈ rawTypes fields ↔
      ∃ f ∈ fields, f.rawType ≠ "" ∧ raw = TypeRef.elementText f.rawType := by
  simp only [rawTypes, List.mem_map, List.mem_filter, decide_eq_true_eq]
  constructor
  · rintro ⟨f, ⟨hf, typed⟩, rfl⟩
    exact ⟨f, hf, typed, rfl⟩
  · rintro ⟨f, hf, typed, rfl⟩
    exact ⟨f, ⟨hf, typed⟩, rfl⟩

/-- A raw name occurs as a base, as the type of a field, or as the type of a
parameter or result. -/
theorem mem_rawNames_iff {used : List Model} {operations : List Operation} {raw : String} :
    raw ∈ rawNames used operations ↔
      (∃ n ∈ used, n.rawBase = some raw ∧ raw ≠ "") ∨
      (∃ n ∈ used, raw ∈ rawTypes n.fields) ∨ ∃ o ∈ operations, raw ∈ rawTypes o.entries := by
  simp only [rawNames, List.mem_append, List.mem_flatMap, Option.mem_toList,
    Option.filter_eq_some_iff, decide_eq_true_eq]
  constructor
  · rintro (⟨n, hn, base | field⟩ | entry)
    · exact Or.inl ⟨n, hn, base⟩
    · exact Or.inr (Or.inl ⟨n, hn, field⟩)
    · exact Or.inr (Or.inr entry)
  · rintro (⟨n, hn, base⟩ | ⟨n, hn, field⟩ | entry)
    · exact Or.inl ⟨n, hn, Or.inl base⟩
    · exact Or.inl ⟨n, hn, Or.inr field⟩
    · exact Or.inr entry

/-! ## Where they lead -/

/-- The element text of a type leads where the type leads, unless it is primitive. -/
theorem find?_elementText {raw : String}
    (h : (TypeRef.parse (TypeRef.elementText raw)).isPrimitive = false) :
    g.find? (TypeRef.parse (TypeRef.elementText raw)) = g.find? (TypeRef.parse raw) := by
  rw [find?, find?, lookUp, lookUp, h, TypeRef.isPrimitive_of_elementText h,
    TypeRef.parse_elementText_name h, TypeRef.parse_elementText_localName h]

theorem find?_of_mem_rawTypes {fields : List Field} {raw : String}
    (types : ∀ f ∈ fields, f.type = TypeRef.parse f.rawType)
    (hraw : (TypeRef.parse raw).isPrimitive = false) (h : raw ∈ rawTypes fields) :
    ∃ f ∈ fields, g.find? f.type = g.find? (TypeRef.parse raw) := by
  obtain ⟨f, hf, -, rfl⟩ := mem_rawTypes_iff.mp h
  exact ⟨f, hf, by rw [types f hf, find?_elementText hraw]⟩

/-- A raw name that occurs and is not primitive leads to a class that is used. -/
theorem mem_reachable_of_mem_rawNames (h : build decls = .ok g) {d : ServiceDecl} {s : Service}
    (made : g.service? d = some s) {raw : String} {n : Model}
    (hraw : (TypeRef.parse raw).isPrimitive = false)
    (occurs : raw ∈ rawNames (g.reachable s.operations s.groups) s.operations)
    (leads : g.find? (TypeRef.parse raw) = some n) :
    n ∈ g.reachable s.operations s.groups := by
  rcases mem_rawNames_iff.mp occurs with ⟨m, hm, base, named⟩ | ⟨m, hm, field⟩ | ⟨o, ho, entry⟩
  · have registered := (models_perm_of_build h).mem_iff.mp (mem_models_of_mem_reachable h hm)
    have parent : g.parent? m = some n := by
      rw [parent?, baseType_of_mem_registered registered, base,
        Option.filter_eq_some_iff.mpr ⟨rfl, by simpa using named⟩]
      exact leads
    exact neighbours_subset_reachable h hm n (mem_neighbours_iff.mpr (Or.inl parent))
  · obtain ⟨f, hf, same⟩ := find?_of_mem_rawTypes
      (fun f => type_of_mem_fields h (mem_models_of_mem_reachable h hm)) hraw field
    exact neighbours_subset_reachable h hm n
      (mem_neighbours_iff.mpr (Or.inr ⟨f, hf, same.trans leads⟩))
  · obtain ⟨f, hf, same⟩ := find?_of_mem_rawTypes
      (fun f => type_of_mem_entries made ho) hraw entry
    exact roots_subset_reachable h _ _ n
      (mem_roots_iff.mpr (Or.inl ⟨o, ho, f, hf, same.trans leads⟩))

/-! ## Meanings -/

/-- A name that does not read as a primitive stands for the class it leads to, be it
the name of a class or of a base. -/
theorem get?_classMap_eq_meaningIn (h : build decls = .ok g) {raw : String}
    (hkey : raw ∈ g.classMap.keys) (hraw : (TypeRef.parse raw).isPrimitive = false) :
    g.classMap.get? raw = meaningIn (registered decls) raw := by
  have hmap : g.classMap = meanings decls := (progress_of_build h).2.1
  rw [hmap]
  by_cases declared : IsDeclared decls raw
  · obtain ⟨n, -, found, name⟩ := find?_of_declared h declared hraw
    rw [find?_of_build h] at found
    rw [get?_meanings_of_declared declared, meaningIn, TypeRef.primitive_eq_none hraw, found,
      ← name]
    rfl
  · have base := ((mem_keys_of_build h).mp hkey).resolve_left declared
    obtain ⟨m, hm⟩ := exists_meaningIn_of_build h base
    rw [get?_meanings_of_base declared base hm, hm]

theorem exists_find?_of_mem_keys (h : build decls = .ok g) {raw : String}
    (hkey : raw ∈ g.classMap.keys) (hraw : (TypeRef.parse raw).isPrimitive = false) :
    ∃ n, g.find? (TypeRef.parse raw) = some n ∧ g.classMap.get? raw = some (.classId n.name) := by
  have value := get?_classMap_eq_meaningIn h hkey hraw
  rw [meaningIn, TypeRef.primitive_eq_none hraw, ← find?_of_build h] at value
  cases found : g.find? (TypeRef.parse raw) with
  | none =>
      rw [found] at value
      exact absurd hkey (Entries.get?_eq_none_iff.mp value)
  | some n => exact ⟨n, rfl, by rw [value, found]; rfl⟩

/-- The raw name of a model stands for its class. -/
theorem get?_rawName (h : build decls = .ok g) {n : Model} (hn : n ∈ g.models) :
    g.classMap.get? n.rawName = some (.classId n.name) := by
  obtain ⟨d, hd, named, rfl⟩ := mem_registered ((models_perm_of_build h).mem_iff.mp hn)
  rw [(progress_of_build h).2.1]
  exact get?_meanings_of_declared ⟨d, hd, named, rfl⟩

/-- Only the name of a base stands for a primitive, and it is not empty. -/
theorem ne_empty_of_get?_kind (h : build decls = .ok g) {raw : String} {k : Primitive}
    (hkind : g.classMap.get? raw = some (.kind k)) : raw ≠ "" := by
  rcases (mem_keys_of_build h).mp (Entries.mem_keys_iff.mpr ⟨_, hkind⟩) with declared | base
  · rw [(progress_of_build h).2.1, get?_meanings_of_declared declared] at hkind
    cases hkind
  · exact base.1

/-! ## The class map of a service -/

theorem nodup_keys_of_build (h : build decls = .ok g) : g.classMap.keys.Nodup := by
  rw [(progress_of_build h).2.1]
  exact nodup_keys_meanings decls

theorem classMapFor_sublist (g : Catalog) (operations : List Operation)
    (groups : List Overload) : (g.classMapFor operations groups).Sublist g.classMap :=
  List.filter_sublist

/-- If the entries of the operations name all that the class map lists, nothing is cut. -/
theorem classMapFor_eq_self {operations : List Operation}
    (named : ∀ p ∈ g.classMap, p.1 ∈ operations.flatMap fun o => rawTypes o.entries)
    (groups : List Overload) : g.classMapFor operations groups = g.classMap := by
  refine List.filter_eq_self.mpr fun p hp => ?_
  have occurs : p.1 ∈ rawNames (g.reachable operations groups) operations :=
    List.mem_append_right _ (named p hp)
  simp [occurs]

theorem get?_classMapFor_iff (h : build decls = .ok g) {operations : List Operation}
    {groups : List Overload} {raw : String} {m : Meaning} :
    (g.classMapFor operations groups).get? raw = some m ↔
      g.classMap.get? raw = some m ∧
        (raw ∈ rawNames (g.reachable operations groups) operations ∨
          m.isPrimitive = false ∧ m.text ∈ (g.reachable operations groups).map Model.name) := by
  have nodup := nodup_keys_of_build h
  have cut : (g.classMapFor operations groups).keys.Nodup :=
    nodup.sublist ((classMapFor_sublist g operations groups).map Prod.fst)
  rw [Entries.get?_eq_some_iff nodup, Entries.get?_eq_some_iff cut, classMapFor, List.mem_filter]
  simp

theorem mem_keys_classMapFor_iff (h : build decls = .ok g) {operations : List Operation}
    {groups : List Overload} {raw : String} {k : Primitive}
    (hkind : g.classMap.get? raw = some (.kind k)) :
    raw ∈ (g.classMapFor operations groups).keys ↔
      raw ∈ rawNames (g.reachable operations groups) operations := by
  rw [Entries.mem_keys_iff]
  simp only [get?_classMapFor_iff h, hkind, Option.some.injEq]
  constructor
  · rintro ⟨m, rfl, occurs | ⟨other, -⟩⟩
    · exact occurs
    · rw [Meaning.isPrimitive_kind] at other
      cases other
  · intro occurs
    exact ⟨_, rfl, Or.inl occurs⟩

/-- A nonempty raw name among the types of fields is the element text of one. -/
theorem mem_rawTypes_iff_of_ne_empty {fields : List Field} {raw : String} (h : raw ≠ "") :
    raw ∈ rawTypes fields ↔ ∃ f ∈ fields, raw = TypeRef.elementText f.rawType := by
  have blank : TypeRef.elementText "" = "" := by decide +kernel
  rw [mem_rawTypes_iff]
  constructor
  · rintro ⟨f, hf, -, same⟩
    exact ⟨f, hf, same⟩
  · rintro ⟨f, hf, rfl⟩
    refine ⟨f, hf, ?_, rfl⟩
    intro untyped
    rw [untyped, blank] at h
    exact h rfl

/-- The class map of a service is cut out of that of the contract.  It holds every
name of a class that the service uses, unless the class is called like a primitive.
Each name in it that does not read as a primitive stands for a class that the service
uses.  A name of a primitive is in it exactly if it occurs in the service or in a
class that the service uses. -/
theorem classMap_of_service (h : build decls = .ok g) {d : ServiceDecl} {s : Service}
    (made : g.service? d = some s) :
    s.classMap.Sublist g.classMap ∧
    (∀ n ∈ g.reachable s.operations s.groups, n.name ∉ Primitive.all.map Primitive.word →
      s.classMap.get? n.rawName = some (.classId n.name) ∧
      ∀ raw, g.classMap.get? raw = some (.classId n.name) →
        s.classMap.get? raw = some (.classId n.name)) ∧
    (∀ raw ∈ s.classMap.keys, (TypeRef.parse raw).isPrimitive = false →
      ∃ n ∈ g.reachable s.operations s.groups, s.classMap.get? raw = some (.classId n.name)) ∧
    (∀ raw k, g.classMap.get? raw = some (.kind k) →
      (raw ∈ s.classMap.keys ↔
        (∃ o ∈ s.operations, ∃ f ∈ o.parameters ++ o.returns,
          raw = TypeRef.elementText f.rawType) ∨
        (∃ n ∈ g.reachable s.operations s.groups, ∃ f ∈ n.fields,
          raw = TypeRef.elementText f.rawType) ∨
        ∃ n ∈ g.reachable s.operations s.groups, n.rawBase = some raw)) := by
  rw [(parts_of_service? made).2.2]
  refine ⟨classMapFor_sublist g _ _, ?_, ?_, ?_⟩
  · intro n hn name
    have kept : ∀ raw, g.classMap.get? raw = some (.classId n.name) →
        (g.classMapFor s.operations s.groups).get? raw = some (.classId n.name) := by
      intro raw value
      refine (get?_classMapFor_iff h).mpr ⟨value, Or.inr ⟨?_, List.mem_map_of_mem hn⟩⟩
      exact Meaning.isPrimitive_classId_eq_false_iff.mpr name
    exact ⟨kept _ (get?_rawName h (mem_models_of_mem_reachable h hn)), kept⟩
  · intro raw hkey hraw
    obtain ⟨m, found⟩ := Entries.mem_keys_iff.mp hkey
    obtain ⟨value, why⟩ := (get?_classMapFor_iff h).mp found
    obtain ⟨n, leads, meaning⟩ :=
      exists_find?_of_mem_keys h (Entries.mem_keys_iff.mpr ⟨m, value⟩) hraw
    rw [value, Option.some.injEq] at meaning
    subst meaning
    rcases why with occurs | ⟨-, used⟩
    · exact ⟨n, mem_reachable_of_mem_rawNames h made hraw occurs leads, found⟩
    · obtain ⟨m, hm, same⟩ := List.mem_map.mp used
      exact ⟨m, hm, by rw [found, same]; rfl⟩
  · intro raw k hkind
    have named := ne_empty_of_get?_kind h hkind
    rw [mem_keys_classMapFor_iff h hkind, mem_rawNames_iff]
    simp only [mem_rawTypes_iff_of_ne_empty named, Operation.entries, and_iff_left named]
    constructor
    · rintro (base | field | entry)
      · exact Or.inr (Or.inr base)
      · exact Or.inr (Or.inl field)
      · exact Or.inl entry
    · rintro (entry | field | base)
      · exact Or.inr (Or.inr entry)
      · exact Or.inr (Or.inl field)
      · exact Or.inl base

/-- Classes of a weather report, with two primitive bases and a class in no use. -/
def reportClasses : List ClassDecl :=
  [{ name := "tns:Report", base := some "xsd:string" },
   { name := "tns:Forecast", base := some "tns:Report",
     entries := [{ name := "days", type := "tns:Day[]" }] },
   { name := "tns:Day" }, { name := "tns:Old", base := some "xsd:double" }]

/-- A service that returns forecasts. -/
def reportService : ServiceDecl :=
  { name := "Weather"
    functions := [{ name := "get", returns := [{ name := "all", type := "tns:Forecast[]" }] }] }

/-- A day, which only a field of a forecast refers to, is in the class map of the
service, and so is the base of a report.  The base of the unused class is not. -/
theorem classMap_of_report_service :
    ∃ g s, build reportClasses = .ok g ∧ g.service? reportService = some s ∧
      s.classMap.get? "tns:Day" = some (.classId "tns_Day") ∧
      "xsd:string" ∈ s.classMap.keys ∧
      g.classMap.get? "xsd:double" = some (.kind .double) ∧ "xsd:double" ∉ s.classMap.keys := by
  have facts : (build reportClasses).toOption.any (fun g =>
      (g.service? reportService).any fun s =>
        ((g.roots s.operations s.groups).flatMap g.neighbours).map
          (fun n => (n.rawName, n.name, n.rawBase)) =
          [("tns:Report", "tns_Report", some "xsd:string"), ("tns:Day", "tns_Day", none)] ∧
        (g.roots s.operations s.groups ++ g.models.flatMap g.neighbours).map Model.name =
          ["tns_Forecast", "tns_Report", "tns_Day"] ∧
        (∀ n ∈ g.models, n.rawBase = some "xsd:double" → n.name = "tns_Old") ∧
        (∀ f ∈ s.operations.flatMap Operation.entries ++ g.models.flatMap Model.fields,
          TypeRef.elementText f.rawType ≠ "xsd:double") ∧
        g.classMap.get? "xsd:string" = some (.kind .string) ∧
        g.classMap.get? "xsd:double" = some (.kind .double)) = true := by decide +kernel
  cases built : build reportClasses with
  | error names => rw [built] at facts; cases facts
  | ok g =>
      rw [built, Except.toOption, Option.any_some, Option.any_eq_true] at facts
      obtain ⟨s, made, facts⟩ := facts
      obtain ⟨near, referred, bases, types, string, double⟩ := of_decide_eq_true facts
      obtain ⟨-, models, -, kinds⟩ := classMap_of_service built made
      have visited : ∀ entry ∈ [("tns:Report", "tns_Report", some "xsd:string"),
          ("tns:Day", "tns_Day", none)], ∃ n ∈ g.reachable s.operations s.groups,
          (n.rawName, n.name, n.rawBase) = entry := by
        rw [← near]
        intro entry hentry
        obtain ⟨n, hn, same⟩ := List.mem_map.mp hentry
        obtain ⟨root, hroot, hn⟩ := List.mem_flatMap.mp hn
        have hroot := roots_subset_reachable built _ _ root hroot
        exact ⟨n, neighbours_subset_reachable built hroot n hn, same⟩
      have others : ∀ n ∈ g.roots s.operations s.groups ++ g.models.flatMap g.neighbours,
          n.name ≠ "tns_Old" := by
        intro n hn
        have listed := referred ▸ List.mem_map_of_mem hn
        rintro old
        rw [old] at listed
        revert listed
        decide
      have used : ∀ n ∈ g.reachable s.operations s.groups, n ∈ g.models ∧ n.name ≠ "tns_Old" := by
        refine walk_induct (fun n hn => ⟨mem_models_of_mem_roots built hn, ?_⟩)
          (fun n hn m hm => ⟨mem_models_of_mem_neighbours built hm, ?_⟩)
        · exact others n (List.mem_append_left _ hn)
        · exact others m (List.mem_append_right _ (List.mem_flatMap.mpr ⟨n, hn.1, hm⟩))
      obtain ⟨day, hday, isDay⟩ := visited _ (List.mem_cons_of_mem _ List.mem_cons_self)
      obtain ⟨report, hreport, isReport⟩ := visited _ List.mem_cons_self
      rw [Prod.mk.injEq, Prod.mk.injEq] at isDay isReport
      refine ⟨g, s, rfl, made, ?_, ?_, double, ?_⟩
      · have kept := models day hday (by rw [isDay.2.1]; decide)
        rw [isDay.1, isDay.2.1] at kept
        exact kept.1
      · exact (kinds _ _ string).mpr (Or.inr (Or.inr ⟨report, hreport, isReport.2.2⟩))
      · rw [kinds _ _ double]
        rintro (⟨o, ho, f, hf, same⟩ | ⟨n, hn, f, hf, same⟩ | ⟨n, hn, base⟩)
        · exact types f (List.mem_append_left _ (List.mem_flatMap.mpr ⟨o, ho, hf⟩)) same.symm
        · have hn := (used n hn).1
          exact types f (List.mem_append_right _ (List.mem_flatMap.mpr ⟨n, hn, hf⟩)) same.symm
        · exact (used n hn).2 (bases n (used n hn).1 base)

end Catalog

end ContractClient
