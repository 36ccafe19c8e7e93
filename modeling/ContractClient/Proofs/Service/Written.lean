import ContractClient.Emission.ServiceClass
import ContractClient.Proofs.Service.ClassMap

/-!
# The class map in generated code

A service class lists the class map of its service as texts.  A primitive is written
as its word, and a class as the class of the service, with the name of the service in
front.  Whether a meaning is a primitive is asked of its text, and the identifier of a
class may be the word of a primitive: a class called `str-ing` has the identifier
`string`.  Such a class is written like the primitive.

All other entries are written as they should be.  So the listing is right exactly if
no class in it has the word of a primitive as its identifier
(`classMapPairs_of_service`).
-/

namespace ContractClient

/-! ## Words of primitives -/

/-- The words of the primitives. -/
def Primitive.words : List String := all.map word

theorem Primitive.mem_all (k : Primitive) : k ∈ all := by cases k <;> decide

theorem Primitive.word_mem_words (k : Primitive) : k.word ∈ words :=
  List.mem_map_of_mem k.mem_all

theorem Meaning.isPrimitive_classId_iff {id : String} :
    (classId id).isPrimitive = true ↔ id ∈ Primitive.words := by
  rw [← Bool.not_eq_false, isPrimitive_classId_eq_false_iff, Decidable.not_not]
  rfl

/-! ## One entry -/

namespace Service

/-- What a meaning is to be written as: the word of a primitive, or the class of the
service. -/
def written (s : Service) : Meaning → String
  | .kind k => k.word
  | .classId id => s.name ++ "." ++ id

/-- What a meaning is written as. -/
def writtenAs (s : Service) (m : Meaning) : String :=
  if m.isPrimitive then m.text else s.name ++ "." ++ m.text

theorem classMapPairs_eq (s : Service) :
    s.classMapPairs = s.classMap.map fun e => (e.1, s.writtenAs e.2) := rfl

theorem keys_classMapPairs (s : Service) : s.classMapPairs.keys = s.classMap.keys := by
  rw [classMapPairs_eq, Entries.keys, List.map_map]
  rfl

theorem get?_classMapPairs (s : Service) (raw : String) :
    s.classMapPairs.get? raw = (s.classMap.get? raw).map s.writtenAs := by
  rw [classMapPairs_eq]
  induction s.classMap with
  | nil => rfl
  | cons e es ih =>
      rw [List.map_cons, Entries.get?_cons, Entries.get?_cons, ih]
      split
      · rfl
      · rfl

theorem writtenAs_kind (s : Service) (k : Primitive) : s.writtenAs (.kind k) = k.word := by
  rw [writtenAs, Meaning.isPrimitive_kind, if_pos rfl]
  rfl

theorem writtenAs_classId (s : Service) (id : String) :
    s.writtenAs (.classId id) = if id ∈ Primitive.words then id else s.name ++ "." ++ id := by
  rw [writtenAs]
  exact if_congr Meaning.isPrimitive_classId_iff rfl rfl

/-- The class of a service is never called like the class alone. -/
theorem written_classId_ne (s : Service) (id : String) : s.written (.classId id) ≠ id := by
  intro same
  have length : (s.name ++ "." ++ id).toList.length = id.toList.length :=
    congrArg (fun t : String => t.toList.length) same
  have point : ".".toList.length = 1 := rfl
  rw [String.toList_append, String.toList_append, List.length_append, List.length_append] at length
  omega

/-- A meaning is written as it should be, unless it is a class called like a
primitive. -/
theorem writtenAs_eq_written_iff (s : Service) (m : Meaning) :
    s.writtenAs m = s.written m ↔ ∀ k : Primitive, m ≠ .classId k.word := by
  cases m with
  | kind k => simp [writtenAs_kind, written]
  | classId id =>
      have called : id ∈ Primitive.words ↔ ∃ k : Primitive, id = k.word := by
        simp only [Primitive.words, List.mem_map, Primitive.mem_all, true_and, eq_comm]
      rw [writtenAs_classId]
      split
      next word =>
        obtain ⟨k, rfl⟩ := called.mp word
        constructor
        · intro same
          exact absurd same.symm (s.written_classId_ne _)
        · intro other
          exact absurd rfl (other k)
      next other =>
        refine ⟨fun _ k same => other ?_, fun _ => rfl⟩
        cases same
        exact k.word_mem_words

end Service

/-! ## Meanings of a catalog -/

namespace Catalog

seal Identifier.className Identifier.typeName TypeRef.parse TypeRef.elementText

variable {g : Catalog} {decls : List ClassDecl}

/-- A raw name stands for a primitive only as the base of a model, read as a
reference. -/
theorem base_of_get?_kind (h : build decls = .ok g) {raw : String} {k : Primitive}
    (value : g.classMap.get? raw = some (.kind k)) :
    (TypeRef.parse raw).primitive = some k ∧ ∃ n ∈ g.models, n.rawBase = some raw := by
  have hmap : g.classMap = meanings decls := (progress_of_build h).2.1
  have undeclared : ¬ IsDeclared decls raw := by
    intro declared
    rw [hmap, get?_meanings_of_declared declared] at value
    cases value
  have base := ((mem_keys_of_build h).mp
    (Entries.mem_keys_iff.mpr ⟨_, value⟩)).resolve_left undeclared
  obtain ⟨m, hm⟩ := exists_meaningIn_of_build h base
  rw [hmap, get?_meanings_of_base undeclared base hm, Option.some.injEq] at value
  subst value
  refine ⟨?_, ((isBase_iff_of_build h).mp base).2⟩
  rw [meaningIn] at hm
  cases hkind : (TypeRef.parse raw).primitive with
  | some k' =>
      rw [hkind] at hm
      cases hm
      rfl
  | none =>
      rw [hkind] at hm
      obtain ⟨b, -, other⟩ := Option.map_eq_some_iff.mp hm
      cases other

/-- A raw name that stands for a class stands for one of the catalog. -/
theorem mem_names_of_get?_classId (h : build decls = .ok g) {raw id : String}
    (value : g.classMap.get? raw = some (.classId id)) : id ∈ g.names := by
  have hmap : g.classMap = meanings decls := (progress_of_build h).2.1
  by_cases declared : IsDeclared decls raw
  · rw [hmap, get?_meanings_of_declared declared] at value
    cases value
    exact className_mem_names h declared
  · have base := ((mem_keys_of_build h).mp
      (Entries.mem_keys_iff.mpr ⟨_, value⟩)).resolve_left declared
    obtain ⟨m, hm⟩ := exists_meaningIn_of_build h base
    rw [hmap, get?_meanings_of_base declared base hm, Option.some.injEq] at value
    subst value
    rw [meaningIn] at hm
    split at hm
    next => cases hm
    next =>
      obtain ⟨b, hb, same⟩ := Option.map_eq_some_iff.mp hm
      cases same
      exact List.mem_map_of_mem ((models_perm_of_build h).mem_iff.mpr (mem_of_resolveIn hb))

/-- The class map of a service as its class lists it, key by key.  A name that stands
for a primitive is the base of a model and is written as the word of the primitive.  A
name that stands for a class stands for one of the catalog, and is written with the
service in front, unless the class is called like a primitive: then it is written like
the primitive.  So the listing tells classes from primitives exactly if no class in it
is called like a primitive. -/
theorem classMapPairs_of_service (h : build decls = .ok g) {d : ServiceDecl} {s : Service}
    (made : g.service? d = some s) :
    s.classMap.keys.Nodup ∧ s.classMapPairs.keys = s.classMap.keys ∧
    (∀ raw k, s.classMap.get? raw = some (.kind k) →
      s.classMapPairs.get? raw = some k.word ∧
      (TypeRef.parse raw).primitive = some k ∧ ∃ n ∈ g.models, n.rawBase = some raw) ∧
    (∀ raw id, s.classMap.get? raw = some (.classId id) →
      id ∈ g.names ∧
      s.classMapPairs.get? raw =
        some (if id ∈ Primitive.words then id else s.name ++ "." ++ id)) ∧
    (s.classMapPairs = s.classMap.map (fun e => (e.1, s.written e.2)) ↔
      ∀ k : Primitive, .classId k.word ∉ s.classMap.values) := by
  have cut := (parts_of_service? made).2.2
  have inCatalog : ∀ raw m, s.classMap.get? raw = some m → g.classMap.get? raw = some m := by
    intro raw m found
    rw [cut] at found
    exact ((get?_classMapFor_iff h).mp found).1
  have nodup : s.classMap.keys.Nodup := by
    rw [cut]
    exact (nodup_keys_of_build h).sublist ((classMapFor_sublist g _ _).map Prod.fst)
  refine ⟨nodup, s.keys_classMapPairs, ?_, ?_, ?_⟩
  · intro raw k value
    refine ⟨?_, base_of_get?_kind h (inCatalog raw _ value)⟩
    rw [s.get?_classMapPairs, value, Option.map_some, s.writtenAs_kind]
  · intro raw id value
    refine ⟨mem_names_of_get?_classId h (inCatalog raw _ value), ?_⟩
    rw [s.get?_classMapPairs, value, Option.map_some, s.writtenAs_classId]
  · rw [s.classMapPairs_eq, List.map_inj_left]
    simp only [Prod.mk.injEq, true_and, s.writtenAs_eq_written_iff]
    constructor
    · intro right k hk
      obtain ⟨e, he, same⟩ := List.mem_map.mp hk
      exact right e he k same
    · intro none e he k same
      exact none k (same ▸ List.mem_map_of_mem he)

/-- A class whose identifier is the word of a primitive, and a class with this primitive
as its base. -/
def wordClasses : List ClassDecl :=
  [{ name := "str-ing" }, { name := "Report", base := some "xsd:string" }]

/-- A service that takes both. -/
def wordService : ServiceDecl :=
  { name := "S"
    functions := [{ name := "f", parameters := [{ name := "a", type := "str-ing" },
      { name := "b", type := "Report" }] }] }

/-- The class `str-ing` and the primitive base are written alike, so the listing is not
what it should be. -/
theorem classMapPairs_of_word_service :
    ∃ g s, build wordClasses = .ok g ∧ g.service? wordService = some s ∧
      s.classMap.get? "str-ing" = some (.classId "string") ∧
      s.classMapPairs.get? "str-ing" = some "string" ∧
      s.classMapPairs.get? "Report" = some "S.Report" ∧
      s.classMapPairs ≠ s.classMap.map (fun e => (e.1, s.written e.2)) := by
  have facts : (build wordClasses).toOption.any (fun g =>
      (g.service? wordService).any fun s =>
        s.name = "S" ∧
        (s.operations.flatMap fun o => rawTypes o.entries) = ["str-ing", "Report"] ∧
        g.classMap.get? "str-ing" = some (.classId "string") ∧
        g.classMap.get? "Report" = some (.classId "Report")) = true := by decide +kernel
  cases built : build wordClasses with
  | error names => rw [built] at facts; cases facts
  | ok g =>
      rw [built, Except.toOption, Option.any_some, Option.any_eq_true] at facts
      obtain ⟨s, made, facts⟩ := facts
      obtain ⟨name, types, class₁, class₂⟩ := of_decide_eq_true facts
      have kept : ∀ raw ∈ ["str-ing", "Report"], ∀ m, g.classMap.get? raw = some m →
          s.classMap.get? raw = some m := by
        intro raw hraw m value
        rw [(parts_of_service? made).2.2]
        refine (get?_classMapFor_iff built).mpr ⟨value, Or.inl ?_⟩
        rw [rawNames, types]
        exact List.mem_append_right _ hraw
      have word := kept "str-ing" (by decide) _ class₁
      have report := kept "Report" (by decide) _ class₂
      obtain ⟨-, -, -, classes, right⟩ := classMapPairs_of_service built made
      refine ⟨g, s, rfl, made, word, ?_, ?_, ?_⟩
      · rw [(classes _ _ word).2]
        rfl
      · rw [(classes _ _ report).2, name]
        rfl
      · rw [ne_eq, right, not_forall]
        refine ⟨.string, fun none => none ?_⟩
        exact List.mem_map.mpr ⟨_, Entries.mem_of_get? word, rfl⟩

end Catalog

end ContractClient
