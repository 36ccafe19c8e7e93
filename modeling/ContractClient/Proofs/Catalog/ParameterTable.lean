import ContractClient.Proofs.Catalog.Accessors

/-!
# The parameter table of a class

The table of a class leads from the raw names of renamed fields to their names.  It is
made in two runs: a climb from the class up its bases, and then one write for each renamed
field, from the root down to the class.

`Climb` is the first run as a relation, with one rule for each way a turn can go.  It ends
at a class without a base, or at a class that it has met.  It ends in every catalog, also
where bases run in circles: each turn meets another of the finitely many models that a
reference can lead to, and `lineage` is what it has met then (`climb_lineage`).  No model
is met twice (`Climb.nodup`).  In a catalog that was built there are no circles, and the
climb ends only at a root (`exists_root_lineage`).

The second run writes nothing but names of fields, so the check of the finished table has
nothing to refuse (`unknownNames_eq_nil`).
-/

namespace ContractClient.Catalog

variable {g : Catalog} {decls : List ClassDecl} {n : Model} {seen met met' : List Model}
  {next : Option Model}

/-! ## The climb -/

/-- The climb from a model up its bases.  The models met so far stand in front, the last
one first.  Behind them stand the model to be met next, if there is one, and all models
that are met in the end. -/
inductive Climb (g : Catalog) : List Model → Option Model → List Model → Prop where
  /-- There is no further base. -/
  | top {seen : List Model} : Climb g seen none seen
  /-- The next model was met before. -/
  | again {seen : List Model} {n : Model} (known : n ∈ seen) : Climb g seen (some n) seen
  /-- The next model is new, and the climb goes on with its base. -/
  | up {seen met : List Model} {n : Model} (new : n ∉ seen)
      (rest : Climb g (n :: seen) (g.parent? n) met) : Climb g seen (some n) met

/-- There is one way to climb. -/
theorem Climb.unique (h : Climb g seen next met) (h' : Climb g seen next met') :
    met = met' := by
  induction h with
  | top => cases h' with | top => rfl
  | again known =>
      cases h' with
      | again => rfl
      | up new => exact absurd known new
  | up new _ ih =>
      cases h' with
      | again known => exact absurd known new
      | up _ rest' => exact ih rest'

/-- A climb meets no model twice. -/
theorem Climb.nodup (h : Climb g seen next met) (nodup : seen.Nodup) : met.Nodup := by
  induction h with
  | top => exact nodup
  | again => exact nodup
  | up new _ ih => exact ih (List.nodup_cons.mpr ⟨new, nodup⟩)

/-! ## The climb ends -/

theorem mem_candidates_of_find? {r : TypeRef} (h : g.find? r = some n) : n ∈ g.candidates := by
  rw [find?, lookUp] at h
  split at h
  next => cases h
  next =>
    have named : ∀ {name}, g.model? name = some n → n ∈ g.candidates := fun found =>
      List.mem_append_left _ (List.mem_reverse.mp (List.mem_of_find?_eq_some found))
    rcases Option.or_eq_some_iff.mp h with found | ⟨-, h⟩
    · exact named found
    · rcases Option.or_eq_some_iff.mp h with found | ⟨-, found⟩
      · exact named found
      · exact List.mem_append_right _ (List.mem_map.mpr ⟨_, Entries.mem_of_get? found, rfl⟩)

theorem mem_candidates_of_parent? {b : Model} (h : g.parent? n = some b) : b ∈ g.candidates := by
  obtain ⟨r, -, found⟩ := Option.bind_eq_some_iff.mp h
  exact mem_candidates_of_find? found

theorem mem_withoutModel_iff {m : Model} {fresh : List Model} :
    m ∈ withoutModel n fresh ↔ m ∈ fresh ∧ m ≠ n := by
  simp [withoutModel]

/-- The walk over fresh models is a climb, if fresh are those of a pool that were not met,
and all bases are in the pool. -/
theorem climb_lineageFrom {pool fresh : List Model} (bases : ∀ b ∈ g.candidates, b ∈ pool)
    (left : ∀ m, m ∈ fresh ↔ m ∈ pool ∧ m ∉ seen) (hn : n ∈ pool) :
    Climb g seen (some n) (g.lineageFrom fresh n ++ seen) := by
  -- The induction follows the walk.  A turn moves the model from the fresh ones to those
  -- that were met, which keeps `left`.
  fun_induction lineageFrom g fresh n generalizing seen with
  | case1 fresh n isFresh ih =>
      have new : n ∉ seen := ((left n).mp (length_withoutModel_lt_iff.mp isFresh)).2
      have left' : ∀ m, m ∈ withoutModel n fresh ↔ m ∈ pool ∧ m ∉ n :: seen := by
        intro m
        rw [mem_withoutModel_iff, left, List.mem_cons, not_or, and_assoc,
          and_comm (a := m ∉ seen)]
      refine .up new ?_
      rw [List.append_assoc, List.singleton_append]
      cases parent : g.parent? n with
      | none => exact .top
      | some b => exact ih b left' (bases b (mem_candidates_of_parent? parent))
  | case2 fresh n notFresh =>
      have known : n ∈ seen := by
        by_contra new
        exact notFresh (length_withoutModel_lt_iff.mpr ((left n).mpr ⟨hn, new⟩))
      exact .again known

/-- The climb from a model ends, and what it has met is the lineage. -/
theorem climb_lineage (g : Catalog) (n : Model) : Climb g [] (some n) (g.lineage n) := by
  have climb : Climb g [] (some n) (g.lineageFrom (n :: g.candidates) n ++ []) :=
    climb_lineageFrom (fun b hb => List.mem_cons_of_mem n hb) (by simp) List.mem_cons_self
  rwa [List.append_nil] at climb

theorem climb_iff {met : List Model} : Climb g [] (some n) met ↔ met = g.lineage n := by
  constructor
  · intro climb
    exact climb.unique (climb_lineage g n)
  · rintro rfl
    exact climb_lineage g n

theorem nodup_lineage (g : Catalog) (n : Model) : (g.lineage n).Nodup :=
  (climb_lineage g n).nodup .nil

/-! ## Where it ends -/

theorem Chain.exists_root {members : List Model} (h : Chain g n members) :
    ∃ root ∈ members.head?, g.parent? root = none := by
  induction h with
  | @root n parent => exact ⟨n, rfl, parent⟩
  | step _ chain ih =>
      obtain ⟨root, first, parent⟩ := ih
      exact ⟨root, List.mem_head?_append_of_mem_head? first, parent⟩

/-- In a catalog that was built a model without a base model is a root. -/
theorem isRoot_of_parent? (h : build decls = .ok g) (hn : n ∈ g.models)
    (parent : g.parent? n = none) : n.IsRoot := by
  cases (progress_of_build h).1.sound.rooted n hn with
  | root isRoot => exact isRoot
  | step base =>
      rw [parent?_of_build h, base] at parent
      cases parent

theorem exists_root_lineage (h : build decls = .ok g) (hn : n ∈ g.models) :
    ∃ root ∈ (g.lineage n).head?, root.IsRoot := by
  obtain ⟨root, first, parent⟩ := (chain_lineage h hn).exists_root
  have inherits : g.Inherits n root := (mem_lineage_iff h hn).mp (List.mem_of_mem_head? first)
  exact ⟨root, first, isRoot_of_parent? h (mem_models_of_inherits h hn inherits) parent⟩

/-! ## The writes -/

/-- The keys are the raw names of the renamed fields, in order of first occurrence. -/
theorem keys_renames (g : Catalog) (n : Model) :
    (g.renames n).keys = distinct ((g.renamedFields n).map Field.rawName) := by
  rw [renames, Entries.keys_ofPairs, List.map_map, renamedFields]
  rfl

/-- A key leads to the last renamed field that has it. -/
theorem exists_last_of_mem_keys {key : String} (h : key ∈ (g.renames n).keys) :
    ∃ front last back, g.renamedFields n = front ++ last :: back ∧ last.rawName = key ∧
      (∀ f ∈ back, f.rawName ≠ key) ∧ (g.renames n).get? key = some last.name := by
  rw [keys_renames, mem_distinct] at h
  obtain ⟨f, hf, rfl⟩ := List.mem_map.mp h
  obtain ⟨front, last, back, split, same, others⟩ := exists_last hf
  exact ⟨front, last, back, split, same, others,
    same ▸ get?_renames_of_last split (same ▸ others)⟩

/-- A name in the table is that of a field which a model of the lineage declares. -/
theorem exists_field_of_mem_renames {name : String} (h : name ∈ (g.renames n).values) :
    ∃ a ∈ g.lineage n, ∃ f ∈ a.fields, f.name = name := by
  obtain ⟨e, he, rfl⟩ := List.mem_map.mp h
  obtain ⟨f, hf, rfl⟩ := List.mem_map.mp (Entries.mem_of_mem_ofPairs he)
  obtain ⟨a, ha, renamed⟩ := List.mem_flatMap.mp hf
  exact ⟨a, ha, f, (List.mem_filter.mp renamed).1, rfl⟩

/-- The table names no field that is not declared. -/
theorem unknownNames_eq_nil (g : Catalog) (n : Model) : g.unknownNames n = [] := by
  have none_left : (g.renames n).values.filter
      (fun name => !(g.declaredNames n).contains name) = [] := by
    rw [List.filter_eq_nil_iff]
    intro name h
    obtain ⟨a, ha, f, hf, rfl⟩ := exists_field_of_mem_renames h
    have declared : f.name ∈ g.declaredNames n :=
      List.mem_map.mpr ⟨f, List.mem_flatMap.mpr ⟨a, ha, hf⟩, rfl⟩
    simp [declared]
  rw [unknownNames, none_left]
  exact List.mergeSort_nil

theorem checkTable_eq_ok (g : Catalog) (n : Model) : g.checkTable n = .ok () := by
  rw [checkTable, unknownNames_eq_nil, List.isEmpty_nil, Bool.or_true, if_pos rfl]

/-! ## The table -/

/-- In every catalog, and also where bases run in circles, the climb from a model ends,
with the lineage, in which no model occurs twice, and the check of the table finds no
unknown field.  In a catalog that was built the lineage holds the model behind all its
bases, down from a root.  The keys of the table are then the raw names of the renamed
fields of the lineage in order of first occurrence, and each leads to the last of the
fields that have it. -/
theorem table_of_lineage (g : Catalog) (n : Model) :
    (∀ met, Climb g [] (some n) met ↔ met = g.lineage n) ∧ (g.lineage n).Nodup ∧
    g.unknownNames n = [] ∧ g.checkTable n = .ok () ∧
    ∀ decls, build decls = .ok g → n ∈ g.models →
      Chain g n (g.lineage n) ∧ (∃ root ∈ (g.lineage n).head?, root.IsRoot) ∧
      (g.renames n).keys =
        distinct (((g.lineage n).flatMap fun a => a.fields.filter Field.isRenamed).map
          Field.rawName) ∧
      (∀ key, key ∈ (g.renames n).keys ↔
        ∃ a, g.Inherits n a ∧ ∃ f ∈ a.fields, f.isRenamed = true ∧ f.rawName = key) ∧
      (∀ key ∈ (g.renames n).keys, ∃ front last back,
        ((g.lineage n).flatMap fun a => a.fields.filter Field.isRenamed) =
          front ++ last :: back ∧
        last.rawName = key ∧ (∀ f ∈ back, f.rawName ≠ key) ∧
        (g.renames n).get? key = some last.name) ∧
      ∀ name ∈ (g.renames n).values, ∃ a, g.Inherits n a ∧ ∃ f ∈ a.fields, f.name = name := by
  refine ⟨fun met => climb_iff, nodup_lineage g n, unknownNames_eq_nil g n,
    checkTable_eq_ok g n, fun decls h hn => ?_⟩
  refine ⟨chain_lineage h hn, exists_root_lineage h hn, keys_renames g n, fun key => ?_,
    fun key => exists_last_of_mem_keys, fun name listed => ?_⟩
  · rw [keys_renames, mem_distinct, List.mem_map]
    constructor
    · rintro ⟨f, hf, rfl⟩
      obtain ⟨a, inherits, renamed⟩ := (mem_renamedFields_iff h hn).mp hf
      obtain ⟨declared, differs⟩ := List.mem_filter.mp renamed
      exact ⟨a, inherits, f, declared, differs, rfl⟩
    · rintro ⟨a, inherits, f, declared, differs, rfl⟩
      have renamed : f ∈ a.renamed := List.mem_filter.mpr ⟨declared, differs⟩
      exact ⟨f, (mem_renamedFields_iff h hn).mpr ⟨a, inherits, renamed⟩, rfl⟩
  · obtain ⟨a, ha, f, hf, same⟩ := exists_field_of_mem_renames listed
    exact ⟨a, (mem_lineage_iff h hn).mp ha, f, hf, same⟩

/-! ### Witness -/

/-- Three generations, the youngest first.  The raw name `!` has no identifier characters
and stands at different positions. -/
def kennelClasses : List ClassDecl :=
  [{ name := "Puppy", base := some "Dog", entries :=
       [{ name := "!", type := "string" }, { name := "legs-count", type := "int" },
        { name := "tail-wags", type := "int" }] },
   { name := "Dog", base := some "Animal", entries :=
       [{ name := "name", type := "string" }, { name := "!", type := "int" }] },
   { name := "Animal", entries := [{ name := "legs-count", type := "int" }] }]

/-- A hen, whose base is the egg. -/
def hen : Model := { rawName := "Hen", name := "Hen", baseType := some (TypeRef.parse "Egg") }

/-- An egg, whose base is the hen. -/
def egg : Model := { rawName := "Egg", name := "Egg", baseType := some (TypeRef.parse "Hen") }

/-- The table of the puppy starts at the animal, and its own field `!` counts.  The climb
from the egg ends where it comes to the egg again. -/
theorem table_of_puppy :
    (∃ g puppy, build kennelClasses = .ok g ∧ puppy ∈ g.models ∧
      (g.lineage puppy).map Model.name = ["Animal", "Dog", "Puppy"] ∧
      Chain g puppy (g.lineage puppy) ∧
      (g.renames puppy).keys = ["legs-count", "!", "tail-wags"] ∧
      (g.renames puppy).get? "!" = some "field0" ∧
      ∃ front last back, g.renamedFields puppy = front ++ last :: back ∧
        last.rawName = "!" ∧ (∀ f ∈ back, f.rawName ≠ "!") ∧ last.name = "field0") ∧
    Climb (ofModels [egg, hen] []) [] (some egg) [hen, egg] := by
  have facts : (build kennelClasses).toOption.any (fun g =>
      g.models.any fun puppy => decide (
        (g.lineage puppy).map Model.name = ["Animal", "Dog", "Puppy"] ∧
        (g.renames puppy).keys = ["legs-count", "!", "tail-wags"] ∧
        (g.renames puppy).get? "!" = some "field0")) = true := by decide +kernel
  have circle : (ofModels [egg, hen] []).lineage egg = [hen, egg] := by decide +kernel
  refine ⟨?_, ((table_of_lineage _ egg).1 _).mpr circle.symm⟩
  cases built : build kennelClasses with
  | error names => rw [built] at facts; cases facts
  | ok g =>
      rw [built, Except.toOption, Option.any_some, List.any_eq_true] at facts
      obtain ⟨puppy, hpuppy, facts⟩ := facts
      obtain ⟨members, keys, leads⟩ := of_decide_eq_true facts
      obtain ⟨chain, -, -, -, lasts, -⟩ :=
        (table_of_lineage g puppy).2.2.2.2 kennelClasses built hpuppy
      obtain ⟨front, last, back, split, raw, others, found⟩ := lasts "!" (by rw [keys]; decide)
      refine ⟨g, puppy, rfl, hpuppy, members, chain, keys, leads, front, last, back, split, raw,
        others, ?_⟩
      rw [leads] at found
      exact (Option.some.inj found).symm

end ContractClient.Catalog
