import ContractClient.Proofs.Service.Reachable
import Mathlib.Logic.Function.Iterate

/-!
# The walk goes breadth first

`reachable` against the references themselves.  `Uses` says in rules which models
operations and groups use and after how many references, and `IsDistance` is the
smallest such number.  The walk finds exactly these models, each once, and finds the
nearer ones first (`reachable_breadth_first`).  This holds of catalogs that were built,
and of those of any list of models, where classes may inherit from each other in circles
and names may repeat: references lead to models of distinct names only (`Pool`).

`trail` is the walk with a depth for each entry of the queue.  Entries are taken from
the front, and what is put at the end is one deeper than what was taken.  So the depths
in the queue never fall, and the last is at most one above the first (`Layered`).  A
model may stand in the queue more than once, but the one that is visited is the least
deep, and its depth is the distance.

The walk is written with the models that are left to visit.  `turn` is the same with the
models that were visited, and nothing in it says that it ends.  It ends after as many
turns as there are entries put into the queue (`iterate_turn`).
-/

namespace ContractClient.Catalog

seal Identifier.className Identifier.typeName TypeRef.parse

variable {g : Catalog}

/-! ## Where references lead -/

/-- The catalogs there are: those of the classes of a contract, and those of any list of
models. -/
inductive Formed : Catalog → Prop
  | built {decls : List ClassDecl} {g : Catalog} (h : build decls = .ok g) : Formed g
  | given (models : List Model) (classMap : ClassMap) : Formed (ofModels models classMap)

theorem exists_of_lookUp {byName byLocal : String → Option Model} {r : TypeRef} {n : Model}
    (h : lookUp byName byLocal r = some n) :
    ∃ name, byName name = some n ∨ byLocal name = some n := by
  rw [lookUp] at h
  split at h
  · cases h
  · rcases Option.or_eq_some_iff.mp h with h | ⟨-, h⟩
    · exact ⟨_, .inl h⟩
    · rcases Option.or_eq_some_iff.mp h with h | ⟨-, h⟩
      · exact ⟨_, .inl h⟩
      · exact ⟨_, .inr h⟩

theorem mem_indexByName {models : List Model} {e : String × Model} (h : e ∈ indexByName models) :
    e.2 ∈ models ∧ e.2.name = e.1 := by
  obtain ⟨n, hn, rfl⟩ := List.mem_map.mp (Entries.mem_of_mem_ofPairs h)
  exact ⟨hn, rfl⟩

/-- The model of a name is the one of the table. -/
theorem model?_ofModels (models : List Model) (classMap : ClassMap) (name : String) :
    (ofModels models classMap).model? name = (indexByName models).get? name := by
  rw [indexByName, Entries.get?_ofPairs, ← List.map_reverse, List.find?_map, Option.map_map]
  simp [model?, ofModels, Function.comp_def]

theorem pool_ofModels (models : List Model) (classMap : ClassMap) :
    Pool (ofModels models classMap) (indexByName models).values where
  nodup := by
    have keys : (indexByName models).values.map Model.name = (indexByName models).keys := by
      rw [Entries.values, List.map_map, Entries.keys]
      exact List.map_congr_left fun e he => (mem_indexByName he).2
    rw [keys]
    exact Entries.nodup_keys_ofPairs _
  found := by
    intro r n found
    obtain ⟨name, byName | byLocal⟩ := exists_of_lookUp found
    · rw [model?_ofModels] at byName
      exact List.mem_map.mpr ⟨_, Entries.mem_of_get? byName, rfl⟩
    · rw [ofModels, get?_indexByLocalName] at byLocal
      exact List.mem_of_find?_eq_some byLocal
  fresh := by
    intro n hn
    obtain ⟨e, he, rfl⟩ := List.mem_map.mp hn
    exact name_mem_candidates (mem_indexByName he).1

theorem Formed.exists_pool (h : Formed g) : ∃ pool, Pool g pool := by
  cases h with
  | built h => exact ⟨_, pool_of_build h⟩
  | given models classMap => exact ⟨_, pool_ofModels models classMap⟩

/-! ## What is used, and how far away it is -/

/-- The models that operations and groups use, with a number of references that lead
there: from an entry or from the name of a group, and then from class to base or from
class to the type of a field. -/
inductive Uses (g : Catalog) (operations : List Operation) (groups : List Overload) :
    Nat → Model → Prop
  | entry {o f n} (ho : o ∈ operations) (hf : f ∈ o.parameters ++ o.returns)
      (found : g.find? f.type = some n) : Uses g operations groups 0 n
  | argument {group n} (hg : group ∈ groups) (found : g.find? (TypeRef.parse group.name) = some n) :
      Uses g operations groups 0 n
  | base {k m n} (before : Uses g operations groups k m) (found : g.parent? m = some n) :
      Uses g operations groups (k + 1) n
  | field {k m f n} (before : Uses g operations groups k m) (hf : f ∈ m.fields)
      (found : g.find? f.type = some n) : Uses g operations groups (k + 1) n

/-- The distance of a model: it is used after so many references, and not after fewer. -/
structure IsDistance (g : Catalog) (operations : List Operation) (groups : List Overload)
    (k : Nat) (n : Model) : Prop where
  uses : g.Uses operations groups k n
  least : ∀ j, g.Uses operations groups j n → k ≤ j

section Uses

variable {operations : List Operation} {groups : List Overload} {k : Nat} {n : Model}

theorem uses_zero_iff : g.Uses operations groups 0 n ↔ n ∈ g.roots operations groups := by
  rw [mem_roots_iff]
  constructor
  · intro h
    cases h with
    | entry ho hf found => exact .inl ⟨_, ho, _, hf, found⟩
    | argument hg found => exact .inr ⟨_, hg, found⟩
  · rintro (⟨o, ho, f, hf, found⟩ | ⟨group, hg, found⟩)
    · exact .entry ho hf found
    · exact .argument hg found

theorem uses_succ_iff :
    g.Uses operations groups (k + 1) n ↔
      ∃ m, g.Uses operations groups k m ∧ n ∈ g.neighbours m := by
  simp only [mem_neighbours_iff]
  constructor
  · intro h
    cases h with
    | base before found => exact ⟨_, before, .inl found⟩
    | field before hf found => exact ⟨_, before, .inr ⟨_, hf, found⟩⟩
  · rintro ⟨m, before, found | ⟨f, hf, found⟩⟩
    · exact .base before found
    · exact .field before hf found

end Uses

/-! ## The walk with depths -/

/-- The walk, with a depth beside each model of the queue and of the outcome. -/
def trail (g : Catalog) (fresh : List Model) (queue : List (Model × Nat)) : List (Model × Nat) :=
  match queue with
  | [] => []
  | (n, d) :: queue =>
    if (others n fresh).length < fresh.length then
      (n, d) :: trail g (others n fresh) (queue ++ (g.neighbours n).map (·, d + 1))
    else trail g fresh queue
termination_by (fresh.length, queue.length)

theorem map_fst_trail (fresh : List Model) (queue : List (Model × Nat)) :
    (g.trail fresh queue).map Prod.fst = g.walk fresh (queue.map Prod.fst) := by
  fun_induction trail g fresh queue with
  | case1 fresh => simp [walk]
  | case2 fresh n d queue visited ih =>
      simp only [List.map_cons, walk, if_pos visited, ih]
      simp [Function.comp_def]
  | case3 fresh n d queue seen ih =>
      simp only [List.map_cons, walk, if_neg seen, ih]

/-- What holds of the queue and is passed on by references, one deeper, holds of the
trail. -/
theorem trail_induct {P : Model → Nat → Prop} {fresh : List Model} {queue : List (Model × Nat)}
    (start : ∀ e ∈ queue, P e.1 e.2)
    (step : ∀ n d, P n d → ∀ m ∈ g.neighbours n, P m (d + 1)) :
    ∀ e ∈ g.trail fresh queue, P e.1 e.2 := by
  fun_induction trail g fresh queue with
  | case1 fresh => simp
  | case2 fresh n d queue visited ih =>
      obtain ⟨first, others⟩ := List.forall_mem_cons.mp start
      refine List.forall_mem_cons.mpr ⟨first, ih ?_⟩
      intro e he
      rcases List.mem_append.mp he with he | he
      · exact others e he
      · obtain ⟨m, hm, rfl⟩ := List.mem_map.mp he
        exact step n d first m hm
  | case3 fresh n d queue seen ih => exact ih (List.forall_mem_cons.mp start).2

/-- Depths do not fall along the queue and differ by one at most. -/
structure Layered (queue : List (Model × Nat)) : Prop where
  sorted : queue.Pairwise fun a b => a.2 ≤ b.2
  spread : ∀ a ∈ queue, ∀ b ∈ queue, b.2 ≤ a.2 + 1

theorem sorted_map_const (models : List Model) (d : Nat) :
    (models.map (·, d)).Pairwise fun a b => a.2 ≤ b.2 :=
  List.pairwise_map.mpr (List.pairwise_of_forall fun _ _ => Nat.le_refl d)

theorem layered_start (models : List Model) : Layered (models.map (·, 0)) where
  sorted := sorted_map_const models 0
  spread := by simp

section Layers

variable {fresh : List Model} {queue : List (Model × Nat)} {n : Model} {d : Nat}

theorem Layered.tail (h : Layered ((n, d) :: queue)) : Layered queue where
  sorted := (List.pairwise_cons.mp h.sorted).2
  spread a ha b hb := h.spread a (List.mem_cons_of_mem _ ha) b (List.mem_cons_of_mem _ hb)

theorem Layered.head_le (h : Layered ((n, d) :: queue)) : ∀ a ∈ queue, d ≤ a.2 :=
  (List.pairwise_cons.mp h.sorted).1

/-- Taking the first entry and putting deeper ones at the end keeps the layers. -/
theorem Layered.push (h : Layered ((n, d) :: queue)) (models : List Model) :
    Layered (queue ++ models.map (·, d + 1)) where
  sorted := by
    rw [List.pairwise_append]
    refine ⟨h.tail.sorted, sorted_map_const models (d + 1), ?_⟩
    intro a ha b hb
    obtain ⟨m, -, rfl⟩ := List.mem_map.mp hb
    exact h.spread (n, d) List.mem_cons_self a (List.mem_cons_of_mem _ ha)
  spread := by
    intro a ha b hb
    simp only [List.mem_append, List.mem_map] at ha hb
    rcases ha with ha | ⟨m, -, rfl⟩ <;> rcases hb with hb | ⟨m', -, rfl⟩
    · exact h.tail.spread a ha b hb
    · exact Nat.succ_le_succ (h.head_le a ha)
    · have near := h.spread (n, d) List.mem_cons_self b (List.mem_cons_of_mem _ hb)
      simp only at near ⊢
      omega
    · simp

/-- The trail is nowhere less deep than the queue it starts with. -/
theorem le_of_mem_trail {least : Nat} (h : ∀ a ∈ queue, least ≤ a.2) :
    ∀ e ∈ g.trail fresh queue, least ≤ e.2 :=
  trail_induct (P := fun _ k => least ≤ k) h fun _ _ deep _ _ => Nat.le_succ_of_le deep

theorem le_of_mem_trail_push (h : Layered ((n, d) :: queue)) (models : List Model) :
    ∀ e ∈ g.trail fresh (queue ++ models.map (·, d + 1)), d ≤ e.2 := by
  apply le_of_mem_trail
  intro a ha
  rcases List.mem_append.mp ha with ha | ha
  · exact h.head_le a ha
  · obtain ⟨m, -, rfl⟩ := List.mem_map.mp ha
    exact Nat.le_succ d

/-- Depths do not fall along the trail. -/
theorem pairwise_trail (h : Layered queue) :
    (g.trail fresh queue).Pairwise fun a b => a.2 ≤ b.2 := by
  fun_induction trail g fresh queue with
  | case1 fresh => exact .nil
  | case2 fresh n d queue visited ih =>
      exact List.pairwise_cons.mpr ⟨le_of_mem_trail_push h _, ih (h.push _)⟩
  | case3 fresh n d queue seen ih => exact ih h.tail

/-! ### What the trail visits -/

/-- The name of a model was visited at a depth or before. -/
def VisitedBy (d : Nat) (trail : List (Model × Nat)) (name : String) : Prop :=
  ∃ e ∈ trail, e.1.name = name ∧ e.2 ≤ d

theorem VisitedBy.cons {trail : List (Model × Nat)} {name : String} (h : VisitedBy d trail name)
    (e : Model × Nat) : VisitedBy d (e :: trail) name := by
  obtain ⟨a, ha, named, deep⟩ := h
  exact ⟨a, List.mem_cons_of_mem e ha, named, deep⟩

/-- An entry of the queue is visited at its depth or before. -/
theorem visitedBy_of_queue (h : Layered queue) :
    ∀ e ∈ queue, e.1.name ∈ fresh.map Model.name →
      VisitedBy e.2 (g.trail fresh queue) e.1.name := by
  fun_induction trail g fresh queue with
  | case1 fresh => simp
  | case2 fresh n d queue visited ih =>
      intro e he unvisited
      by_cases same : e.1.name = n.name
      · refine ⟨(n, d), List.mem_cons_self, same.symm, ?_⟩
        rcases List.mem_cons.mp he with rfl | he
        · exact Nat.le_refl d
        · exact h.head_le e he
      · have later : e ∈ queue := by
          rcases List.mem_cons.mp he with rfl | he
          · exact absurd rfl same
          · exact he
        exact (ih (h.push _) e (List.mem_append_left _ later)
          (mem_names_others.mpr ⟨unvisited, same⟩)).cons (n, d)
  | case3 fresh n d queue seen ih =>
      intro e he unvisited
      rcases List.mem_cons.mp he with rfl | he
      · exact absurd (length_others_lt_iff.mpr unvisited) seen
      · exact ih h.tail e he unvisited

/-- What a visited model refers to is visited one deeper at the latest. -/
theorem visitedBy_of_neighbours (h : Layered queue) :
    ∀ e ∈ g.trail fresh queue, ∀ m ∈ g.neighbours e.1, m.name ∈ fresh.map Model.name →
      VisitedBy (e.2 + 1) (g.trail fresh queue) m.name := by
  fun_induction trail g fresh queue with
  | case1 fresh => simp
  | case2 fresh n d queue visited ih =>
      intro e he m hm unvisited
      by_cases same : m.name = n.name
      · refine ⟨(n, d), List.mem_cons_self, same.symm, ?_⟩
        rcases List.mem_cons.mp he with rfl | he
        · exact Nat.le_succ d
        · exact Nat.le_succ_of_le (le_of_mem_trail_push h _ e he)
      · have left := mem_names_others.mpr ⟨unvisited, same⟩
        apply VisitedBy.cons
        rcases List.mem_cons.mp he with rfl | he
        · exact visitedBy_of_queue (h.push _) (m, d + 1)
            (List.mem_append_right _ (List.mem_map_of_mem hm)) left
        · exact ih (h.push _) e he m hm left
  | case3 fresh n d queue seen ih => exact ih h.tail

end Layers

/-! ## Turns -/

/-- A turn of the walk, as the models that were visited and the queue.  The first of the
queue is dropped if a model of its name was visited, and otherwise visited. -/
def turn (g : Catalog) : List Model × List Model → List Model × List Model
  | (visited, []) => (visited, [])
  | (visited, n :: queue) =>
    if n.name ∈ visited.map Model.name then (visited, queue)
    else (visited ++ [n], queue ++ g.neighbours n)

/-- Every turn takes one entry, so there are as many turns as entries. -/
theorem iterate_turn {pool : List Model} (hp : Pool g pool) {fresh queue visited : List Model}
    (known : ∀ n ∈ queue, n ∈ pool)
    (left : ∀ n ∈ pool, n.name ∈ fresh.map Model.name ↔ n.name ∉ visited.map Model.name) :
    g.turn^[queue.length + ((g.walk fresh queue).flatMap g.neighbours).length]
      (visited, queue) = (visited ++ g.walk fresh queue, []) := by
  fun_induction walk g fresh queue generalizing visited with
  | case1 fresh => simp
  | case2 fresh n queue isFresh ih =>
      obtain ⟨hn, others⟩ := List.forall_mem_cons.mp known
      have new : n.name ∉ visited.map Model.name :=
        (left n hn).mp (length_others_lt_iff.mp isFresh)
      have next : g.turn (visited, n :: queue) = (visited ++ [n], queue ++ g.neighbours n) :=
        if_neg new
      have known' : ∀ m ∈ queue ++ g.neighbours n, m ∈ pool := by
        intro m hm
        rcases List.mem_append.mp hm with hm | hm
        · exact others m hm
        · exact hp.mem_of_mem_neighbours hm
      have left' : ∀ m ∈ pool, m.name ∈ (Catalog.others n fresh).map Model.name ↔
          m.name ∉ (visited ++ [n]).map Model.name := by
        intro m hm
        rw [mem_names_others, left m hm]
        simp
      have count : (n :: queue).length + ((n :: g.walk (Catalog.others n fresh)
            (queue ++ g.neighbours n)).flatMap g.neighbours).length =
          ((queue ++ g.neighbours n).length + ((g.walk (Catalog.others n fresh)
            (queue ++ g.neighbours n)).flatMap g.neighbours).length) + 1 := by
        simp only [List.length_cons, List.length_append, List.flatMap_cons]
        omega
      rw [count, Function.iterate_succ_apply, next, ih known' left', List.append_assoc]
      rfl
  | case3 fresh n queue seen ih =>
      obtain ⟨hn, others⟩ := List.forall_mem_cons.mp known
      have old : n.name ∈ visited.map Model.name := by
        by_contra new
        exact seen (length_others_lt_iff.mpr ((left n hn).mpr new))
      have next : g.turn (visited, n :: queue) = (visited, queue) := if_pos old
      rw [List.length_cons, Nat.add_right_comm, Function.iterate_succ_apply, next, ih others left]

/-! ## The models that are used -/

theorem name_mem_of_mem_walk {fresh queue : List Model} :
    ∀ n ∈ g.walk fresh queue, n.name ∈ fresh.map Model.name := by
  fun_induction walk g fresh queue with
  | case1 fresh => simp
  | case2 fresh n queue isFresh ih =>
      refine List.forall_mem_cons.mpr ⟨length_others_lt_iff.mp isFresh, ?_⟩
      intro m hm
      exact (mem_names_others.mp (ih m hm)).1
  | case3 fresh n queue seen ih => exact ih

/-- No name is visited twice. -/
theorem nodup_names_walk (fresh queue : List Model) :
    ((g.walk fresh queue).map Model.name).Nodup := by
  fun_induction walk g fresh queue with
  | case1 fresh => exact .nil
  | case2 fresh n queue isFresh ih =>
      refine List.nodup_cons.mpr ⟨?_, ih⟩
      intro again
      obtain ⟨m, hm, same⟩ := List.mem_map.mp again
      exact (mem_names_others.mp (name_mem_of_mem_walk m hm)).2 same
  | case3 fresh n queue seen ih => exact ih

section Reachable

variable {pool : List Model} {operations : List Operation} {groups : List Overload}

/-- The models that are used, with their depths. -/
def depths (g : Catalog) (operations : List Operation) (groups : List Overload) :
    List (Model × Nat) :=
  g.trail g.candidates ((g.roots operations groups).map (·, 0))

theorem map_fst_depths :
    (g.depths operations groups).map Prod.fst = g.reachable operations groups := by
  rw [depths, map_fst_trail, reachable]
  simp [Function.comp_def]

theorem uses_of_mem_depths :
    ∀ e ∈ g.depths operations groups, g.Uses operations groups e.2 e.1 := by
  refine trail_induct (P := fun n k => g.Uses operations groups k n) ?_ ?_
  · intro e he
    obtain ⟨n, hn, rfl⟩ := List.mem_map.mp he
    exact uses_zero_iff.mpr hn
  · intro n d used m hm
    exact uses_succ_iff.mpr ⟨n, used, hm⟩

theorem mem_of_visitedBy (hp : Pool g pool) {d : Nat} {n : Model} (hn : n ∈ pool)
    (h : VisitedBy d (g.depths operations groups) n.name) :
    ∃ e ∈ g.depths operations groups, e.1 = n ∧ e.2 ≤ d := by
  obtain ⟨e, he, named, deep⟩ := h
  have visited : e.1 ∈ g.reachable operations groups := by
    rw [← map_fst_depths]
    exact List.mem_map_of_mem he
  exact ⟨e, he, hp.eq_of_name (hp.mem_of_mem_reachable visited) hn named, deep⟩

/-- What is used after some references is visited at that depth or before. -/
theorem mem_depths_of_uses (hp : Pool g pool) {k : Nat} {n : Model}
    (h : g.Uses operations groups k n) :
    ∃ e ∈ g.depths operations groups, e.1 = n ∧ e.2 ≤ k := by
  have layers := layered_start (g.roots operations groups)
  induction k generalizing n with
  | zero =>
      have root := uses_zero_iff.mp h
      have hn := hp.mem_of_mem_roots root
      exact mem_of_visitedBy hp hn
        (visitedBy_of_queue layers (n, 0) (List.mem_map_of_mem root) (hp.fresh n hn))
  | succ k ih =>
      obtain ⟨m, used, hn⟩ := uses_succ_iff.mp h
      obtain ⟨e, he, rfl, deep⟩ := ih used
      have known := hp.mem_of_mem_neighbours hn
      obtain ⟨a, ha, same, near⟩ := mem_of_visitedBy hp known
        (visitedBy_of_neighbours layers e he n hn (hp.fresh n known))
      exact ⟨a, ha, same, by omega⟩

/-- The depth of a visited model is its distance. -/
theorem isDistance_of_mem_depths (hp : Pool g pool) :
    ∀ e ∈ g.depths operations groups, g.IsDistance operations groups e.2 e.1 := by
  have nodup : ((g.depths operations groups).map Prod.fst).Nodup := by
    rw [map_fst_depths]
    exact (nodup_names_walk _ _).of_map
  intro e he
  refine ⟨uses_of_mem_depths e he, fun j used => ?_⟩
  obtain ⟨a, ha, same, deep⟩ := mem_depths_of_uses hp used
  rwa [List.inj_on_of_nodup_map nodup ha he same] at deep

end Reachable

/-- In every catalog the walk ends, also where classes refer to each other in circles: the
queue is empty after as many turns as there are roots and references of visited models.  It
visits exactly the models that are used after some number of references, no name twice, in
the order of their distances. -/
theorem reachable_breadth_first {g : Catalog} (formed : Formed g) (operations : List Operation)
    (groups : List Overload) :
    g.turn^[(g.roots operations groups).length +
        ((g.reachable operations groups).flatMap g.neighbours).length]
      ([], g.roots operations groups) = (g.reachable operations groups, []) ∧
    ((g.reachable operations groups).map Model.name).Nodup ∧
    (∀ n, n ∈ g.reachable operations groups ↔ ∃ k, g.Uses operations groups k n) ∧
    ∃ distances : List Nat,
      List.Forall₂ (g.IsDistance operations groups) distances (g.reachable operations groups) ∧
      distances.Pairwise (· ≤ ·) := by
  obtain ⟨pool, hp⟩ := formed.exists_pool
  refine ⟨?_, nodup_names_walk _ _, fun n => ⟨?_, ?_⟩,
    (g.depths operations groups).map Prod.snd, ?_, ?_⟩
  · refine iterate_turn hp (fun n => hp.mem_of_mem_roots) ?_
    intro n hn
    simp [hp.fresh n hn]
  · intro hn
    rw [← map_fst_depths] at hn
    obtain ⟨e, he, rfl⟩ := List.mem_map.mp hn
    exact ⟨e.2, uses_of_mem_depths e he⟩
  · rintro ⟨k, used⟩
    obtain ⟨e, he, rfl, -⟩ := mem_depths_of_uses hp used
    rw [← map_fst_depths]
    exact List.mem_map_of_mem he
  · rw [← map_fst_depths, List.forall₂_map_left_iff, List.forall₂_map_right_iff,
      List.forall₂_same]
    exact isDistance_of_mem_depths hp
  · rw [List.pairwise_map]
    exact pairwise_trail (layered_start _)

/-! ### Witness -/

/-- A class that inherits from its own subclass. -/
def wheel : Model :=
  { rawName := "Wheel", name := "Wheel", rawBase := some "Axle",
    baseType := some (TypeRef.parse "Axle") }

/-- The subclass, which also refers to itself. -/
def axle : Model :=
  { rawName := "Axle", name := "Axle", rawBase := some "Wheel",
    baseType := some (TypeRef.parse "Wheel"),
    fields := [{ rawName := "next", name := "next", rawType := "Axle[]",
                 type := TypeRef.parse "Axle[]" }] }

/-- Another class of the same name. -/
def spareAxle : Model := { rawName := "spare:Axle", name := "Axle" }

def rings : Catalog := ofModels [wheel, spareAxle, axle] []

def spin : Operation :=
  { rawName := "spin", name := "spin",
    parameters := [{ rawName := "w", name := "w", rawType := "Wheel",
                     type := TypeRef.parse "Wheel" }] }

/-- Of the two classes of one name the later one is used, and the walk ends with it. -/
theorem reachable_of_rings :
    Formed rings ∧ wheel ∈ rings.reachable [spin] [] ∧ axle ∈ rings.reachable [spin] [] ∧
      spareAxle ∉ rings.reachable [spin] [] ∧
      ∃ turns,
        rings.turn^[turns] ([], rings.roots [spin] []) = (rings.reachable [spin] [], []) := by
  have formed : Formed rings := .given _ _
  obtain ⟨ends, nodup, exact, -⟩ := reachable_breadth_first formed [spin] []
  have first : rings.Uses [spin] [] 0 wheel :=
    .entry List.mem_cons_self List.mem_cons_self (by decide +kernel)
  have second : rings.Uses [spin] [] 1 axle := .base first (by decide +kernel)
  have used := (exact axle).mpr ⟨1, second⟩
  refine ⟨formed, (exact wheel).mpr ⟨0, first⟩, used, ?_, _, ends⟩
  intro spare
  have same := List.inj_on_of_nodup_map nodup spare used rfl
  exact absurd (congrArg Model.rawName same) (by decide)

end ContractClient.Catalog
