import ContractClient.Proofs.Catalog.Order
import ContractClient.Service.Reachable

/-!
# The types a service uses are closed

The walk visits what it starts from (`names_of_queue`) and, with a model, all that
the model refers to (`names_of_neighbours`).  It visits nothing else: what holds of
the start and is passed on by references holds of every visited model
(`walk_induct`).

References lead to models of distinct names (`Pool`).  In a catalog that was built these
are its models, so the models a service uses include those its operations refer to and
are closed under bases and the types of fields.
-/

namespace ContractClient.Catalog

seal Identifier.className Identifier.typeName TypeRef.parse

variable {g : Catalog}

/-! ## The models left to visit -/

theorem mem_names_others {n : Model} {models : List Model} {name : String} :
    name ∈ (others n models).map Model.name ↔ name ∈ models.map Model.name ∧ name ≠ n.name := by
  simp only [others, List.mem_map, List.mem_filter, decide_eq_true_eq]
  constructor
  · rintro ⟨m, ⟨hm, differs⟩, rfl⟩
    exact ⟨⟨m, hm, rfl⟩, differs⟩
  · rintro ⟨⟨m, hm, rfl⟩, differs⟩
    exact ⟨m, ⟨hm, differs⟩, rfl⟩

/-- A visit leaves fewer models exactly if the model was among them. -/
theorem length_others_lt_iff {n : Model} {models : List Model} :
    (others n models).length < models.length ↔ n.name ∈ models.map Model.name := by
  rw [others, List.length_filter_lt_length_iff_exists, List.mem_map]
  simp

/-! ## What the walk visits -/

/-- The walk visits the models of its queue that were not visited before. -/
theorem names_of_queue {fresh queue : List Model} :
    ∀ n ∈ queue, n.name ∈ fresh.map Model.name →
      n.name ∈ (g.walk fresh queue).map Model.name := by
  fun_induction walk g fresh queue with
  | case1 fresh => intro n hn; cases hn
  | case2 fresh first queue visited ih =>
      intro n hn unvisited
      by_cases same : n.name = first.name
      · rw [same]
        exact List.mem_cons_self
      · have later : n ∈ queue := by
          rcases List.mem_cons.mp hn with rfl | later
          · exact absurd rfl same
          · exact later
        exact List.mem_cons_of_mem _
          (ih n (List.mem_append_left _ later) (mem_names_others.mpr ⟨unvisited, same⟩))
  | case3 fresh first queue seen ih =>
      intro n hn unvisited
      rcases List.mem_cons.mp hn with rfl | later
      · exact absurd (length_others_lt_iff.mpr unvisited) seen
      · exact ih n later unvisited

/-- With a model the walk visits all that the model refers to. -/
theorem names_of_neighbours {fresh queue : List Model} :
    ∀ n ∈ g.walk fresh queue, ∀ m ∈ g.neighbours n, m.name ∈ fresh.map Model.name →
      m.name ∈ (g.walk fresh queue).map Model.name := by
  fun_induction walk g fresh queue with
  | case1 fresh => intro n hn; cases hn
  | case2 fresh first queue visited ih =>
      intro n hn m hm unvisited
      by_cases same : m.name = first.name
      · rw [same]
        exact List.mem_cons_self
      · have left := mem_names_others.mpr ⟨unvisited, same⟩
        apply List.mem_cons_of_mem
        rcases List.mem_cons.mp hn with rfl | later
        · exact names_of_queue m (List.mem_append_right _ hm) left
        · exact ih n later m hm left
  | case3 fresh first queue seen ih => exact ih

/-- What holds of the queue and is passed on by references holds of every visited
model. -/
theorem walk_induct {P : Model → Prop} {fresh queue : List Model} (start : ∀ n ∈ queue, P n)
    (step : ∀ n, P n → ∀ m ∈ g.neighbours n, P m) : ∀ n ∈ g.walk fresh queue, P n := by
  fun_induction walk g fresh queue with
  | case1 fresh => intro n hn; cases hn
  | case2 fresh first queue visited ih =>
      have holds := start first List.mem_cons_self
      have rest : ∀ n ∈ queue ++ g.neighbours first, P n := by
        intro n hn
        rcases List.mem_append.mp hn with hn | hn
        · exact start n (List.mem_cons_of_mem first hn)
        · exact step first holds n hn
      intro n hn
      rcases List.mem_cons.mp hn with rfl | hn
      · exact holds
      · exact ih rest n hn
  | case3 fresh first queue seen ih => exact ih fun n hn => start n (List.mem_cons_of_mem first hn)

/-! ## Where references lead -/

theorem mem_neighbours_iff {n m : Model} :
    m ∈ g.neighbours n ↔ g.parent? n = some m ∨ ∃ f ∈ n.fields, g.find? f.type = some m := by
  simp [neighbours]

theorem mem_roots_iff {operations : List Operation} {groups : List Overload} {n : Model} :
    n ∈ g.roots operations groups ↔
      (∃ o ∈ operations, ∃ f ∈ o.entries, g.find? f.type = some n) ∨
        ∃ group ∈ groups, g.argumentModel group = some n := by
  simp only [roots, List.mem_append, List.mem_filterMap, List.mem_flatMap]
  refine or_congr ⟨?_, ?_⟩ Iff.rfl
  · rintro ⟨f, ⟨o, ho, hf⟩, found⟩
    exact ⟨o, ho, f, hf, found⟩
  · rintro ⟨o, ho, f, hf, found⟩
    exact ⟨f, ⟨o, ho, hf⟩, found⟩

theorem name_mem_candidates {n : Model} (hn : n ∈ g.models) :
    n.name ∈ g.candidates.map Model.name :=
  List.mem_map_of_mem (List.mem_append_left _ hn)

/-- Models of distinct names that references lead to.  No other model is referred to, and
the walk has all their names left to visit when it starts. -/
structure Pool (g : Catalog) (pool : List Model) : Prop where
  nodup : (pool.map Model.name).Nodup
  found : ∀ {r n}, g.find? r = some n → n ∈ pool
  fresh : ∀ n ∈ pool, n.name ∈ g.candidates.map Model.name

section Pool

variable {pool : List Model} {operations : List Operation} {groups : List Overload} {n m : Model}

theorem Pool.mem_of_mem_neighbours (hp : Pool g pool) (hm : m ∈ g.neighbours n) : m ∈ pool := by
  rcases mem_neighbours_iff.mp hm with base | ⟨f, -, found⟩
  · obtain ⟨r, -, found⟩ := Option.bind_eq_some_iff.mp base
    exact hp.found found
  · exact hp.found found

theorem Pool.mem_of_mem_roots (hp : Pool g pool) (hn : n ∈ g.roots operations groups) :
    n ∈ pool := by
  rcases mem_roots_iff.mp hn with ⟨o, -, f, -, found⟩ | ⟨group, -, found⟩
  · exact hp.found found
  · exact hp.found found

theorem Pool.mem_of_mem_reachable (hp : Pool g pool) (hn : n ∈ g.reachable operations groups) :
    n ∈ pool :=
  walk_induct (fun _ => hp.mem_of_mem_roots) (fun _ _ _ => hp.mem_of_mem_neighbours) n hn

theorem Pool.eq_of_name (hp : Pool g pool) (hn : n ∈ pool) (hm : m ∈ pool)
    (same : n.name = m.name) : n = m :=
  List.inj_on_of_nodup_map hp.nodup hn hm same

/-- A model that is referred to is visited if its name is. -/
theorem Pool.mem_reachable_of_name (hp : Pool g pool) (hn : n ∈ pool)
    (visited : n.name ∈ (g.reachable operations groups).map Model.name) :
    n ∈ g.reachable operations groups := by
  obtain ⟨m, hm, same⟩ := List.mem_map.mp visited
  rwa [← hp.eq_of_name (hp.mem_of_mem_reachable hm) hn same]

end Pool

/-! ## Catalogs that were built -/

section Built

variable {decls : List ClassDecl} {operations : List Operation} {groups : List Overload}
  {n m : Model}

theorem mem_models_of_find? (h : build decls = .ok g) {r : TypeRef} (found : g.find? r = some n) :
    n ∈ g.models := by
  rw [find?_of_build h] at found
  exact (models_perm_of_build h).mem_iff.mpr (mem_of_resolveIn found)

theorem pool_of_build (h : build decls = .ok g) : Pool g g.models where
  nodup := nodup_names_of_build h
  found := mem_models_of_find? h
  fresh _ hn := name_mem_candidates hn

theorem mem_models_of_mem_neighbours (h : build decls = .ok g) (hm : m ∈ g.neighbours n) :
    m ∈ g.models :=
  (pool_of_build h).mem_of_mem_neighbours hm

theorem mem_models_of_mem_roots (h : build decls = .ok g) (hn : n ∈ g.roots operations groups) :
    n ∈ g.models :=
  (pool_of_build h).mem_of_mem_roots hn

theorem mem_models_of_mem_reachable (h : build decls = .ok g)
    (hn : n ∈ g.reachable operations groups) : n ∈ g.models :=
  (pool_of_build h).mem_of_mem_reachable hn

theorem roots_subset_reachable (h : build decls = .ok g) (operations : List Operation)
    (groups : List Overload) :
    ∀ n ∈ g.roots operations groups, n ∈ g.reachable operations groups := by
  intro n hn
  have model := mem_models_of_mem_roots h hn
  exact (pool_of_build h).mem_reachable_of_name model
    (names_of_queue n hn (name_mem_candidates model))

theorem neighbours_subset_reachable (h : build decls = .ok g)
    (hn : n ∈ g.reachable operations groups) :
    ∀ m ∈ g.neighbours n, m ∈ g.reachable operations groups := by
  intro m hm
  have model := mem_models_of_mem_neighbours h hm
  exact (pool_of_build h).mem_reachable_of_name model
    (names_of_neighbours n hn m hm (name_mem_candidates model))

end Built

end ContractClient.Catalog
