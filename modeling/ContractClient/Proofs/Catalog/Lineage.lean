import ContractClient.Emission.ModelClass
import ContractClient.Proofs.Catalog.Order
import Mathlib.Logic.Relation

/-!
# The lineage of a model

`lineage` walks up the bases of a model and stops at a model it has met.  In a catalog
that was built no chain of bases meets a model twice, so the walk only stops at a root.
`Chain` is the walk as a relation: a model and all its bases, root first.  It is
unique, the chain of every member is a prefix of it, and so no member occurs in the
chain of its own base (`Chain.not_mem`).  This is why taking the model out of the fresh
ones before going on loses nothing (`lineageFrom_of_chain`).
-/

namespace ContractClient.Catalog

variable {g : Catalog} {decls : List ClassDecl} {n a : Model} {members : List Model}

/-- A model inherits from itself, from its base, and so on. -/
def Inherits (g : Catalog) : Model → Model → Prop :=
  Relation.ReflTransGen fun n b => g.parent? n = some b

/-! ## Chains -/

/-- A model behind all its bases, the root first. -/
inductive Chain (g : Catalog) : Model → List Model → Prop where
  /-- A model without a base is its own chain. -/
  | root {n : Model} (parent : g.parent? n = none) : Chain g n [n]
  /-- A model stands behind the chain of its base. -/
  | step {n b : Model} {bases : List Model} (parent : g.parent? n = some b)
      (chain : Chain g b bases) : Chain g n (bases ++ [n])

theorem Chain.unique {members' : List Model} (h : Chain g n members) (h' : Chain g n members') :
    members = members' := by
  induction h generalizing members' with
  | root parent =>
      cases h' with
      | root => rfl
      | step parent' => rw [parent] at parent'; cases parent'
  | step parent _ ih =>
      cases h' with
      | root parent' => rw [parent] at parent'; cases parent'
      | step parent' chain' =>
          rw [parent] at parent'
          cases parent'
          rw [ih chain']

theorem Chain.mem_iff (h : Chain g n members) : a ∈ members ↔ g.Inherits n a := by
  induction h with
  | root parent =>
      rw [Inherits, Relation.ReflTransGen.cases_head_iff, List.mem_singleton, eq_comm]
      simp [parent]
  | step parent _ ih =>
      rw [Inherits, Relation.ReflTransGen.cases_head_iff, List.mem_append, List.mem_singleton, ih,
        or_comm, eq_comm]
      simp [parent, Inherits]

/-- The chain of a member is what stands before it, and the member. -/
theorem Chain.exists_front (h : Chain g n members) (ha : a ∈ members) :
    ∃ front, Chain g a front ∧ front <+: members := by
  induction h with
  | root parent =>
      rw [List.mem_singleton.mp ha]
      exact ⟨_, .root parent, List.prefix_refl _⟩
  | @step n b bases parent chain ih =>
      rcases List.mem_append.mp ha with ha | ha
      · obtain ⟨front, before, sub⟩ := ih ha
        exact ⟨front, before, sub.trans (List.prefix_append _ _)⟩
      · rw [List.mem_singleton.mp ha]
        exact ⟨_, .step parent chain, List.prefix_refl _⟩

/-- A model is not among the bases of its own base. -/
theorem Chain.not_mem {b : Model} {bases : List Model} (parent : g.parent? n = some b)
    (chain : Chain g b bases) : n ∉ bases := by
  intro again
  obtain ⟨front, before, sub⟩ := chain.exists_front again
  have whole : front = bases ++ [n] := before.unique (.step parent chain)
  have shorter := sub.length_le
  rw [whole, List.length_append, List.length_singleton] at shorter
  omega

/-! ## The walk -/

theorem length_withoutModel_lt_iff {fresh : List Model} :
    (withoutModel n fresh).length < fresh.length ↔ n ∈ fresh := by
  rw [withoutModel, List.length_filter_lt_length_iff_exists]
  simp

/-- The walk from a model gives its chain, if the chain is fresh. -/
theorem lineageFrom_of_chain (h : Chain g n members) {fresh : List Model}
    (sub : ∀ m ∈ members, m ∈ fresh) : g.lineageFrom fresh n = members := by
  induction h generalizing fresh with
  | root parent =>
      rw [lineageFrom, if_pos (length_withoutModel_lt_iff.mpr (sub _ List.mem_cons_self)), parent,
        List.nil_append]
  | @step n b bases parent chain ih =>
      have here : n ∈ fresh := sub n (List.mem_append_right _ List.mem_cons_self)
      have above : ∀ m ∈ bases, m ∈ withoutModel n fresh := by
        intro m hm
        have other : m ≠ n := fun same => Chain.not_mem parent chain (same ▸ hm)
        exact List.mem_filter.mpr ⟨sub m (List.mem_append_left _ hm), by simpa using other⟩
      rw [lineageFrom, if_pos (length_withoutModel_lt_iff.mpr here), parent, ← ih above]

/-! ## Catalogs -/

/-- In a catalog that was built every model has a chain, and all its members are models of
the catalog. -/
theorem exists_chain (h : build decls = .ok g) (hn : n ∈ g.models) :
    ∃ members, Chain g n members ∧ ∀ m ∈ members, m ∈ g.models := by
  have perm := models_perm_of_build h
  have rooted := (progress_of_build h).1.sound.rooted n hn
  induction rooted with
  | @root n isRoot =>
      refine ⟨[n], .root ?_, fun m hm => List.mem_singleton.mp hm ▸ hn⟩
      rw [parent?, Option.bind_eq_none_iff]
      intro r base
      rw [find?, lookUp, isRoot r base, if_pos rfl]
  | @step n b base _ ih =>
      obtain ⟨bases, chain, models⟩ := ih (perm.mem_iff.mpr (mem_of_baseIn base))
      refine ⟨bases ++ [n], .step (by rw [parent?_of_build h, base]) chain, ?_⟩
      intro m hm
      rcases List.mem_append.mp hm with hm | hm
      · exact models m hm
      · exact List.mem_singleton.mp hm ▸ hn

/-- The lineage of a model is its chain. -/
theorem chain_lineage (h : build decls = .ok g) (hn : n ∈ g.models) :
    Chain g n (g.lineage n) := by
  obtain ⟨members, chain, models⟩ := exists_chain h hn
  have walked : g.lineage n = members := by
    apply lineageFrom_of_chain chain
    intro m hm
    exact List.mem_cons_of_mem _ (List.mem_append_left _ (models m hm))
  rw [walked]
  exact chain

theorem mem_lineage_iff (h : build decls = .ok g) (hn : n ∈ g.models) :
    a ∈ g.lineage n ↔ g.Inherits n a := (chain_lineage h hn).mem_iff

theorem mem_models_of_inherits (h : build decls = .ok g) (hn : n ∈ g.models)
    (inherits : g.Inherits n a) : a ∈ g.models := by
  obtain ⟨members, chain, models⟩ := exists_chain h hn
  exact models a (chain.mem_iff.mpr inherits)

end ContractClient.Catalog
