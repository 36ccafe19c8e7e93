import ContractClient.Proofs.Catalog.Order
import Mathlib.Data.Prod.Lex

/-!
# The order of a catalog in closed form

A scan takes a model if its base is taken already, perhaps earlier in the same scan.
So the scan in which a model is taken depends on how the places of the models
interleave along its chain of bases.  `Pass` counts this: a root is taken in the first
scan, and any other model in the scan of its base, or in the one after it if its base
stands further behind.

The argument is about one scan.  Before the scan of number `k` the taken models are
those of a smaller number, and within it those of number `k` that stand in front are
taken too.  With these a model of number `k` or more is ready exactly if its number is
`k` (`isReady_iff`).  So the scan appends the models of its number in their order
(`scan_pass`), and the catalog lists the models by number and then by place
(`models_eq_takenBefore`, `models_sorted_by_pass`).
-/

namespace ContractClient.Catalog

/-! ## Numbers of scans -/

/-- The number of the scan in which a model is taken: that of the scan of its base, and
one more if its base stands behind it. -/
inductive Pass (models : List Model) : Model → Nat → Prop where
  /-- A root waits for nothing. -/
  | root {n : Model} (isRoot : n.IsRoot) : Pass models n 0
  /-- Any other model waits for its base. -/
  | step {n b : Model} {k : Nat} (base : baseIn models n = some b) (pass : Pass models b k) :
      Pass models n (k + if models.idxOf n < models.idxOf b then 1 else 0)

section Numbers

variable {models : List Model} {n b : Model} {k : Nat}

theorem baseIn_of_isRoot (h : n.IsRoot) : baseIn models n = none := by
  rw [baseIn, Option.bind_eq_none_iff]
  intro r base
  rw [resolveIn, lookUp, h r base, if_pos rfl]

theorem Pass.unique {k' : Nat} (h : Pass models n k) (h' : Pass models n k') : k = k' := by
  induction h generalizing k' with
  | root isRoot =>
      cases h' with
      | root => rfl
      | step base => rw [baseIn_of_isRoot isRoot] at base; cases base
  | step base _ ih =>
      cases h' with
      | root isRoot => rw [baseIn_of_isRoot isRoot] at base; cases base
      | step base' pass' =>
          rw [base] at base'
          cases base'
          rw [ih pass']

/-- A chain that reaches a root gives a number. -/
theorem Rooted.exists_pass (h : Rooted models n) : ∃ k, Pass models n k := by
  induction h with
  | root isRoot => exact ⟨0, .root isRoot⟩
  | step base _ ih =>
      obtain ⟨k, pass⟩ := ih
      exact ⟨_, .step base pass⟩

theorem Pass.rooted (h : Pass models n k) : Rooted models n := by
  induction h with
  | root isRoot => exact .root isRoot
  | step base _ ih => exact .step base ih

/-- A model with a number is not its own base. -/
theorem Pass.base_ne (h : Pass models n k) (base : baseIn models n = some b) : b ≠ n := by
  induction h generalizing b with
  | root isRoot => rw [baseIn_of_isRoot isRoot] at base; cases base
  | step base' _ ih =>
      rw [base'] at base
      cases base
      rintro rfl
      exact ih base' rfl

end Numbers

/-! ## One scan -/

/-- The models whose numbers are smaller than a given one, by number and then by
place. -/
def takenBefore (models : List Model) (pass : Model → Nat) (k : Nat) : List Model :=
  (List.range k).flatMap fun j => models.filter (pass · = j)

section Scan

variable {awaited : Model → Option String} {models : List Model} {pass : Model → Nat}

theorem mem_takenBefore {k : Nat} {m : Model} :
    m ∈ takenBefore models pass k ↔ m ∈ models ∧ pass m < k := by
  simp only [takenBefore, List.mem_flatMap, List.mem_range, List.mem_filter, decide_eq_true_eq]
  constructor
  · rintro ⟨j, hj, hm, rfl⟩
    exact ⟨hm, hj⟩
  · rintro ⟨hm, hk⟩
    exact ⟨pass m, hk, hm, rfl⟩

theorem takenBefore_succ (k : Nat) :
    takenBefore models pass (k + 1) =
      takenBefore models pass k ++ models.filter (pass · = k) := by
  simp [takenBefore, List.range_succ]

/-- Behind the largest number there is nothing more to take. -/
theorem takenBefore_add {k : Nat} (all : ∀ n ∈ models, pass n < k) (j : Nat) :
    takenBefore models pass (k + j) = takenBefore models pass k := by
  induction j with
  | zero => rfl
  | succ j ih =>
      have none : models.filter (pass · = k + j) = [] := by
        rw [List.filter_eq_nil_iff]
        intro n hn
        have := all n hn
        simp only [decide_eq_true_eq]
        omega
      rw [← Nat.add_assoc, takenBefore_succ, none, List.append_nil, ih]

/-- Among models of a number or more, those of this number are ready, when the models
of smaller numbers are taken, and those of this number that stand in front. -/
theorem isReady_iff (awaits : Awaits awaited models) (nodup : (models.map Model.name).Nodup)
    (passes : ∀ n ∈ models, Pass models n (pass n)) {ready : List Model} {n : Model} {k : Nat}
    (hn : n ∈ models) (least : k ≤ pass n)
    (taken : ∀ m, m ∈ ready ↔
      m ∈ models ∧ (pass m < k ∨ pass m = k ∧ models.idxOf m < models.idxOf n)) :
    IsReady awaited ready n ↔ pass n = k := by
  generalize hpass : pass n = number at least ⊢
  have passed := hpass ▸ passes n hn
  cases passed with
  | root isRoot =>
      have ready : IsReady awaited ready n := by
        intro name hname
        rw [(awaits.root n).mpr isRoot] at hname
        cases hname
      exact iff_of_true ready (by omega)
  | @step _ b j base passed =>
      have hb := mem_of_baseIn base
      have awaitsBase := (awaits.base n b hb).mpr base
      have apart : models.idxOf b ≠ models.idxOf n := fun same =>
        (passes n hn).base_ne base ((List.idxOf_inj hb).mp same)
      have number : pass b = j := (passes b hb).unique passed
      have readyIff : IsReady awaited ready n ↔ b ∈ ready := by
        constructor
        · intro h
          exact base_mem_of_ready awaits nodup (fun m hm => ((taken m).mp hm).1) h base
        · intro there name hname
          rw [awaitsBase, Option.some.injEq] at hname
          exact hname ▸ List.mem_map_of_mem there
      rw [readyIff, taken b, and_iff_right hb, number]
      by_cases behind : models.idxOf n < models.idxOf b
      · rw [if_pos behind] at least ⊢
        omega
      · rw [if_neg behind] at least ⊢
        omega

/-- What stands in front of a model is found at smaller places. -/
theorem mem_front_iff {front rest : List Model} {n m : Model}
    (nodup : (front ++ n :: rest).Nodup) :
    m ∈ front ↔ (front ++ n :: rest).idxOf m < (front ++ n :: rest).idxOf n := by
  have absent : n ∉ front := fun there =>
    (List.nodup_append.mp nodup).2.2 n there n List.mem_cons_self rfl
  rw [List.idxOf_append_of_notMem absent, List.idxOf_cons_self, Nat.add_zero]
  constructor
  · intro there
    rw [List.idxOf_append_of_mem there]
    exact List.idxOf_lt_length_of_mem there
  · intro before
    by_contra there
    rw [List.idxOf_append_of_notMem there] at before
    omega

/-- The models that are taken when a scan comes to a model. -/
theorem mem_taken_iff {front rest : List Model} {n : Model} (nodup : models.Nodup)
    (split : models = front ++ n :: rest) (k : Nat) (m : Model) :
    m ∈ takenBefore models pass k ++ front.filter (pass · = k) ↔
      m ∈ models ∧ (pass m < k ∨ pass m = k ∧ models.idxOf m < models.idxOf n) := by
  have inFront : m ∈ front ↔ models.idxOf m < models.idxOf n :=
    split ▸ mem_front_iff (split ▸ nodup)
  have listed : m ∈ front → m ∈ models := fun there => split ▸ List.mem_append_left _ there
  rw [List.mem_append, mem_takenBefore, List.mem_filter, decide_eq_true_eq, ← inFront]
  tauto

/-- The scan of number `k` takes the models of this number, in their order. -/
theorem scan_pass (awaits : Awaits awaited models) (nodup : (models.map Model.name).Nodup)
    (passes : ∀ n ∈ models, Pass models n (pass n)) (k : Nat) :
    scan awaited (models.filter (k ≤ pass ·)) (takenBefore models pass k) =
      (takenBefore models pass (k + 1), models.filter (k + 1 ≤ pass ·)) := by
  -- What is scanned already stands in front of the rest.
  suffices part : ∀ rest front, models = front ++ rest →
      scan awaited (rest.filter (k ≤ pass ·))
          (takenBefore models pass k ++ front.filter (pass · = k)) =
        (takenBefore models pass (k + 1), rest.filter (k + 1 ≤ pass ·)) by
    simpa using part models [] rfl
  intro rest
  induction rest with
  | nil =>
      intro front split
      rw [List.append_nil] at split
      rw [List.filter_nil, List.filter_nil, scan, takenBefore_succ, ← split]
  | cons n rest ih =>
      intro front split
      have hn : n ∈ models := split ▸ List.mem_append_right _ List.mem_cons_self
      have later := ih (front ++ [n]) (by rw [split, List.append_assoc, List.singleton_append])
      rw [List.filter_append] at later
      rcases Nat.lt_trichotomy (pass n) k with earlier | now | waits
      · -- An earlier scan took the model.
        have gone : ¬ k ≤ pass n := by omega
        have gone' : ¬ k + 1 ≤ pass n := by omega
        rw [List.filter_cons_of_neg (by simpa using gone),
          List.filter_cons_of_neg (by simpa using gone')]
        simpa [Nat.ne_of_lt earlier] using later
      · have ready := (isReady_iff awaits nodup passes hn (Nat.le_of_eq now.symm)
          (mem_taken_iff (.of_map _ nodup) split k)).mpr now
        rw [List.filter_cons_of_pos (by simp [now]), List.filter_cons_of_neg (by simp [now]),
          scan_cons_of_ready ready, List.append_assoc]
        simpa [now] using later
      · have notReady := mt (isReady_iff awaits nodup passes hn (Nat.le_of_lt waits)
          (mem_taken_iff (.of_map _ nodup) split k)).mp (Nat.ne_of_gt waits)
        rw [List.filter_cons_of_pos (by simpa using Nat.le_of_lt waits),
          List.filter_cons_of_pos (by simpa using Nat.succ_le_of_lt waits),
          scan_cons_of_not_ready notReady]
        have unchanged : [n].filter (pass · = k) = [] := by simp [Nat.ne_of_gt waits]
        rw [unchanged, List.append_nil] at later
        rw [later]

/-! ## All scans -/

/-- Scans that take every model take them by number. -/
theorem order_pass (awaits : Awaits awaited models) (nodup : (models.map Model.name).Nodup)
    (passes : ∀ n ∈ models, Pass models n (pass n)) {pending ready ordered : List Model}
    (h : order awaited pending ready = .ok ordered) :
    ∀ k, pending = models.filter (k ≤ pass ·) → ready = takenBefore models pass k →
      ∃ last, ordered = takenBefore models pass last ∧ ∀ n ∈ models, pass n < last := by
  fun_induction order awaited pending ready with
  | case1 pending ready hempty =>
      intro k hpending hready
      cases h
      refine ⟨k, hready, ?_⟩
      intro n hn
      rw [hpending, List.isEmpty_iff, List.filter_eq_nil_iff] at hempty
      simpa using hempty n hn
  | case2 pending ready hne next hshorter ih =>
      intro k hpending hready
      have scanned : next = (takenBefore models pass (k + 1), models.filter (k + 1 ≤ pass ·)) := by
        rw [← scan_pass awaits nodup passes k, ← hpending, ← hready]
      exact ih h (k + 1) (congrArg Prod.snd scanned) (congrArg Prod.fst scanned)
  | case3 pending ready hne next hstuck => cases h

end Scan

theorem pairwise_idxOf {models : List Model} (nodup : models.Nodup) :
    models.Pairwise fun a b => models.idxOf a < models.idxOf b := by
  rw [List.pairwise_iff_getElem]
  intro i j hi hj before
  rw [nodup.idxOf_getElem i hi, nodup.idxOf_getElem j hj]
  exact before

theorem pairwise_takenBefore {models : List Model} (nodup : models.Nodup) (pass : Model → Nat)
    (k : Nat) :
    (takenBefore models pass k).Pairwise fun a b =>
      toLex (pass a, models.idxOf a) < toLex (pass b, models.idxOf b) := by
  simp only [Prod.Lex.toLex_lt_toLex]
  rw [takenBefore, List.pairwise_flatMap]
  constructor
  · intro j _
    refine ((pairwise_idxOf nodup).filter _).imp_of_mem ?_
    intro a b ha hb before
    have ha : pass a = j := by simpa using (List.mem_filter.mp ha).2
    have hb : pass b = j := by simpa using (List.mem_filter.mp hb).2
    exact Or.inr ⟨ha.trans hb.symm, before⟩
  · refine List.pairwise_lt_range.imp ?_
    intro i j less a ha b hb
    have ha : pass a = i := by simpa using (List.mem_filter.mp ha).2
    have hb : pass b = j := by simpa using (List.mem_filter.mp hb).2
    exact Or.inl (by omega)

/-! ## Catalogs -/

section Built

variable {decls : List ClassDecl} {g : Catalog}

/-- In a catalog that was built every registered model has a number. -/
theorem exists_pass_of_build (h : build decls = .ok g) :
    ∃ pass : Model → Nat, ∀ n ∈ registered decls, Pass (registered decls) n (pass n) := by
  have numbered : ∀ n, ∃ k, n ∈ registered decls → Pass (registered decls) n k := by
    intro n
    by_cases hn : n ∈ registered decls
    · obtain ⟨k, pass⟩ := ((exists_build_iff decls).mp ⟨g, h⟩ n hn).exists_pass
      exact ⟨k, fun _ => pass⟩
    · exact ⟨0, fun there => absurd there hn⟩
  exact Classical.skolem.mp numbered

theorem nodup_registered (decls : List ClassDecl) : (registered decls).Nodup :=
  .of_map _ (nodup_registered_names decls)

/-- The catalog lists the registered models by number and then by place. -/
theorem models_eq_takenBefore (h : build decls = .ok g) {pass : Model → Nat}
    (passes : ∀ n ∈ registered decls, Pass (registered decls) n (pass n)) :
    ∃ last, g.models = takenBefore (registered decls) pass last ∧
      ∀ n ∈ registered decls, pass n < last := by
  rw [build, values_register] at h
  cases hordered : order (awaitedName (register decls)) (registered decls) [] with
  | error names => rw [hordered] at h; cases h
  | ok ordered =>
      rw [hordered] at h
      cases h
      exact order_pass (awaits_register decls) (nodup_registered_names decls) passes hordered 0
        (by simp) rfl

/-- The models of a catalog are the registered ones, sorted by the number of the scan
that takes them and then by the place of their registration.  Where every base is
registered before its subclasses, they keep the order of registration. -/
theorem models_sorted_by_pass (h : build decls = .ok g) :
    ∃ pass : Model → Nat,
      (∀ n ∈ registered decls, ∀ k, Pass (registered decls) n k ↔ pass n = k) ∧
      g.models.Perm (registered decls) ∧
      g.models.Pairwise (fun a b =>
        toLex (pass a, (registered decls).idxOf a) < toLex (pass b, (registered decls).idxOf b)) ∧
      ((∀ n ∈ registered decls, ∀ b, baseIn (registered decls) n = some b →
          (registered decls).idxOf b < (registered decls).idxOf n) →
        g.models = registered decls) := by
  obtain ⟨pass, passes⟩ := exists_pass_of_build h
  obtain ⟨last, models, -⟩ := models_eq_takenBefore h passes
  have perm := models_perm_of_build h
  have sorted := models ▸ pairwise_takenBefore (nodup_registered decls) pass last
  refine ⟨pass, ?_, perm, sorted, ?_⟩
  · intro n hn k
    constructor
    · intro number
      exact (passes n hn).unique number
    · rintro rfl
      exact passes n hn
  · intro basesFirst
    have first : ∀ n ∈ registered decls, pass n = 0 := by
      intro n hn
      have rooted := (exists_build_iff decls).mp ⟨g, h⟩ n hn
      induction rooted with
      | root isRoot => exact (passes _ hn).unique (.root isRoot)
      | @step n b base _ ih =>
          have hb := mem_of_baseIn base
          have number := (passes n hn).unique (.step base (passes b hb))
          rw [if_neg (Nat.lt_asymm (basesFirst n hn b base)), ih hb] at number
          exact number
    -- All models are of the first scan, so both lists are sorted by place.
    refine perm.eq_of_pairwise ?_ sorted ?_
    · intro a b _ _ less less'
      exact absurd less' (lt_asymm less)
    · refine (pairwise_idxOf (nodup_registered decls)).imp_of_mem ?_
      intro a b ha hb before
      rw [Prod.Lex.toLex_lt_toLex]
      exact Or.inr ⟨(first a ha).trans (first b hb).symm, before⟩

/-- Classes whose chains go forward and backward through the list. -/
def ladderClasses : List ClassDecl :=
  [{ name := "Rung", base := some "Rail" }, { name := "Foot", base := some "Rung" },
   { name := "Rail", base := some "Wood" }, { name := "Step", base := some "Wood" },
   { name := "Wood" }, { name := "Knob", base := some "Step" }]

/-- The registered model of a class of the ladder, under its place in the list. -/
def ladderModel (i : Fin 6) : Model := modelOf (classNames ladderClasses) (ladderClasses.get i)

/-- Wood is taken in the first scan and the rail in the second.  The rung stands in front
of the rail and has to wait for the third, in which the foot behind it is taken
too. -/
theorem models_of_ladder :
    ∃ g, ∃ pass : Model → Nat, build ladderClasses = .ok g ∧
      g.names = ["Wood", "Rail", "Step", "Knob", "Rung", "Foot"] ∧
      g.models.Pairwise (fun a b => toLex (pass a, (registered ladderClasses).idxOf a) <
        toLex (pass b, (registered ladderClasses).idxOf b)) ∧
      pass (ladderModel 4) = 0 ∧ pass (ladderModel 2) = 1 ∧ pass (ladderModel 0) = 2 ∧
      pass (ladderModel 1) = 2 := by
  have names : (build ladderClasses).toOption.map Catalog.names =
      some ["Wood", "Rail", "Step", "Knob", "Rung", "Foot"] := by decide +kernel
  have models : registered ladderClasses = List.ofFn ladderModel := by decide +kernel
  have bases : [ladderModel 2, ladderModel 0, ladderModel 1].map
      (baseIn (registered ladderClasses)) =
        [some (ladderModel 4), some (ladderModel 2), some (ladderModel 0)] := by decide +kernel
  have places : [4, 2, 0, 1].map (fun i => (registered ladderClasses).idxOf (ladderModel i)) =
      [4, 2, 0, 1] := by decide +kernel
  simp only [List.map_cons, List.map_nil, List.cons.injEq, and_true] at bases places
  obtain ⟨baseOfRail, baseOfRung, baseOfFoot⟩ := bases
  cases built : build ladderClasses with
  | error unrooted => rw [built] at names; cases names
  | ok g =>
      rw [built] at names
      obtain ⟨pass, number, -, sorted, -⟩ := models_sorted_by_pass built
      have member : ∀ i, ladderModel i ∈ registered ladderClasses := by
        intro i
        rw [models]
        exact List.mem_ofFn.mpr ⟨i, rfl⟩
      have wood : Pass (registered ladderClasses) (ladderModel 4) 0 :=
        .root fun r base => by cases base
      have rail := Pass.step baseOfRail wood
      have rung := Pass.step baseOfRung rail
      have foot := Pass.step baseOfFoot rung
      simp only [places] at rail rung foot
      exact ⟨g, pass, rfl, Option.some.inj names, sorted, (number _ (member 4) 0).mp wood,
        (number _ (member 2) 1).mp rail, (number _ (member 0) 2).mp rung,
        (number _ (member 1) 2).mp foot⟩

end Built

end ContractClient.Catalog
