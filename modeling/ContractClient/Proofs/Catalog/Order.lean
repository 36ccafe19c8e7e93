import ContractClient.Proofs.Catalog.Registration

/-!
# Bases before subclasses

The order of a catalog, compared with the chains of bases.  `Rooted` says that
the chain of a model reaches a root: a model without a base, or with a primitive
one.  A model whose chain runs into a cycle or into a class that is not there is
not rooted.

Scans move models from the pending ones to the taken ones.  `Progress` is what
holds between two scans.  The taken models are rooted and stand behind their
bases, the pending ones are in order of registration, and nothing is lost.  A
scan that takes nothing leaves only models that wait for one another or for
nothing that is there, and none of these is rooted (`not_rooted_of_stuck`).

`build_orders_bases` puts this together.  A catalog is built exactly if every
registered model is rooted, it holds the registered models with every base in
front, and otherwise the error names the models that are not rooted.
-/

namespace ContractClient

/-- A model without a base, or with a primitive one. -/
def Model.IsRoot (n : Model) : Prop := ∀ r, n.baseType = some r → r.isPrimitive = true

namespace Catalog

/-- The chain of bases from a model reaches a root. -/
inductive Rooted (models : List Model) : Model → Prop where
  /-- The model is a root itself. -/
  | root {n : Model} (isRoot : n.IsRoot) : Rooted models n
  /-- The chain goes on with the base of the model. -/
  | step {n b : Model} (base : baseIn models n = some b) (rooted : Rooted models b) :
      Rooted models n

/-! ## What a model waits for -/

/-- A function that gives the name of the base each model waits for.  Only roots
wait for nothing. -/
structure Awaits (awaited : Model → Option String) (models : List Model) : Prop where
  root : ∀ n, awaited n = none ↔ n.IsRoot
  base : ∀ n, ∀ b ∈ models, awaited n = some b.name ↔ baseIn models n = some b

theorem awaitedName_eq_none_iff (models : Entries Model) (n : Model) :
    awaitedName models n = none ↔ n.IsRoot := by
  rw [awaitedName, Model.IsRoot]
  cases n.baseType with
  | none => simp
  | some r => simp

/-- The awaited name of a base that is not primitive. -/
theorem awaitedName_of_base {decls : List ClassDecl} {n : Model} {r : TypeRef}
    (hbase : n.baseType = some r) (hr : r.isPrimitive = false) :
    awaitedName (register decls) n =
      some (((baseIn (registered decls) n).map Model.name).getD r.name) := by
  rw [awaitedName, hbase, registeredBase_eq, Option.bind_some, hr]
  rfl

/-- A registered class waits for the name of its base. -/
theorem awaits_register (decls : List ClassDecl) :
    Awaits (awaitedName (register decls)) (registered decls) where
  root n := awaitedName_eq_none_iff _ n
  base n b hb := by
    have nodup := nodup_registered_names decls
    constructor
    · intro h
      obtain ⟨r, hbase, hr⟩ := Option.bind_eq_some_iff.mp h
      have notPrimitive : r.isPrimitive = false := by
        cases hp : r.isPrimitive with
        | false => rfl
        | true => simp [hp] at hr
      rw [awaitedName_of_base hbase notPrimitive, Option.some.injEq] at h
      cases hfound : baseIn (registered decls) n with
      | some b' =>
          rw [hfound, Option.map_some, Option.getD_some] at h
          rw [List.inj_on_of_nodup_map nodup (mem_of_baseIn hfound) hb h]
      | none =>
          -- A model with the full name of the reference would have been found.
          rw [hfound, Option.map_none, Option.getD_none] at h
          have found := resolveIn_of_name nodup notPrimitive hb h.symm
          rw [baseIn, hbase, Option.bind_some, found] at hfound
          cases hfound
    · intro h
      obtain ⟨r, hbase, hr⟩ := Option.bind_eq_some_iff.mp h
      have notPrimitive : r.isPrimitive = false := by
        cases hp : r.isPrimitive with
        | false => rfl
        | true => simp [resolveIn, lookUp, hp] at hr
      rw [awaitedName_of_base hbase notPrimitive, h, Option.map_some, Option.getD_some]

/-! ## One scan -/

/-- A model that waits for nothing, or for a model that is taken. -/
def IsReady (awaited : Model → Option String) (ready : List Model) (n : Model) : Prop :=
  ∀ name, awaited n = some name → name ∈ ready.map Model.name

section Scan

variable {awaited : Model → Option String} {models : List Model}

theorem scan_cons_of_ready {n : Model} {pending ready : List Model}
    (h : IsReady awaited ready n) :
    scan awaited (n :: pending) ready = scan awaited pending (ready ++ [n]) := by
  cases hn : awaited n with
  | none => simp [scan, hn]
  | some name =>
      have listed : name ∈ ready.map Model.name := h name hn
      have found : (ready.map Model.name).contains name = true := by simpa using listed
      simp only [scan, hn, found, if_true]

theorem scan_cons_of_not_ready {n : Model} {pending ready : List Model}
    (h : ¬ IsReady awaited ready n) :
    scan awaited (n :: pending) ready =
      ((scan awaited pending ready).1, n :: (scan awaited pending ready).2) := by
  cases hn : awaited n with
  | none => exact absurd (fun name he => by rw [hn] at he; cases he) h
  | some name =>
      have absent : ¬ name ∈ ready.map Model.name := by
        intro listed
        apply h
        intro name' he
        rw [hn] at he
        cases he
        exact listed
      have missed : (ready.map Model.name).contains name = false := by simpa using absent
      simp only [scan, hn, missed]
      rfl

/-- A scan loses nothing and adds nothing. -/
theorem scan_perm (pending ready : List Model) :
    ((scan awaited pending ready).1 ++ (scan awaited pending ready).2).Perm (ready ++ pending) := by
  induction pending generalizing ready with
  | nil => exact List.Perm.refl _
  | cons n pending ih =>
      by_cases h : IsReady awaited ready n
      · rw [scan_cons_of_ready h]
        have taken := ih (ready ++ [n])
        rw [List.append_assoc, List.singleton_append] at taken
        exact taken
      · rw [scan_cons_of_not_ready h]
        exact List.perm_middle.trans (((ih ready).cons n).trans List.perm_middle.symm)

/-- What a scan leaves keeps its order. -/
theorem scan_sublist (pending ready : List Model) :
    (scan awaited pending ready).2.Sublist pending := by
  induction pending generalizing ready with
  | nil => exact List.Sublist.refl _
  | cons n pending ih =>
      by_cases h : IsReady awaited ready n
      · rw [scan_cons_of_ready h]
        exact (ih _).trans (List.sublist_cons_self n pending)
      · rw [scan_cons_of_not_ready h]
        exact (ih ready).cons_cons n

/-- What holds of the taken models and is kept whenever a ready model is taken
holds after a scan. -/
theorem scan_induct {P : List Model → Prop} {pending ready : List Model} (start : P ready)
    (take : ∀ ready, ∀ n ∈ pending, IsReady awaited ready n → P ready → P (ready ++ [n])) :
    P (scan awaited pending ready).1 := by
  induction pending generalizing ready with
  | nil => exact start
  | cons n pending ih =>
      have rest : ∀ ready, ∀ m ∈ pending, IsReady awaited ready m → P ready → P (ready ++ [m]) :=
        fun ready m hm => take ready m (List.mem_cons_of_mem _ hm)
      by_cases h : IsReady awaited ready n
      · rw [scan_cons_of_ready h]
        exact ih (take ready n (List.mem_cons_self ..) h start) rest
      · rw [scan_cons_of_not_ready h]
        exact ih start rest

/-- A scan that takes nothing changes nothing, and found no model ready. -/
theorem scan_of_stuck {pending ready : List Model}
    (h : ¬ (scan awaited pending ready).2.length < pending.length) :
    scan awaited pending ready = (ready, pending) ∧
      ∀ n ∈ pending, ¬ IsReady awaited ready n := by
  induction pending generalizing ready with
  | nil => exact ⟨rfl, fun n hn => absurd hn List.not_mem_nil⟩
  | cons n pending ih =>
      by_cases hn : IsReady awaited ready n
      · rw [scan_cons_of_ready hn] at h
        have shorter : (scan awaited pending (ready ++ [n])).2.length ≤ pending.length :=
          (scan_sublist pending (ready ++ [n])).length_le
        rw [List.length_cons] at h
        omega
      · rw [scan_cons_of_not_ready hn] at h ⊢
        simp only [List.length_cons, Nat.add_lt_add_iff_right] at h
        obtain ⟨same, waiting⟩ := ih h
        rw [same]
        refine ⟨rfl, fun m hm => ?_⟩
        cases List.mem_cons.mp hm with
        | inl he => exact he ▸ hn
        | inr hm => exact waiting m hm

end Scan

/-! ## What holds between scans -/

/-- The taken models are among the given ones, are rooted, and stand behind their
bases. -/
structure Sound (models ready : List Model) : Prop where
  subset : ∀ n ∈ ready, n ∈ models
  rooted : ∀ n ∈ ready, Rooted models n
  ordered : ∀ before n after, ready = before ++ n :: after →
    ∀ b, baseIn models n = some b → b ∈ before

theorem sound_nil (models : List Model) : Sound models [] where
  subset := fun n hn => absurd hn List.not_mem_nil
  rooted := fun n hn => absurd hn List.not_mem_nil
  ordered := fun before n after h => by simp at h

section Invariant

variable {awaited : Model → Option String} {models : List Model}

/-- A ready model waits for a base that is taken. -/
theorem base_mem_of_ready (awaits : Awaits awaited models)
    (nodup : (models.map Model.name).Nodup) {ready : List Model}
    (subset : ∀ n ∈ ready, n ∈ models) {n b : Model} (h : IsReady awaited ready n)
    (base : baseIn models n = some b) : b ∈ ready := by
  have hb := mem_of_baseIn base
  obtain ⟨b', hb', hname⟩ := List.mem_map.mp (h b.name ((awaits.base n b hb).mpr base))
  rw [← List.inj_on_of_nodup_map nodup (subset b' hb') hb hname]
  exact hb'

/-- Taking a ready model keeps the taken models sound. -/
theorem sound_take (awaits : Awaits awaited models) (nodup : (models.map Model.name).Nodup)
    {ready : List Model} (sound : Sound models ready) {n : Model} (hn : n ∈ models)
    (h : IsReady awaited ready n) : Sound models (ready ++ [n]) where
  subset := by
    intro m hm
    rcases List.mem_append.mp hm with hm | hm
    · exact sound.subset m hm
    · rw [List.mem_singleton.mp hm]
      exact hn
  rooted := by
    intro m hm
    rcases List.mem_append.mp hm with hm | hm
    · exact sound.rooted m hm
    · rw [List.mem_singleton.mp hm]
      cases hawaited : awaited n with
      | none => exact .root ((awaits.root n).mp hawaited)
      | some name =>
          obtain ⟨b, hb, rfl⟩ := List.mem_map.mp (h name hawaited)
          have base := (awaits.base n b (sound.subset b hb)).mp hawaited
          exact .step base (sound.rooted b hb)
  ordered := by
    intro before m after he b base
    rcases List.eq_nil_or_concat after with rfl | ⟨after', last, rfl⟩
    · -- The model is the one that is taken.
      obtain ⟨rfl, hm⟩ := List.append_inj' he rfl
      cases hm
      exact base_mem_of_ready awaits nodup sound.subset h base
    · have split : ready ++ [n] = (before ++ m :: after') ++ [last] := by
        simpa using he
      obtain ⟨hready, -⟩ := List.append_inj' split rfl
      exact sound.ordered before m after' hready b base

/-- What holds between two scans. -/
structure Progress (models ready pending : List Model) : Prop where
  sound : Sound models ready
  perm : (ready ++ pending).Perm models
  sublist : pending.Sublist models

theorem progress_start (models : List Model) : Progress models [] models where
  sound := sound_nil models
  perm := List.Perm.refl _
  sublist := List.Sublist.refl _

/-- A scan keeps what holds between scans. -/
theorem progress_scan (awaits : Awaits awaited models) (nodup : (models.map Model.name).Nodup)
    {ready pending : List Model} (progress : Progress models ready pending) :
    Progress models (scan awaited pending ready).1 (scan awaited pending ready).2 where
  sound := by
    apply scan_induct progress.sound
    intro ready n hn h sound
    exact sound_take awaits nodup sound (progress.sublist.subset hn) h
  perm := (scan_perm pending ready).trans progress.perm
  sublist := (scan_sublist pending ready).trans progress.sublist

/-- Where no pending model is ready, none is rooted: a chain that reaches a root
has to leave the pending models. -/
theorem not_rooted_of_stuck (awaits : Awaits awaited models) {ready pending : List Model}
    (progress : Progress models ready pending)
    (stuck : ∀ n ∈ pending, ¬ IsReady awaited ready n) :
    ∀ n ∈ pending, ¬ Rooted models n := by
  intro n hn rooted
  induction rooted with
  | root isRoot =>
      apply stuck _ hn
      intro name hname
      rw [(awaits.root _).mpr isRoot] at hname
      cases hname
  | @step n b base _ ih =>
      have hb := mem_of_baseIn base
      rcases List.mem_append.mp (progress.perm.mem_iff.mpr hb) with taken | waiting
      · apply stuck n hn
        intro name hname
        rw [(awaits.base n b hb).mpr base, Option.some.injEq] at hname
        rw [← hname]
        exact List.mem_map_of_mem taken
      · exact ih waiting

open scoped Classical in
/-- The pending models of a scan that takes nothing are the models that are not
rooted, in order. -/
theorem pending_eq_filter (awaits : Awaits awaited models) {ready pending : List Model}
    (progress : Progress models ready pending)
    (stuck : ∀ n ∈ pending, ¬ IsReady awaited ready n) :
    pending = models.filter fun n => ¬ Rooted models n := by
  have unrooted := not_rooted_of_stuck awaits progress stuck
  have dropped : ready.filter (fun n => ¬ Rooted models n) = [] := by
    rw [List.filter_eq_nil_iff]
    intro n hn
    simpa using progress.sound.rooted n hn
  have kept : pending.filter (fun n => ¬ Rooted models n) = pending := by
    rw [List.filter_eq_self]
    intro n hn
    simpa using unrooted n hn
  have sublist := progress.sublist.filter fun n => ¬ Rooted models n
  have same := (progress.perm.filter fun n => ¬ Rooted models n).length_eq
  rw [List.filter_append, dropped, List.nil_append] at same
  rw [← sublist.eq_of_length same]
  exact kept.symm

/-! ## Scans until the end -/

/-- If every model is taken, nothing is pending. -/
theorem progress_of_order_ok (awaits : Awaits awaited models)
    (nodup : (models.map Model.name).Nodup) {pending ready ordered : List Model}
    (progress : Progress models ready pending)
    (h : order awaited pending ready = .ok ordered) : Progress models ordered [] := by
  fun_induction order awaited pending ready with
  | case1 pending ready hempty =>
      cases h
      rw [List.isEmpty_iff.mp hempty] at progress
      exact progress
  | case2 pending ready hpending next hshorter ih =>
      exact ih (progress_scan awaits nodup progress) h
  | case3 pending ready hpending next hstuck => cases h

open scoped Classical in
/-- If a scan takes nothing, the error names the models that are not rooted, of
which there is one. -/
theorem names_of_order_error (awaits : Awaits awaited models)
    (nodup : (models.map Model.name).Nodup) {pending ready : List Model} {names : List String}
    (progress : Progress models ready pending)
    (h : order awaited pending ready = .error names) :
    names = (models.filter fun n => ¬ Rooted models n).map Model.name ∧
      ∃ n ∈ models, ¬ Rooted models n := by
  fun_induction order awaited pending ready with
  | case1 pending ready hempty => cases h
  | case2 pending ready hpending next hshorter ih =>
      exact ih (progress_scan awaits nodup progress) h
  | case3 pending ready hpending next hstuck =>
      obtain ⟨same, stuck⟩ := scan_of_stuck hstuck
      have unrooted := pending_eq_filter awaits progress stuck
      cases h
      constructor
      · rw [← unrooted]
        show (scan awaited pending ready).2.map Model.name = _
        rw [same]
      · obtain ⟨n, hn⟩ := List.exists_mem_of_ne_nil pending (by simpa using hpending)
        exact ⟨n, progress.sublist.subset hn, not_rooted_of_stuck awaits progress stuck n hn⟩

end Invariant

/-! ## The catalog -/

/-- What building a catalog gives. -/
theorem progress_of_build {decls : List ClassDecl} {g : Catalog} (h : build decls = .ok g) :
    Progress (registered decls) g.models [] ∧ g.classMap = meanings decls ∧
      g.byLocal = indexByLocalName (registered decls) := by
  rw [build, values_register] at h
  cases hordered : order (awaitedName (register decls)) (registered decls) [] with
  | error names => rw [hordered] at h; cases h
  | ok ordered =>
      rw [hordered] at h
      cases h
      exact ⟨progress_of_order_ok (awaits_register decls) (nodup_registered_names decls)
        (progress_start _) hordered, rfl, rfl⟩

theorem models_perm_of_build {decls : List ClassDecl} {g : Catalog} (h : build decls = .ok g) :
    g.models.Perm (registered decls) := by
  have perm := (progress_of_build h).1.perm
  rw [List.append_nil] at perm
  exact perm

theorem nodup_names_of_build {decls : List ClassDecl} {g : Catalog} (h : build decls = .ok g) :
    g.names.Nodup :=
  ((models_perm_of_build h).map Model.name).nodup_iff.mpr (nodup_registered_names decls)

/-- References lead in the catalog where they lead among the registered models. -/
theorem find?_of_build {decls : List ClassDecl} {g : Catalog} (h : build decls = .ok g)
    (r : TypeRef) : g.find? r = resolveIn (registered decls) r :=
  find?_eq_resolveIn (models_perm_of_build h) (nodup_registered_names decls)
    (progress_of_build h).2.2 r

theorem parent?_of_build {decls : List ClassDecl} {g : Catalog} (h : build decls = .ok g)
    (n : Model) : g.parent? n = baseIn (registered decls) n := by
  rw [parent?, baseIn, funext (find?_of_build h)]

open scoped Classical in
theorem names_of_build_error {decls : List ClassDecl} {names : List String}
    (h : build decls = .error names) :
    names = ((registered decls).filter fun n => ¬ Rooted (registered decls) n).map Model.name ∧
      ∃ n ∈ registered decls, ¬ Rooted (registered decls) n := by
  rw [build, values_register] at h
  cases hordered : order (awaitedName (register decls)) (registered decls) [] with
  | ok ordered => rw [hordered] at h; cases h
  | error stuck =>
      rw [hordered] at h
      cases h
      exact names_of_order_error (awaits_register decls) (nodup_registered_names decls)
        (progress_start _) hordered

/-- A catalog is built exactly if every registered model is rooted. -/
theorem exists_build_iff (decls : List ClassDecl) :
    (∃ g, build decls = .ok g) ↔ ∀ n ∈ registered decls, Rooted (registered decls) n := by
  constructor
  · rintro ⟨g, h⟩ n hn
    exact (progress_of_build h).1.sound.rooted n ((models_perm_of_build h).mem_iff.mpr hn)
  · intro rooted
    cases h : build decls with
    | ok g => exact ⟨g, rfl⟩
    | error names =>
        obtain ⟨-, n, hn, unrooted⟩ := names_of_build_error h
        exact absurd (rooted n hn) unrooted

open scoped Classical in
/-- The catalog of a list of classes.  It is built exactly if the chain of every
registered model reaches a root.  Then it holds the registered models, each once
and behind its base.  If it is not built, the error names the registered models
whose chains do not reach a root, in order of registration. -/
theorem build_orders_bases (decls : List ClassDecl) :
    ((∃ g, build decls = .ok g) ↔ ∀ n ∈ registered decls, Rooted (registered decls) n) ∧
    (∀ g, build decls = .ok g →
      g.models.Perm (registered decls) ∧ g.names.Nodup ∧
      ∀ n ∈ g.models,
        g.parent? n = baseIn (registered decls) n ∧
        registeredBase (register decls) n = baseIn (registered decls) n ∧
        ∀ b, baseIn (registered decls) n = some b →
          ∃ before after, g.models = before ++ n :: after ∧ b ∈ before) ∧
    (∀ names, build decls = .error names →
      names = ((registered decls).filter fun n => ¬ Rooted (registered decls) n).map Model.name) := by
  refine ⟨exists_build_iff decls, ?_, fun names h => (names_of_build_error h).1⟩
  intro g h
  refine ⟨models_perm_of_build h, nodup_names_of_build h, ?_⟩
  intro n hn
  refine ⟨parent?_of_build h n, registeredBase_eq decls n, ?_⟩
  intro b base
  obtain ⟨before, after, split⟩ := List.append_of_mem hn
  exact ⟨before, after, split, (progress_of_build h).1.sound.ordered before n after split b base⟩

end Catalog

end ContractClient
