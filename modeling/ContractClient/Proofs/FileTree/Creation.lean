import ContractClient.Proofs.FileTree.Parents

/-!
# What a creation of directories adds

A creation adds directories where nothing was, and no more (`at?_of_creates`).  If its
path does not go up, they are all above the place it leads to.  A path through `..` may
add others: for `a/../b` the directory `a` is created as well.

So a file that could not be reached before may be reached afterwards, but only by a
path that goes up.  In a closed tree, every other path leads to something afterwards
only if it did so before (`pathExists_of_creates`).
-/

namespace ContractClient

namespace Path

/-- The names in front of the last one lead to a directory above, unless the last one
goes up. -/
theorem prefix_settle {n : String} (h : n ≠ "..") (before ns : List String) :
    settle before ns <+: settle before (ns ++ [n]) := by
  rw [settle_append, settle, if_neg h]
  split
  · rewrite [settle, List.reverse_reverse]
    exact List.prefix_refl _
  · rw [settle, List.reverse_cons, List.reverse_reverse]
    exact List.prefix_append _ _

end Path

namespace FileTree

variable {t u v : FileTree} {p q : Place} {path made : String} {loose : Place → Prop}

/-! ## What is above a path -/

theorem steps_above (named : (above path).2 ≠ "") :
    steps path = steps (above path).1 ++ [(above path).2] := by
  by_cases slash : Path.name path = ""
  · simp only [above, if_pos slash] at named ⊢
    have whole := steps_parent_append path
    rw [slash, show steps "" = [] from rfl, List.append_nil] at whole
    rw [whole, steps_parent_append (Path.parent path), steps_name named]
  · simp only [above, if_neg slash] at named ⊢
    rw [steps_parent_append path, steps_name named]

theorem isAbsolute_above (head : (above path).1 ≠ "") :
    Path.isAbsolute (above path).1 = Path.isAbsolute path := by
  by_cases slash : Path.name path = ""
  · simp only [above, if_pos slash] at head ⊢
    have inner : Path.parent path ≠ "" := by
      intro empty
      rw [empty] at head
      exact head (by decide)
    rw [Path.isAbsolute_parent head, Path.isAbsolute_parent inner]
  · simp only [above, if_neg slash] at head ⊢
    exact Path.isAbsolute_parent head

theorem absoluteNames_eq_settle (directory : Place) (path : String) :
    Path.absoluteNames directory path =
      Path.settle (if Path.isAbsolute path then [] else directory.reverse) (steps path) := by
  rw [Path.absoluteNames, steps, Path.settle_filter]
  split <;> rfl

theorem prefix_of_above (head : t.needsHead path = true) (straight : ".." ∉ steps path)
    (directory : Place) :
    ".." ∉ steps (above path).1 ∧
      Path.absoluteNames directory (above path).1 <+: Path.absoluteNames directory path := by
  simp only [needsHead, Bool.and_eq_true, bne_iff_ne] at head
  obtain ⟨⟨nonempty, named⟩, -⟩ := head
  rw [steps_above named, List.mem_append, List.mem_singleton, not_or] at straight
  refine ⟨straight.1, ?_⟩
  rw [absoluteNames_eq_settle, absoluteNames_eq_settle, isAbsolute_above nonempty,
    steps_above named]
  exact Path.prefix_settle (Ne.symm straight.2) _ _

/-! ## Added directories -/

/-- The second tree has at a place what the first one has, or a directory that was
added. -/
def AddsAt (added : Prop) (t u : FileTree) (q : Place) : Prop :=
  u.at? q = t.at? q ∨ t.at? q = none ∧ u.at? q = some .directory ∧ added

theorem AddsAt.trans {a b : Prop} (h : AddsAt a t u q) (k : AddsAt b u v q) :
    AddsAt (a ∨ b) t v q := by
  rcases h with same | ⟨absent, there, why⟩
  · rcases k with again | ⟨absent, there, why⟩
    · exact .inl (again.trans same)
    · exact .inr ⟨same ▸ absent, there, .inr why⟩
  · rcases k with again | ⟨absent', -, -⟩
    · exact .inr ⟨absent, again.trans there, .inl why⟩
    · rw [there] at absent'; cases absent'

theorem AddsAt.imp {a b : Prop} (h : AddsAt a t u q) (f : a → b) : AddsAt b t u q :=
  h.imp_right fun ⟨absent, there, why⟩ => ⟨absent, there, f why⟩

theorem addsAt_attempt (t : FileTree) (path : String) (q : Place) :
    AddsAt (q = Path.absoluteNames t.current path) t (t.attempt path).2 q := by
  rw [attempt]
  split
  next u done =>
    rw [makeDirectory] at done
    split at done
    next => cases done
    next p located =>
      split at done
      next => cases done
      next nothing =>
        cases done
        have free : t.at? p = none := by simpa using nothing
        have below : p ≠ [] := by
          rintro rfl
          cases free
        by_cases same : q = p
        · subst same
          exact .inr ⟨free, at?_set_self _ below, place_of_locate located⟩
        · exact .inl (at?_set_of_ne _ same)
  next fault failed => split <;> exact .inl rfl

theorem addsAt_of_creates {r : Option FileFault × FileTree} (h : Creates t path r) (q : Place) :
    AddsAt (".." ∉ steps path → q <+: Path.absoluteNames t.current path) t r.2 q := by
  induction h with
  | direct noHead =>
      exact (addsAt_attempt _ _ q).imp fun same _ => same ▸ List.prefix_refl _
  | blocked head above ends ih =>
      refine ih.imp fun step straight => ?_
      obtain ⟨straight, prefixed⟩ := prefix_of_above head straight _
      exact (step straight).trans prefixed
  | here head above goesOn point ih =>
      refine ih.imp fun step straight => ?_
      obtain ⟨straight, prefixed⟩ := prefix_of_above head straight _
      exact (step straight).trans prefixed
  | after head above goesOn name ih =>
      refine (ih.trans (addsAt_attempt _ _ q)).imp fun step straight => ?_
      rcases step with step | same
      · obtain ⟨straight, prefixed⟩ := prefix_of_above head straight _
        exact (step straight).trans prefixed
      · -- The directories above do not change from where the path is seen.
        rewrite [same, (extends_of_creates (fun _ => False) above).current]
        exact List.prefix_refl _

/-- No file changes. -/
theorem content?_of_creates {r : Option FileFault × FileTree} (h : Creates t path r) (q : Place) :
    r.2.content? q = t.content? q := by
  rcases addsAt_of_creates h q with same | ⟨absent, there, -⟩
  · rw [content?, content?, same]
  · rw [content?, content?, absent, there]

/-! ## Closed trees -/

/-- Whatever is there is in a directory, as on every disk. -/
def IsClosed (t : FileTree) : Prop :=
  ∀ p n, (t.at? (p ++ [n])).isSome = true → t.at? p = some .directory

theorem IsClosed.at?_of_append (closed : t.IsClosed) {ns : List String} (below : ns ≠ [])
    (there : (t.at? (p ++ ns)).isSome = true) : t.at? p = some .directory := by
  induction ns generalizing p with
  | nil => exact absurd rfl below
  | cons n ns ih =>
      apply closed p n
      cases ns with
      | nil => exact there
      | cons m ns =>
          have inner : t.at? (p ++ [n]) = some .directory := ih (by simp) (by simpa using there)
          rw [inner]
          rfl

theorem prefix_of_follow {ns : List String} (straight : ".." ∉ ns)
    (led : t.follow p ns = .ok q) : p <+: q := by
  fun_induction follow t p ns with
  | case1 p => cases led; exact List.prefix_refl _
  | case2 p n ns absent => cases led
  | case3 p n ns content found => cases led
  | case4 p ns found ih => exact ih (fun up => straight (List.mem_cons_of_mem _ up)) led
  | case5 p ns found here ih => exact absurd List.mem_cons_self straight
  | case6 p n ns found here up long => cases led
  | case7 p n ns found here up short ih =>
      exact (List.prefix_append p [n]).trans
        (ih (fun up => straight (List.mem_cons_of_mem _ up)) led)

/-- A directory on the way to something that was there was there as well. -/
theorem IsClosed.at?_of_prefix (closed : t.IsClosed) (h : Extends (fun _ => False) t u)
    (way : p <+: q) (there : (t.at? q).isSome = true) (found : u.at? p = some .directory) :
    t.at? p = some .directory := by
  obtain ⟨ns, rfl⟩ := way
  cases ns with
  | cons n ns => exact closed.at?_of_append (List.cons_ne_nil n ns) there
  | nil =>
      rw [List.append_nil] at there
      obtain ⟨n, earlier⟩ := Option.isSome_iff_exists.mp there
      cases n with
      | directory => exact earlier
      | file c =>
          rw [h.file id earlier] at found
          cases found

/-- Names that do not go up are followed to something that was there as they are now. -/
theorem IsClosed.follow (closed : t.IsClosed) (h : Extends (fun _ => False) t u)
    {ns : List String} (straight : ".." ∉ ns) (led : u.follow p ns = .ok q)
    (there : (t.at? q).isSome = true) : t.follow p ns = .ok q := by
  have way := prefix_of_follow straight led
  fun_induction FileTree.follow u p ns with
  | case1 p => exact led
  | case2 p n ns absent => cases led
  | case3 p n ns content found => cases led
  | case4 p ns found ih =>
      rw [FileTree.follow, closed.at?_of_prefix h way there found]
      exact ih (fun up => straight (List.mem_cons_of_mem _ up)) led way
  | case5 p ns found here ih => exact absurd List.mem_cons_self straight
  | case6 p n ns found here up long => cases led
  | case7 p n ns found here up short ih =>
      have rest : ".." ∉ ns := fun up => straight (List.mem_cons_of_mem _ up)
      rw [FileTree.follow, closed.at?_of_prefix h way there found]
      simp only [if_neg here, if_neg up, if_neg short]
      exact ih rest led (prefix_of_follow rest led)

/-- A path that does not go up leads to something after a creation only if it did so
before, or if a directory was created there. -/
theorem pathExists_of_creates {r : Option FileFault × FileTree} (closed : t.IsClosed)
    (h : Creates t made r) (straightMade : ".." ∉ steps made) (straight : ".." ∉ steps path)
    (apart : ¬ Path.absoluteNames t.current path <+: Path.absoluteNames t.current made)
    (there : r.2.pathExists path = true) : t.pathExists path = true := by
  have ext := extends_of_creates (fun _ => False) h
  obtain ⟨p, n, located, found, fits⟩ := pathExists_iff.mp there
  have place := place_of_locate located
  rw [ext.current] at place
  have same : r.2.at? p = t.at? p := by
    rcases addsAt_of_creates h p with same | ⟨-, -, above⟩
    · exact same
    · exact absurd (place ▸ above straightMade) apart
  obtain ⟨noNull, nonempty, short, led⟩ := locate_eq_ok_iff.mp located
  rw [start, ext.current] at led
  rw [same] at found
  have before := closed.follow ext straight led (by rw [found]; rfl)
  exact pathExists_iff.mpr
    ⟨p, n, locate_eq_ok_iff.mpr ⟨noNull, nonempty, short, before⟩, found, fits⟩

end FileTree

end ContractClient
