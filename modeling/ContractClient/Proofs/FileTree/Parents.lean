import ContractClient.Proofs.FileTree.Directories

/-!
# The directory that a path goes through

A path is followed by following its parent and then its last name
(`steps_parent_append`).  So a path that can be followed has a directory as its
parent (`isDirectory_parent`), and where such a directory is, the path can be
followed in every tree in which it can be followed later (`locate_of_isDirectory`).

A directory that is there needs nothing above it, and creating it changes nothing
(`makeDirectories_of_isDirectory`).
-/

namespace ContractClient

/-! ## The text of a parent -/

namespace Path

variable {path n m : String}

theorem beforeName_cases (path : String) :
    beforeName path = [] ∨ ∃ front, beforeName path = front ++ ['/'] := by
  cases ends : (beforeName path).getLast? with
  | none => exact .inl (List.getLast?_eq_none_iff.mp ends)
  | some c =>
      have head : (path.toList.reverse.dropWhile (· != '/')).head? = some c := by
        rw [← List.getLast?_reverse]; exact ends
      have slash : c = '/' := by
        have stopped := List.head?_dropWhile_not (· != '/') path.toList.reverse
        rw [head] at stopped
        simpa using stopped
      subst slash
      exact .inr (List.getLast?_eq_some_iff.mp ends)

/-- Only slashes stand between the parent of a path and its last name. -/
theorem exists_beforeName (path : String) :
    ∃ k, beforeName path = (parent path).toList ++ List.replicate k '/' := by
  rw [parent]
  split
  · exact ⟨0, by simp⟩
  · have slashes : (beforeName path).reverse.takeWhile (· == '/') = List.replicate _ '/' :=
      List.eq_replicate_of_mem fun c hc => by simpa using List.mem_takeWhile_imp hc
    refine ⟨((beforeName path).reverse.takeWhile (· == '/')).length, ?_⟩
    calc beforeName path
        = ((beforeName path).reverse.takeWhile (· == '/') ++
            (beforeName path).reverse.dropWhile (· == '/')).reverse := by
          rw [List.takeWhile_append_dropWhile, List.reverse_reverse]
      _ = _ := by
          rw [List.reverse_append, String.toList_ofList, ← List.reverse_replicate, ← slashes]

theorem exists_toList (path : String) :
    ∃ k, path.toList =
      (parent path).toList ++ (List.replicate k '/' ++ (name path).toList) := by
  obtain ⟨k, before⟩ := exists_beforeName path
  exact ⟨k, by rw [← List.append_assoc, ← before, beforeName_append_name]⟩

theorem beforeName_eq_nil_of_parent (h : parent path = "") : beforeName path = [] := by
  rw [parent] at h
  split at h
  · exact String.ofList_eq_empty_iff.mp h
  next other =>
    -- What is left after slashes were cut off is empty only if there was nothing else.
    have cut : (beforeName path).reverse.dropWhile (· == '/') = [] := by
      simpa using String.ofList_eq_empty_iff.mp h
    refine absurd ?_ other
    rw [List.dropWhile_eq_nil_iff] at cut
    rw [List.all_eq_true]
    exact fun c hc => cut c (List.mem_reverse.mpr hc)

theorem name_of_parent_eq_empty (h : parent path = "") : name path = path := by
  have whole := beforeName_append_name path
  rw [beforeName_eq_nil_of_parent h, List.nil_append] at whole
  exact String.toList_inj.mp whole

theorem no_slash_name (path : String) : '/' ∉ (name path).toList := by
  intro slash
  rw [name, String.toList_ofList, List.mem_reverse] at slash
  simpa using List.mem_takeWhile_imp slash

theorem isAbsolute_parent (h : parent path ≠ "") : isAbsolute (parent path) = isAbsolute path := by
  obtain ⟨k, whole⟩ := exists_toList path
  have nonempty : (parent path).toList ≠ [] := fun empty => h (String.toList_inj.mp empty)
  rw [isAbsolute, isAbsolute, whole, List.head?_append_of_ne_nil _ nonempty]

theorem not_isAbsolute_of_parent (h : parent path = "") : isAbsolute path = false := by
  rw [isAbsolute, decide_eq_false_iff_not]
  intro starts
  refine no_slash_name path ?_
  rw [name_of_parent_eq_empty h]
  exact List.mem_of_head? starts

theorem utf8ByteSize_parent_le (path : String) :
    (parent path).utf8ByteSize ≤ path.utf8ByteSize := by
  obtain ⟨k, whole⟩ := exists_toList path
  have divided : path =
      parent path ++ String.ofList (List.replicate k '/' ++ (name path).toList) := by
    rw [← String.toList_inj, String.toList_append, String.toList_ofList, ← whole]
  have size := congrArg String.utf8ByteSize divided
  rw [String.utf8ByteSize_append] at size
  omega

/-! ### Joined paths -/

/-- What stands in front of a name that is joined does not depend on the name. -/
theorem beforeName_join (hn : IsName n) (path : String) :
    beforeName (join path n) =
      if path = "" ∨ path.toList.getLast? = some '/' then path.toList
      else path.toList ++ ['/'] := by
  have whole := beforeName_append_name (join path n)
  rw [name_join hn] at whole
  split
  next h =>
    rw [join_name_of_eq hn h, String.toList_append] at whole
    rw [join_name_of_eq hn h]
    exact List.append_cancel_right whole
  next h =>
    rw [join_name_of_ne hn h, String.toList_append, String.toList_append] at whole
    rw [join_name_of_ne hn h]
    exact List.append_cancel_right whole

theorem parent_join_congr (hn : IsName n) (hm : IsName m) (path : String) :
    parent (join path n) = parent (join path m) := by
  rw [parent, parent, beforeName_join hn, beforeName_join hm]

/-- The parent of a joined path is the path, unless it ends with a slash. -/
theorem parent_join (hn : IsName n) {c : Char} (last : path.toList.getLast? = some c)
    (hc : c ≠ '/') : parent (join path n) = path := by
  obtain ⟨front, whole⟩ := List.getLast?_eq_some_iff.mp last
  have unslashed : ¬ (path = "" ∨ path.toList.getLast? = some '/') := by
    rintro (empty | slash)
    · rw [empty] at last; cases last
    · rw [last] at slash; exact hc (Option.some.inj slash)
  have before : beforeName (join path n) = path.toList ++ ['/'] := by
    rw [beforeName_join hn, if_neg unslashed]
  have mixed : ¬ (beforeName (join path n)).all (· == '/') = true := by
    simp [before, whole, hc]
  rw [parent, if_neg mixed, before, ← String.toList_inj, whole]
  simp [hc]

end Path

/-! ## Following a parent -/

namespace FileTree

variable {t u : FileTree} {p q : Place} {path : String} {loose : Place → Prop}

theorem steps_append_slash (a b : String) : steps (a ++ "/" ++ b) = steps a ++ steps b := by
  rw [steps, Path.parts_append_slash, List.filter_append]
  rfl

theorem steps_append_slashes (s : String) (k : Nat) :
    steps (s ++ String.ofList (List.replicate k '/')) = steps s := by
  induction k with
  | zero => rw [List.replicate_zero, String.ofList_nil, String.append_empty]
  | succ k ih =>
      have divided : s ++ String.ofList (List.replicate (k + 1) '/') =
          s ++ String.ofList (List.replicate k '/') ++ "/" ++ "" := by
        rw [← String.toList_inj]
        simp [List.replicate_succ']
      rw [divided, steps_append_slash, ih]
      exact List.append_nil _

/-- Slashes at its end are the only difference between a parent and what it comes from. -/
theorem steps_parent (path : String) :
    steps (Path.parent path) = steps (.ofList (Path.beforeName path)) := by
  obtain ⟨k, before⟩ := Path.exists_beforeName path
  rw [before, String.ofList_append, String.ofList_toList, steps_append_slashes]

/-- A path is followed by following its parent and then its last name. -/
theorem steps_parent_append (path : String) :
    steps path = steps (Path.parent path) ++ steps (Path.name path) := by
  have whole := Path.beforeName_append_name path
  rw [steps_parent]
  rcases Path.beforeName_cases path with empty | ⟨front, before⟩
  · rw [empty, List.nil_append, String.toList_inj] at whole
    rw [empty, whole]
    rfl
  · have head : String.ofList (Path.beforeName path) = .ofList front ++ "/" ++ "" := by
      rw [← String.toList_inj, before]
      simp
    have divided : path = .ofList front ++ "/" ++ Path.name path := by
      rw [← String.toList_inj, ← whole, before]
      simp
    rw [head, steps_append_slash, show steps "" = [] from rfl, List.append_nil,
      ← steps_append_slash, ← divided]

theorem steps_name (h : Path.name path ≠ "") : steps (Path.name path) = [Path.name path] := by
  rw [steps, Path.parts_of_no_slash (Path.no_slash_name path)]
  simp [h]

/-- A name that is joined is followed last. -/
theorem steps_join {n : String} (hn : Path.IsName n) (path : String) :
    steps (Path.join path n) = steps path ++ [n] := by
  have last : steps n = [n] := by
    rw [steps, hn.parts]
    simp [hn.ne_empty]
  by_cases h : path = "" ∨ path.toList.getLast? = some '/'
  · rw [Path.join_name_of_eq hn h]
    rcases h with rfl | ends
    · rw [String.empty_append, last]
      rfl
    · obtain ⟨front, rfl⟩ := Path.exists_append_slash ends
      have whole := steps_append_slash front ""
      rw [String.append_empty, show steps "" = [] from rfl, List.append_nil] at whole
      rw [steps_append_slash, whole, last]
  · rw [Path.join_name_of_ne hn h, steps_append_slash, last]

/-- A path with a name more goes up only if the path does. -/
theorem not_mem_steps_join {n : String} (hn : Path.IsName n) (h : ".." ∉ steps path) :
    ".." ∉ steps (Path.join path n) := by
  rw [steps_join hn, List.mem_append, List.mem_singleton]
  exact fun up => up.elim h hn.ne_above.symm

theorem follow_append_eq_ok_iff {ns ms : List String} :
    t.follow p (ns ++ ms) = .ok q ↔ ∃ r, t.follow p ns = .ok r ∧ t.follow r ms = .ok q := by
  fun_induction follow t p ns with
  | case1 p => simp
  | case2 p n ns absent => simp [follow, absent]
  | case3 p n ns content found => simp [follow, found]
  | case4 p ns found ih => rw [List.cons_append, follow, found]; exact ih
  | case5 p ns found here ih => rw [List.cons_append, follow, found]; exact ih
  | case6 p n ns found here up long => simp [follow, found, here, up, long]
  | case7 p n ns found here up short ih =>
      rw [List.cons_append, follow, found]
      simp only [if_neg here, if_neg up, if_neg short]
      exact ih

theorem at?_of_follow_cons {n : String} {ns : List String} (h : t.follow p (n :: ns) = .ok q) :
    t.at? p = some .directory := by
  rw [follow] at h
  split at h
  next => cases h
  next => cases h
  next found => exact found

/-- One name is followed in the same way from every directory of that place. -/
theorem follow_singleton_congr (n : String) (h : t.at? p = some .directory)
    (k : u.at? p = some .directory) : t.follow p [n] = u.follow p [n] := by
  simp only [follow, h, k]

/-- A path that can be followed goes through what its parent leads to. -/
theorem exists_locate_parent (h : t.locate path = .ok p) (head : Path.parent path ≠ "") :
    ∃ q, t.locate (Path.parent path) = .ok q ∧ t.follow q (steps (Path.name path)) = .ok p := by
  obtain ⟨noNull, -, short, led⟩ := locate_eq_ok_iff.mp h
  rw [steps_parent_append, follow_append_eq_ok_iff] at led
  obtain ⟨q, first, last⟩ := led
  refine ⟨q, locate_eq_ok_iff.mpr ⟨?_, head, ?_, ?_⟩, last⟩
  · exact fun null => noNull ((Path.mem_parent_or_name_iff (by decide)).mp (.inl null))
  · exact Nat.lt_of_le_of_lt (Path.utf8ByteSize_parent_le path) short
  · rw [start, Path.isAbsolute_parent head]
    exact first

theorem isDirectory_iff :
    t.isDirectory path = true ↔ ∃ p, t.locate path = .ok p ∧ t.at? p = some .directory := by
  have looked : t.isDirectory path = true ↔ ∃ p, t.look path = .ok (p, .directory) := by
    rw [isDirectory]
    split
    next p found => simp [found]
    next other =>
      constructor
      · intro h; cases h
      · rintro ⟨p, found⟩; exact absurd found (other p)
  simp [looked, look_eq_ok_iff]

theorem pathExists_iff :
    t.pathExists path = true ↔
      ∃ p n, t.locate path = .ok p ∧ t.at? p = some n ∧
        (n = .directory ∨ endsWithSlash path = false) := by
  have looked : t.pathExists path = true ↔ ∃ p n, t.look path = .ok (p, n) := by
    rw [pathExists]
    split
    next r found => exact ⟨fun _ => ⟨r.1, r.2, found⟩, fun _ => rfl⟩
    next problem failed => simp [failed]
  simp [looked, look_eq_ok_iff]

theorem pathExists_of_isDirectory (h : t.isDirectory path = true) : t.pathExists path = true := by
  obtain ⟨p, located, found⟩ := isDirectory_iff.mp h
  exact pathExists_iff.mpr ⟨p, .directory, located, found, .inl rfl⟩

/-! ## Directories that are there -/

/-- The parent of a path that can be followed is a directory. -/
theorem isDirectory_parent (h : t.locate path = .ok p) (head : Path.parent path ≠ "")
    (named : Path.name path ≠ "") : t.isDirectory (Path.parent path) = true := by
  obtain ⟨q, first, last⟩ := exists_locate_parent h head
  rw [steps_name named] at last
  exact isDirectory_iff.mpr ⟨q, first, at?_of_follow_cons last⟩

theorem isDirectory_above (h : t.locate path = .ok p) (head : (above path).1 ≠ "")
    (named : (above path).2 ≠ "") : t.isDirectory (above path).1 = true := by
  by_cases slash : Path.name path = ""
  · simp only [above, if_pos slash] at head named ⊢
    have inner : Path.parent path ≠ "" := by
      intro empty
      rw [empty] at named
      exact named (by decide)
    obtain ⟨q, first, -⟩ := exists_locate_parent h inner
    exact isDirectory_parent first head named
  · simp only [above, if_neg slash] at head named ⊢
    exact isDirectory_parent h head named

/-- Nothing has to be created above a path that can be followed. -/
theorem needsHead_of_locate (h : t.locate path = .ok p) : t.needsHead path = false := by
  rw [needsHead, ← Bool.not_eq_true]
  intro needed
  simp only [Bool.and_eq_true, bne_iff_ne, Bool.not_eq_true'] at needed
  obtain ⟨⟨head, named⟩, missing⟩ := needed
  rw [pathExists_of_isDirectory (isDirectory_above h head named)] at missing
  cases missing

theorem attempt_of_isDirectory (h : t.isDirectory path = true) : t.attempt path = (none, t) := by
  obtain ⟨p, located, found⟩ := isDirectory_iff.mp h
  have taken : t.makeDirectory path = .error ⟨.present, path⟩ := by
    simp [makeDirectory, located, found]
  rw [attempt, taken]
  exact if_pos h

theorem makeDirectories_of_noHead (h : t.needsHead path = false) :
    t.makeDirectories path = t.attempt path := by
  have created := creates_makeDirectories t path
  generalize t.makeDirectories path = r at created
  cases created with
  | direct noHead => rfl
  | blocked head above ends => rw [h] at head; cases head
  | here head above goesOn point => rw [h] at head; cases head
  | after head above goesOn name => rw [h] at head; cases head

/-- A directory that is there is not created again. -/
theorem makeDirectories_of_isDirectory (h : t.isDirectory path = true) :
    t.makeDirectories path = (none, t) := by
  obtain ⟨p, located, -⟩ := isDirectory_iff.mp h
  rw [makeDirectories_of_noHead (needsHead_of_locate located), attempt_of_isDirectory h]

theorem Extends.isDirectory (h : Extends loose t u) (there : t.isDirectory path = true) :
    u.isDirectory path = true := by
  obtain ⟨p, located, found⟩ := isDirectory_iff.mp there
  exact isDirectory_iff.mpr ⟨p, h.locate located, h.directory found⟩

/-- A path below a directory that is there can be followed now, if it can be followed
later. -/
theorem locate_of_isDirectory (h : Extends loose t u) (named : Path.name path ≠ "")
    (there : t.isDirectory (Path.parent path) = true) (led : u.locate path = .ok p) :
    t.locate path = .ok p := by
  obtain ⟨q, located, found⟩ := isDirectory_iff.mp there
  obtain ⟨-, head, -, first⟩ := locate_eq_ok_iff.mp located
  obtain ⟨r, sameFirst, last⟩ := exists_locate_parent led head
  have same : r = q := Except.ok.inj (sameFirst.symm.trans (h.locate located))
  subst same
  rw [steps_name named, ← follow_singleton_congr _ found (h.directory found),
    ← steps_name named] at last
  obtain ⟨noNull, nonempty, short, -⟩ := locate_eq_ok_iff.mp led
  refine locate_eq_ok_iff.mpr ⟨noNull, nonempty, short, ?_⟩
  rw [start, Path.isAbsolute_parent head] at first
  rw [steps_parent_append, follow_append_eq_ok_iff]
  exact ⟨r, first, last⟩

end FileTree

end ContractClient
