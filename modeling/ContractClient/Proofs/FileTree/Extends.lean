import ContractClient.FileTree.Basic
import ContractClient.Proofs.FileTree.Path
import ContractClient.Proofs.Outcome

/-!
# What changes of a file tree keep

A path that can be followed leads to the place that its text alone gives
(`place_of_locate`).  So it is known from the text of a path which place a change
can concern.

`Extends loose t u` says that `u` has all that `t` has: the directories, and the
files with their contents.  Only files at `loose` places may have got another
content.  Whatever creates directories or writes files extends a tree, whether it
succeeds or fails midway, and extensions can be put one after the other.

Writing a file either fails before the file is open, or puts a beginning of the content
at its place, or all of it (`writes`).
-/

namespace ContractClient.FileTree

variable {t u v : FileTree} {p q : Place}

/-! ## One place -/

theorem find?_replace (nodes : List (Place × FileNode)) (n : FileNode) (h : q ≠ p) :
    (nodes.map fun e => if e.1 = p then (p, n) else e).find? (·.1 = q) =
      nodes.find? (·.1 = q) := by
  induction nodes with
  | nil => rfl
  | cons e nodes ih =>
      by_cases he : e.1 = p
      · simp [he, h.symm, ih]
      · simp [he, List.find?_cons, ih]

theorem find?_replace_self (nodes : List (Place × FileNode)) (n : FileNode)
    (h : nodes.any (·.1 = p) = true) :
    (nodes.map fun e => if e.1 = p then (p, n) else e).find? (·.1 = p) = some (p, n) := by
  induction nodes with
  | nil => cases h
  | cons e nodes ih =>
      by_cases he : e.1 = p
      · simp [he]
      · simp only [List.any_cons, he, decide_false, Bool.false_or] at h
        simp [he, ih h]

/-- A node that is put somewhere changes no other place. -/
theorem at?_set_of_ne (n : FileNode) (h : q ≠ p) : (t.set p n).at? q = t.at? q := by
  unfold at?
  split
  · rfl
  · rw [set]
    split
    · rw [find?_replace _ n h]
    · rw [List.find?_append, List.find?_cons_of_neg (by simpa using h.symm), List.find?_nil,
        Option.or_none]

/-- A node that is put somewhere is found there.  The root stays a directory. -/
theorem at?_set_self (n : FileNode) (h : p ≠ []) : (t.set p n).at? p = some n := by
  rw [at?, if_neg h, set]
  split
  next there => rw [find?_replace_self _ n there]; rfl
  next missing =>
    have absent : t.nodes.find? (·.1 = p) = none := by
      rw [List.find?_eq_none]
      intro e he found
      exact missing (List.any_eq_true.mpr ⟨e, he, found⟩)
    rw [List.find?_append, absent, Option.none_or, List.find?_cons_of_pos (by simp)]
    rfl

theorem current_set (p : Place) (n : FileNode) : (t.set p n).current = t.current := by
  rw [set]
  split <;> rfl

theorem room_set (p : Place) (n : FileNode) : (t.set p n).room = t.room := by
  rw [set]
  split <;> rfl

/-- The second tree has a node at a place, and elsewhere what the first one has. -/
structure Puts (p : Place) (n : FileNode) (t u : FileTree) : Prop where
  current : u.current = t.current
  here : p ≠ [] → u.at? p = some n
  others : ∀ q, q ≠ p → u.at? q = t.at? q

theorem puts_set (t : FileTree) (p : Place) (n : FileNode) : Puts p n t (t.set p n) :=
  ⟨current_set p n, at?_set_self n, fun _ => at?_set_of_ne n⟩

/-- Of two nodes that are put at one place the second counts. -/
theorem Puts.trans {m n : FileNode} (h : Puts p m t u) (k : Puts p n u v) : Puts p n t v :=
  ⟨k.current.trans h.current, k.here, fun q apart => (k.others q apart).trans (h.others q apart)⟩

theorem Puts.withRoom {n : FileNode} (h : Puts p n t u) (room : Option Nat) :
    Puts p n t { u with room } :=
  ⟨h.current, h.here, h.others⟩

theorem content?_eq_some_iff {c : ByteArray} : t.content? p = some c ↔ t.at? p = some (.file c) := by
  rw [content?]
  split
  next d found => rw [found]; simp
  next other =>
    constructor
    · intro h; cases h
    · intro h; exact absurd h (other c)

/-! ## Following a path -/

theorem follow_eq_settle {ns : List String} (named : "" ∉ ns) (h : t.follow p ns = .ok q) :
    q = Path.settle p.reverse ns := by
  fun_induction follow t p ns with
  | case1 p =>
      cases h
      rw [Path.settle, List.reverse_reverse]
  | case2 p n ns absent => cases h
  | case3 p n ns content found => cases h
  | case4 p ns found ih =>
      rw [ih (fun hn => named (List.mem_cons_of_mem _ hn)) h, Path.settle, if_pos (.inr rfl)]
  | case5 p ns found here ih =>
      rw [ih (fun hn => named (List.mem_cons_of_mem _ hn)) h, Path.settle,
        if_neg (by decide), if_pos rfl, List.tail_reverse]
  | case6 p n ns found here up long => cases h
  | case7 p n ns found here up short ih =>
      have name : ¬ (n = "" ∨ n = ".") := by
        intro hn
        cases hn with
        | inl empty => exact named (empty ▸ List.mem_cons_self)
        | inr point => exact here point
      rw [ih (fun hn => named (List.mem_cons_of_mem _ hn)) h, Path.settle, if_neg name, if_neg up,
        List.reverse_append, List.reverse_singleton, List.singleton_append]

/-- Where a path starts. -/
def start (t : FileTree) (path : String) : Place := if Path.isAbsolute path then [] else t.current

theorem locate_eq_ok_iff {path : String} :
    t.locate path = .ok p ↔
      '\x00' ∉ path.toList ∧ path ≠ "" ∧ path.utf8ByteSize < pathLimit ∧
        t.follow (t.start path) (steps path) = .ok p := by
  rw [locate, locateFrom]
  split
  next null => simp [null]
  next noNull =>
    split
    next empty => simp [empty]
    next nonempty =>
      split
      next long => simp [Nat.not_lt.mpr long]
      next short => simp [noNull, nonempty, Nat.lt_of_not_le short, start]

/-- A path leads to the place that its text gives, if it can be followed. -/
theorem place_of_locate {path : String} (h : t.locate path = .ok p) :
    p = Path.absoluteNames t.current path := by
  have named : "" ∉ steps path := by simp [steps]
  obtain ⟨-, -, -, led⟩ := locate_eq_ok_iff.mp h
  rw [follow_eq_settle named led, steps, Path.settle_filter, start, Path.absoluteNames]
  split <;> rfl

theorem target_eq_ok_iff {path : String} :
    t.target path = .ok p ↔
      endsWithSlash path = false ∧ t.locate path = .ok p ∧ t.at? p ≠ some .directory := by
  rw [target]
  cases endsWithSlash path with
  | true =>
      rw [if_pos rfl, bind_eq_ok_iff]
      constructor
      · rintro ⟨_, _, h⟩; cases h
      · rintro ⟨h, _⟩; cases h
  | false =>
      rw [if_neg Bool.false_ne_true, bind_eq_ok_iff]
      constructor
      · rintro ⟨q, located, h⟩
        split at h
        next => cases h
        next free => cases h; exact ⟨rfl, located, free⟩
      · rintro ⟨_, located, free⟩
        exact ⟨p, located, if_neg free⟩

theorem look_eq_ok_iff {path : String} {n : FileNode} :
    t.look path = .ok (p, n) ↔
      t.locate path = .ok p ∧ t.at? p = some n ∧ (n = .directory ∨ endsWithSlash path = false) := by
  rw [look, bind_eq_ok_iff]
  constructor
  · rintro ⟨q, located, h⟩
    split at h
    next => cases h
    next found => cases h; exact ⟨located, found, .inl rfl⟩
    next c found =>
      split at h
      next => cases h
      next noSlash =>
        cases h
        exact ⟨located, found, .inr (by simpa using noSlash)⟩
  · rintro ⟨located, found, fits⟩
    refine ⟨p, located, ?_⟩
    cases n with
    | directory => rw [found]; rfl
    | file c =>
        have noSlash : endsWithSlash path = false := fits.resolve_left (by simp)
        rw [found, noSlash]
        rfl

theorem look_file_iff {path : String} {c : ByteArray} :
    t.look path = .ok (p, .file c) ↔
      t.locate path = .ok p ∧ t.at? p = some (.file c) ∧ endsWithSlash path = false := by
  simp [look_eq_ok_iff]

/-- A place that is about to be written is empty if its path leads to nothing. -/
theorem at?_eq_none_of_target {path : String} (h : t.target path = .ok p)
    (missing : t.pathExists path = false) : t.at? p = none := by
  obtain ⟨noSlash, located, noDirectory⟩ := target_eq_ok_iff.mp h
  cases found : t.at? p with
  | none => rfl
  | some n =>
      cases n with
      | directory => exact absurd found noDirectory
      | file c =>
          rw [pathExists, look_file_iff.mpr ⟨located, found, noSlash⟩] at missing
          cases missing

/-! ## Extensions -/

/-- The second tree has all that the first one has.  Only the files at loose
places may have got another content. -/
structure Extends (loose : Place → Prop) (t u : FileTree) : Prop where
  current : u.current = t.current
  directory : ∀ {p}, t.at? p = some .directory → u.at? p = some .directory
  file : ∀ {p c}, ¬ loose p → t.at? p = some (.file c) → u.at? p = some (.file c)

variable {loose : Place → Prop}

theorem Extends.refl (loose : Place → Prop) (t : FileTree) : Extends loose t t :=
  ⟨rfl, id, fun _ => id⟩

theorem Extends.trans (h : Extends loose t u) (k : Extends loose u v) : Extends loose t v :=
  ⟨k.current.trans h.current, fun there => k.directory (h.directory there),
    fun tight there => k.file tight (h.file tight there)⟩

theorem Extends.mono {wider : Place → Prop} (h : Extends loose t u) (sub : ∀ p, loose p → wider p) :
    Extends wider t u :=
  ⟨h.current, h.directory, fun tight there => h.file (fun l => tight (sub _ l)) there⟩

/-- A node may be put where nothing is, and in the place of a loose file. -/
theorem Puts.extends {n : FileNode} (h : Puts p n t u) (noDirectory : t.at? p ≠ some .directory)
    (free : loose p ∨ t.at? p = none) : Extends loose t u where
  current := h.current
  directory := by
    intro q there
    have apart : q ≠ p := fun same => noDirectory (same ▸ there)
    rw [h.others q apart, there]
  file := by
    intro q c tight there
    have apart : q ≠ p := by
      intro same
      subst same
      cases free with
      | inl isLoose => exact tight isLoose
      | inr nothing => rw [nothing] at there; cases there
    rw [h.others q apart, there]

theorem extends_makeDirectory {path : String} (h : t.makeDirectory path = .ok u) :
    Extends loose t u := by
  rw [makeDirectory] at h
  split at h
  · cases h
  next p _ =>
    split at h
    next => cases h
    next nothing =>
      cases h
      have free : t.at? p = none := by simpa using nothing
      exact (puts_set t p _).extends (by simp [free]) (.inr free)

/-- How writing a file can end, and with which tree. -/
inductive Writes (t : FileTree) (path : String) (content : ByteArray) :
    Option FileFault × FileTree → Prop
  /-- It cannot be opened. -/
  | unopened {problem} (failed : t.target path = .error problem) :
      Writes t path content (some ⟨problem, path⟩, t)
  /-- There is room for its first bytes only. -/
  | cut {p : Place} {n : Nat} {u : FileTree} (aimed : t.target path = .ok p)
      (short : n < content.size) (put : Puts p (.file (content.extract 0 n)) t u) :
      Writes t path content (some ⟨.noSpace, path⟩, u)
  /-- It is written. -/
  | whole {p : Place} {u : FileTree} (aimed : t.target path = .ok p)
      (put : Puts p (.file content) t u) :
      Writes t path content (none, u)

theorem writes (t : FileTree) (path : String) (content : ByteArray) :
    Writes t path content (t.write path content) := by
  rw [write, openFile]
  cases aimed : t.target path with
  | error problem => exact .unopened aimed
  | ok p =>
      have opened : Puts p (.file .empty) t ((t.set p (.file .empty)).release (t.sizeAt p)) :=
        (puts_set t p _).withRoom _
      simp only [store]
      generalize (t.set p (.file .empty)).release (t.sizeAt p) = u at opened ⊢
      split
      next => exact .whole aimed (opened.trans (puts_set u p _))
      next room _ =>
        split
        next => exact .whole aimed (opened.trans ((puts_set u p _).withRoom _))
        next short =>
          exact .cut aimed (Nat.lt_of_not_le short) (opened.trans ((puts_set u p _).withRoom _))

/-- Writing a file changes what is at its place and no more, whether it succeeds or not. -/
theorem extends_write {path : String} {content : ByteArray} {late : Option FileFault}
    (h : t.write path content = (late, u))
    (free : loose (Path.absoluteNames t.current path) ∨ t.pathExists path = false) :
    Extends loose t u := by
  have replaced : ∀ {p n}, t.target path = .ok p → Puts p n t u → Extends loose t u := by
    intro p n aimed put
    obtain ⟨_, located, noDirectory⟩ := target_eq_ok_iff.mp aimed
    refine put.extends noDirectory (free.imp ?_ (at?_eq_none_of_target aimed))
    intro isLoose
    rwa [place_of_locate located]
  have ends := writes t path content
  rw [h] at ends
  cases ends with
  | unopened failed => exact .refl loose t
  | cut aimed short put => exact replaced aimed put
  | whole aimed put => exact replaced aimed put

/-! ## Reading in an extension -/

theorem Extends.content? {c : ByteArray} (h : Extends loose t u) (tight : ¬ loose p)
    (there : t.content? p = some c) : u.content? p = some c :=
  content?_eq_some_iff.mpr (h.file tight (content?_eq_some_iff.mp there))

theorem Extends.follow {ns : List String} (h : Extends loose t u) (led : t.follow p ns = .ok q) :
    u.follow p ns = .ok q := by
  fun_induction FileTree.follow t p ns with
  | case1 p => exact led
  | case2 p n ns absent => cases led
  | case3 p n ns content found => cases led
  | case4 p ns found ih => rw [FileTree.follow, h.directory found]; exact ih led
  | case5 p ns found here ih =>
      rw [FileTree.follow, h.directory found]
      exact ih led
  | case6 p n ns found here up long => cases led
  | case7 p n ns found here up short ih =>
      rw [FileTree.follow, h.directory found]
      simp only [if_neg here, if_neg up, if_neg short]
      exact ih led

theorem Extends.locate {path : String} (h : Extends loose t u) (led : t.locate path = .ok p) :
    u.locate path = .ok p := by
  obtain ⟨noNull, nonempty, short, follows⟩ := locate_eq_ok_iff.mp led
  refine locate_eq_ok_iff.mpr ⟨noNull, nonempty, short, ?_⟩
  rw [start, h.current]
  exact h.follow follows

theorem read_eq_ok_iff {path : String} {c : ByteArray} :
    t.read path = .ok c ↔ ∃ p, t.look path = .ok (p, .file c) := by
  rw [read]
  split
  next p d found => rw [found]; simp
  next p found => rw [found]; simp
  next problem found => rw [found]; simp

/-- What a path reads stays, unless its place is loose. -/
theorem Extends.read {path : String} {c : ByteArray} (h : Extends loose t u)
    (tight : ¬ loose (Path.absoluteNames t.current path)) (there : t.read path = .ok c) :
    u.read path = .ok c := by
  obtain ⟨p, leads⟩ := read_eq_ok_iff.mp there
  obtain ⟨located, found, noSlash⟩ := look_file_iff.mp leads
  have kept : u.at? p = some (.file c) := by
    apply h.file _ found
    rwa [place_of_locate located]
  exact read_eq_ok_iff.mpr ⟨p, look_file_iff.mpr ⟨h.locate located, kept, noSlash⟩⟩

end ContractClient.FileTree
