import ContractClient.Proofs.FileTree.Extends

/-!
# Creating a directory with those above it

`Creates t path r` says in rules how a directory and those above it are created,
and `creates_makeDirectories` that `makeDirectories` goes by them.  What holds of
every creation is then shown by induction on the rules.

A creation extends the tree also where it fails.  It fails on every path with the
null character, and only such a path makes a fault that the system is not asked
about.
-/

namespace ContractClient.FileTree

-- Sealed, so that the steps of a creation can be compared without looking into them.
seal above pathExists makeDirectory isDirectory

/-! ## One directory above the other -/

/-- Whether what is above a path has to be created first. -/
def needsHead (t : FileTree) (path : String) : Bool :=
  (above path).1 != "" && (above path).2 != "" && !t.pathExists (above path).1

/-- Creates one directory.  It may be there already. -/
def attempt (t : FileTree) (path : String) : Option FileFault × FileTree :=
  match t.makeDirectory path with
  | .ok u => (none, u)
  | .error fault => if t.isDirectory path then (none, t) else (some fault, t)

/-- A fault above that does not end a creation: something was there. -/
def IsHarmless (early : Option FileFault) : Prop := ∀ f, early = some f → f.problem = .present

/-- How a directory is created with those above it. -/
inductive Creates : FileTree → String → Option FileFault × FileTree → Prop
  /-- Nothing has to be created above it. -/
  | direct {t path} (noHead : t.needsHead path = false) : Creates t path (t.attempt path)
  /-- What is above it could not be created. -/
  | blocked {t path fault u} (head : t.needsHead path = true)
      (above : Creates t (above path).1 (some fault, u)) (ends : fault.problem ≠ .present) :
      Creates t path (some fault, u)
  /-- The directory is the one above it. -/
  | here {t path early u} (head : t.needsHead path = true)
      (above : Creates t (above path).1 (early, u)) (goesOn : IsHarmless early)
      (point : (FileTree.above path).2 = ".") : Creates t path (none, u)
  /-- The directory comes after those above it. -/
  | after {t path early u} (head : t.needsHead path = true)
      (above : Creates t (above path).1 (early, u)) (goesOn : IsHarmless early)
      (name : (FileTree.above path).2 ≠ ".") : Creates t path (u.attempt path)

theorem length_above {path : String} (h : (above path).2 ≠ "") :
    (above path).1.length < path.length := by
  have nonempty : 0 < (above path).2.length :=
    Nat.pos_of_ne_zero fun zero => h (String.length_eq_zero_iff.mp zero)
  rw [above] at nonempty ⊢
  split at nonempty
  next slash =>
    have inner := Path.length_parent_add_length_name (Path.parent path)
    have outer := Path.length_parent_add_length_name path
    rw [if_pos slash]
    simp only at nonempty ⊢
    omega
  next noSlash =>
    have outer := Path.length_parent_add_length_name path
    rw [if_neg noSlash]
    simp only at nonempty ⊢
    omega

/-- Only slashes are lost between a path and the two parts it is divided into. -/
theorem mem_above_iff {path : String} {c : Char} (hc : c ≠ '/') :
    c ∈ (above path).1.toList ∨ c ∈ (above path).2.toList ↔ c ∈ path.toList := by
  rw [above]
  split
  next slash =>
    have outer : c ∈ (Path.parent path).toList ∨ c ∈ (Path.name path).toList ↔ c ∈ path.toList :=
      Path.mem_parent_or_name_iff hc
    rw [slash] at outer
    rw [Path.mem_parent_or_name_iff hc, ← outer]
    simp
  next => exact Path.mem_parent_or_name_iff hc

section Steps

/-- Creates what is above a path, if this is needed. -/
def createHead (fuel : Nat) (t : FileTree) (path : String) : Option FileFault × FileTree :=
  if t.needsHead path then makeDirectoriesWithin fuel t (above path).1 else (none, t)

theorem makeDirectoriesWithin_succ (fuel : Nat) (t : FileTree) (path : String) :
    makeDirectoriesWithin (fuel + 1) t path =
      match (createHead fuel t path).1 with
      | some ⟨.present, _⟩ | none =>
        if t.needsHead path && (above path).2 == "." then (none, (createHead fuel t path).2)
        else (createHead fuel t path).2.attempt path
      | some fault => (some fault, (createHead fuel t path).2) := rfl

variable {fuel : Nat} {t : FileTree} {path : String}

theorem makeDirectoriesWithin_of_fault {fault : FileFault}
    (failed : (createHead fuel t path).1 = some fault) (ends : fault.problem ≠ .present) :
    makeDirectoriesWithin (fuel + 1) t path = (some fault, (createHead fuel t path).2) := by
  rw [makeDirectoriesWithin_succ]
  split
  next found => rw [found] at failed; cases failed; exact absurd rfl ends
  next found => rw [found] at failed; cases failed
  next found => rw [found] at failed; cases failed; rfl

theorem makeDirectoriesWithin_of_isHarmless
    (goesOn : IsHarmless (createHead fuel t path).1) :
    makeDirectoriesWithin (fuel + 1) t path =
      if t.needsHead path && (above path).2 == "." then (none, (createHead fuel t path).2)
      else (createHead fuel t path).2.attempt path := by
  rw [makeDirectoriesWithin_succ]
  split
  next => rfl
  next => rfl
  next fault other found =>
    exact absurd (goesOn fault found) fun present => other fault.path (by rw [← present])

end Steps

/-- The steps suffice, since every path is longer than the one above it. -/
theorem creates_makeDirectoriesWithin {fuel : Nat} {path : String} (t : FileTree)
    (enough : path.length < fuel) : Creates t path (makeDirectoriesWithin fuel t path) := by
  induction fuel generalizing path with
  | zero => omega
  | succ fuel ih =>
      cases head : t.needsHead path with
      | false =>
          have atOnce : createHead fuel t path = (none, t) := by rw [createHead, head]; rfl
          have harmless : IsHarmless (createHead fuel t path).1 := by
            rw [atOnce]; intro f h; cases h
          rw [makeDirectoriesWithin_of_isHarmless harmless, atOnce, head]
          exact .direct head
      | true =>
          have named : (above path).2 ≠ "" := by
            simp only [needsHead, Bool.and_eq_true, bne_iff_ne] at head
            exact head.1.2
          have shorter := length_above named
          have first : createHead fuel t path = makeDirectoriesWithin fuel t (above path).1 := by
            rw [createHead, if_pos head]
          have created : Creates t (above path).1 (createHead fuel t path) :=
            first ▸ ih (by omega)
          by_cases goesOn : IsHarmless (createHead fuel t path).1
          · rw [makeDirectoriesWithin_of_isHarmless goesOn, head, Bool.true_and]
            split
            next point => exact .here head created goesOn (beq_iff_eq.mp point)
            next name => exact .after head created goesOn fun point => name (beq_iff_eq.mpr point)
          · simp only [IsHarmless, Classical.not_forall] at goesOn
            obtain ⟨fault, failed, ends⟩ := goesOn
            rw [makeDirectoriesWithin_of_fault failed ends]
            refine .blocked head ?_ ends
            rw [← failed]
            exact created

theorem creates_makeDirectories (t : FileTree) (path : String) :
    Creates t path (t.makeDirectories path) :=
  creates_makeDirectoriesWithin t (Nat.lt_succ_self path.length)

/-! ## What a creation keeps -/

theorem extends_attempt (loose : Place → Prop) (t : FileTree) (path : String) :
    Extends loose t (t.attempt path).2 := by
  rw [attempt]
  split
  next u made => exact extends_makeDirectory made
  next fault =>
    split <;> exact .refl loose t

theorem extends_of_creates {t : FileTree} {path : String} {r : Option FileFault × FileTree}
    (loose : Place → Prop) (h : Creates t path r) : Extends loose t r.2 := by
  induction h with
  | direct noHead => exact extends_attempt loose _ _
  | blocked head above ends ih => exact ih
  | here head above goesOn point ih => exact ih
  | after head above goesOn name ih => exact ih.trans (extends_attempt loose _ _)

theorem extends_makeDirectories (loose : Place → Prop) (t : FileTree) (path : String) :
    Extends loose t (t.makeDirectories path).2 :=
  extends_of_creates loose (creates_makeDirectories t path)

section Faults

variable {t : FileTree} {path : String}

/-! ## Paths that do not lead -/

/-- The problems that following names can run into. -/
theorem mem_of_follow_error {p : Place} {ns : List String} {problem : FileProblem}
    (h : t.follow p ns = .error problem) :
    problem ∈ [FileProblem.absent, .notDirectory, .nameTooLong] := by
  fun_induction follow t p ns with
  | case1 p => cases h
  | case2 p n ns absent => cases h; decide
  | case3 p n ns content found => cases h; decide
  | case4 p ns found ih => exact ih h
  | case5 p ns found here ih => exact ih h
  | case6 p n ns found here up long => cases h; decide
  | case7 p n ns found here up short ih => exact ih h

/-- The system is not asked exactly about the paths with the null character. -/
theorem locateFrom_eq_nullByte_iff {ns : List String} :
    t.locateFrom path ns = .error .nullByte ↔ '\x00' ∈ path.toList := by
  rw [locateFrom]
  split
  next null => simp [null]
  next noNull =>
    simp only [noNull, iff_false]
    split
    · intro h; cases h
    split
    · intro h; cases h
    · intro h; exact absurd (mem_of_follow_error h) (by decide)

theorem locateFrom_ne_noSpace {ns : List String} : t.locateFrom path ns ≠ .error .noSpace := by
  rw [locateFrom]
  split
  · intro h; cases h
  split
  · intro h; cases h
  split
  · intro h; cases h
  · intro h; exact absurd (mem_of_follow_error h) (by decide)

/-- A file cannot be opened where a directory is, and where its path does not lead. -/
theorem target_error {problem : FileProblem} (h : t.target path = .error problem) :
    problem = .isDirectory ∨ ∃ ns, t.locateFrom path ns = .error problem := by
  rw [target] at h
  split at h
  next =>
    rcases bind_eq_error_iff.mp h with located | ⟨_, _, directory⟩
    · exact .inr ⟨_, located⟩
    · cases directory; exact .inl rfl
  next =>
    rcases bind_eq_error_iff.mp h with located | ⟨q, _, directory⟩
    · exact .inr ⟨_, located⟩
    · split at directory <;> cases directory
      exact .inl rfl

/-! ## The null character -/

theorem makeDirectory_of_null (null : '\x00' ∈ path.toList) :
    t.makeDirectory path = .error ⟨.nullByte, path⟩ := by
  rw [makeDirectory, locate, locateFrom_eq_nullByte_iff.mpr null]

theorem mem_of_makeDirectory_fault {fault : FileFault} (h : t.makeDirectory path = .error fault)
    (unasked : fault.problem = .nullByte) : '\x00' ∈ path.toList := by
  rw [makeDirectory] at h
  split at h
  next problem failed =>
    cases h
    cases unasked
    exact locateFrom_eq_nullByte_iff.mp failed
  next =>
    split at h
    · cases h; cases unasked
    · cases h

theorem mem_of_write_fault {content : ByteArray} {fault : FileFault} {u : FileTree}
    (h : t.write path content = (some fault, u)) (unasked : fault.problem = .nullByte) :
    '\x00' ∈ path.toList := by
  have ends := writes t path content
  rw [h] at ends
  cases ends with
  | unopened failed =>
      cases unasked
      rcases target_error failed with directory | ⟨ns, located⟩
      · cases directory
      · exact locateFrom_eq_nullByte_iff.mp located
  | cut aimed short put => cases unasked

theorem attempt_of_null (null : '\x00' ∈ path.toList) :
    t.attempt path = (some ⟨.nullByte, path⟩, t) := by
  have unseen : t.isDirectory path = false := by
    have noPlace : t.look path = .error .nullByte := by
      rw [look, locate, locateFrom_eq_nullByte_iff.mpr null]
      rfl
    rw [isDirectory, noPlace]
  simp only [attempt, makeDirectory_of_null null, unseen, Bool.false_eq_true, if_false]

theorem mem_of_attempt_fault {fault : FileFault} (h : (t.attempt path).1 = some fault)
    (unasked : fault.problem = .nullByte) : '\x00' ∈ path.toList := by
  rw [attempt] at h
  split at h
  · cases h
  next failed =>
    split at h
    · cases h
    · cases h
      exact mem_of_makeDirectory_fault failed unasked

/-- No directory is created under a name with the null character. -/
theorem fault_of_null {r : Option FileFault × FileTree} (h : Creates t path r)
    (null : '\x00' ∈ path.toList) : ∃ fault, r.1 = some fault ∧ fault.problem ≠ .present := by
  induction h with
  | direct noHead => exact ⟨_, by rw [attempt_of_null null], by simp⟩
  | blocked head above ends ih => exact ⟨_, rfl, ends⟩
  | @here path early u head above goesOn point ih =>
      -- The last name is a point, so the null character is above it, where nothing was created.
      have inHead : '\x00' ∈ (FileTree.above path).1.toList := by
        cases (mem_above_iff (by decide)).mpr null with
        | inl inHead => exact inHead
        | inr inName => rw [point] at inName; simp at inName
      obtain ⟨fault, failed, ends⟩ := ih inHead
      exact absurd (goesOn fault failed) ends
  | after head above goesOn name ih => exact ⟨_, by rw [attempt_of_null null], by simp⟩

theorem null_of_fault {r : Option FileFault × FileTree} {fault : FileFault} (h : Creates t path r)
    (failed : r.1 = some fault) (unasked : fault.problem = .nullByte) :
    '\x00' ∈ path.toList := by
  induction h with
  | direct noHead => exact mem_of_attempt_fault failed unasked
  | blocked head above ends ih => exact (mem_above_iff (by decide)).mp (.inl (ih failed))
  | here head above goesOn point ih => cases failed
  | after head above goesOn name ih => exact mem_of_attempt_fault failed unasked

end Faults

end ContractClient.FileTree
