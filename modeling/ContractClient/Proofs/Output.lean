import ContractClient.Output
import ContractClient.Proofs.FileTree.Agreement
import ContractClient.Proofs.FileTree.Creation

/-!
# What writing files changes

`WritesOne` lists the ways in which writing one file can end, and `writesOne` says
that there are no others.  From it follows, for one file and then for a list of
files, which places may change (`extends_writeAll`) and which faults there are
(`isReported_or_null_of_writeOne_error`).  A run that fails has written the files before
the one with the fault, and nothing of the later ones.  Of the one with the fault it has
written nothing if it could not be opened, and a beginning if there was no room for all of
it (`exists_of_writeAll_fault`).

A file that is not to be replaced is looked for right before it would be written.
So writing it changes no file that is there, whatever was written before.
-/

namespace ContractClient.Output

open FileTree (Extends)

-- How directories are created is said by the rules of `Creates`.
seal FileTree.makeDirectories

variable {t : FileTree} {directory : String} {f : Code.File}

/-! ## One file -/

/-- How writing one file can end, and with which files. -/
inductive WritesOne (t : FileTree) (directory : String) (f : Code.File) :
    Except WriteFault Bool → FileTree → Prop
  /-- Its directory cannot be created. -/
  | noDirectory {fault u}
      (failed : t.makeDirectories (directoryOf (path directory f.name)) = (some fault, u)) :
      WritesOne t directory f
        (.error (.directory (directoryOf (path directory f.name)) fault)) u
  /-- It belongs to the user and is there. -/
  | kept {u} (ready : t.makeDirectories (directoryOf (path directory f.name)) = (none, u))
      (own : f.overwrite = false) (there : u.pathExists (path directory f.name) = true) :
      WritesOne t directory f (.ok false) u
  /-- It cannot be written, or not all of it. -/
  | noFile {fault u v}
      (ready : t.makeDirectories (directoryOf (path directory f.name)) = (none, u))
      (free : f.overwrite = true ∨ u.pathExists (path directory f.name) = false)
      (failed : u.write (path directory f.name) f.render.toUTF8 = (some fault, v)) :
      WritesOne t directory f (.error (.file (path directory f.name) fault)) v
  /-- It is written. -/
  | written {u v} (ready : t.makeDirectories (directoryOf (path directory f.name)) = (none, u))
      (free : f.overwrite = true ∨ u.pathExists (path directory f.name) = false)
      (done : u.write (path directory f.name) f.render.toUTF8 = (none, v)) :
      WritesOne t directory f (.ok true) v

theorem prepareDirectory_of_fault {fault : FileFault} {u : FileTree}
    (h : t.makeDirectories directory = (some fault, u)) :
    prepareDirectory t directory =
      { outcome := .error (.directory directory fault), files := u } := by
  unfold prepareDirectory
  rw [h]

theorem prepareDirectory_of_ok {u : FileTree} (h : t.makeDirectories directory = (none, u)) :
    prepareDirectory t directory = { outcome := .ok (), files := u } := by
  unfold prepareDirectory
  rw [h]

theorem writesOne {w : Written Bool} (ended : writeOne t directory f = w) :
    WritesOne t directory f w.outcome w.files := by
  rcases made : t.makeDirectories (directoryOf (path directory f.name)) with ⟨early, u⟩
  cases early with
  | some fault =>
      unfold writeOne at ended
      simp only [prepareDirectory_of_fault made] at ended
      subst ended
      exact .noDirectory made
  | none =>
      unfold writeOne at ended
      simp only [prepareDirectory_of_ok made] at ended
      split at ended
      next keep =>
        subst ended
        rw [Bool.and_eq_true, Bool.not_eq_true'] at keep
        exact .kept made keep.1 keep.2
      next replace =>
        have free : f.overwrite = true ∨ u.pathExists (path directory f.name) = false := by
          simpa [Classical.or_iff_not_imp_left] using replace
        split at ended
        next fault v failed => subst ended; exact .noFile made free failed
        next v done => subst ended; exact .written made free done

/-- The place of a file. -/
def placeOf (current : Place) (directory : String) (f : Code.File) : Place :=
  Path.absoluteNames current (path directory f.name)

/-- The place of a file that is replaced. -/
def IsReplaced (current : Place) (directory : String) (f : Code.File) (p : Place) : Prop :=
  f.overwrite = true ∧ p = placeOf current directory f

theorem extends_writeOne (t : FileTree) (directory : String) (f : Code.File) :
    Extends (IsReplaced t.current directory f) t (writeOne t directory f).files := by
  have prepared := FileTree.extends_makeDirectories (IsReplaced t.current directory f) t
    (directoryOf (path directory f.name))
  generalize ended : writeOne t directory f = w
  have ends := writesOne ended
  generalize w.outcome = outcome, w.files = after at ends ⊢
  have replaced : ∀ {u : FileTree}, u.current = t.current →
      (f.overwrite = true ∨ u.pathExists (path directory f.name) = false) →
      IsReplaced t.current directory f (Path.absoluteNames u.current (path directory f.name)) ∨
        u.pathExists (path directory f.name) = false :=
    fun same => Or.imp_left fun replace => ⟨replace, by rw [placeOf, same]⟩
  cases ends with
  | noDirectory failed => rw [failed] at prepared; exact prepared
  | kept ready own there => rw [ready] at prepared; exact prepared
  | noFile ready free failed =>
      rw [ready] at prepared
      exact prepared.trans (FileTree.extends_write failed (replaced prepared.current free))
  | written ready free done =>
      rw [ready] at prepared
      exact prepared.trans (FileTree.extends_write done (replaced prepared.current free))

/-- Whether a fault comes when a file is open, so that only a part of it is written. -/
def WriteFault.IsCut : WriteFault → Prop
  | .directory _ _ | .nothing => False
  | .file _ fault => fault.problem = .noSpace

/-- What is left of the files after the turn of one of them has failed. -/
structure FailedTurn (t : FileTree) (directory : String) (f : Code.File) (fault : WriteFault)
    (after : FileTree) : Prop where
  /-- No other file changes. -/
  others : ∀ p, p ≠ placeOf t.current directory f → after.content? p = t.content? p
  /-- A file that could not be opened is what it was. -/
  unopened : ¬ fault.IsCut →
    after.content? (placeOf t.current directory f) = t.content? (placeOf t.current directory f)
  /-- A file that was opened holds a proper beginning of its text. -/
  cut : fault.IsCut → ∃ n < f.render.toUTF8.size,
    after.read (path directory f.name) = .ok (f.render.toUTF8.extract 0 n)

theorem failedTurn_of_writeOne {fault : WriteFault}
    (h : (writeOne t directory f).outcome = .error fault) :
    FailedTurn t directory f fault (writeOne t directory f).files := by
  have kept := FileTree.content?_of_creates
    (FileTree.creates_makeDirectories t (directoryOf (path directory f.name)))
  have current := (FileTree.extends_makeDirectories (fun _ => False) t
    (directoryOf (path directory f.name))).current
  have ends := writesOne (w := writeOne t directory f) rfl
  rw [h] at ends
  generalize (writeOne t directory f).files = after at ends ⊢
  cases ends with
  | noDirectory failed =>
      rw [failed] at kept
      exact ⟨fun p _ => kept p, fun _ => kept _, False.elim⟩
  | @noFile late u v ready free failed =>
      rw [ready] at kept current
      refine ⟨fun p apart => ?_, fun uncut => ?_, FileTree.read_of_write_cut failed⟩
      · have agrees := FileTree.agrees_write failed
        rw [current] at agrees
        rw [← kept p, FileTree.content?, FileTree.content?, agrees.at? apart]
      · rw [FileTree.eq_of_write_fault failed uncut]
        exact kept _

/-! ## Files one after the other -/

section Run

variable {fs : List Code.File}

theorem writeAll_cons :
    writeAll t directory (f :: fs) =
      match (writeOne t directory f).outcome with
      | .error fault =>
        { outcome := .error fault
          files := (writeOne t directory f).files
          notices := (writeOne t directory f).notices }
      | .ok written =>
        { outcome := (writeAll (writeOne t directory f).files directory fs).outcome.map fun ps =>
            if written then path directory f.name :: ps else ps
          files := (writeAll (writeOne t directory f).files directory fs).files
          notices := (writeOne t directory f).notices ++
            (writeAll (writeOne t directory f).files directory fs).notices } := rfl

theorem writeAll_cons_of_error {fault : WriteFault}
    (h : (writeOne t directory f).outcome = .error fault) :
    (writeAll t directory (f :: fs)).outcome = .error fault ∧
      (writeAll t directory (f :: fs)).files = (writeOne t directory f).files := by
  rw [writeAll_cons, h]
  exact ⟨rfl, rfl⟩

theorem writeAll_cons_of_ok {written : Bool} (h : (writeOne t directory f).outcome = .ok written) :
    (writeAll t directory (f :: fs)).outcome =
        (writeAll (writeOne t directory f).files directory fs).outcome.map
          (fun ps => if written then path directory f.name :: ps else ps) ∧
      (writeAll t directory (f :: fs)).files =
        (writeAll (writeOne t directory f).files directory fs).files := by
  rw [writeAll_cons, h]
  exact ⟨rfl, rfl⟩

/-- Writing files changes only the files that are to be replaced. -/
theorem extends_writeAll (t : FileTree) (directory : String) (fs : List Code.File) :
    Extends (fun p => ∃ f ∈ fs, IsReplaced t.current directory f p) t
      (writeAll t directory fs).files := by
  induction fs generalizing t with
  | nil => exact .refl _ t
  | cons f fs ih =>
      have first : Extends (fun p => ∃ g ∈ f :: fs, IsReplaced t.current directory g p) t
          (writeOne t directory f).files :=
        (extends_writeOne t directory f).mono fun p hp => ⟨f, List.mem_cons_self, hp⟩
      cases ended : (writeOne t directory f).outcome with
      | error fault => rw [(writeAll_cons_of_error ended).2]; exact first
      | ok written =>
          rw [(writeAll_cons_of_ok ended).2]
          refine first.trans ((ih _).mono ?_)
          rintro p ⟨g, hg, hp⟩
          -- The first file does not change from where the places of the others are seen.
          rw [first.current] at hp
          exact ⟨g, List.mem_cons_of_mem f hg, hp⟩

/-- A run that fails has written the files before the one with the fault, and at most a part
of that one. -/
theorem exists_of_writeAll_fault {fault : WriteFault}
    (h : (writeAll t directory fs).outcome = .error fault) :
    ∃ before f rest paths, fs = before ++ f :: rest ∧
      (writeAll t directory before).outcome = .ok paths ∧
      (writeOne (writeAll t directory before).files directory f).outcome = .error fault ∧
      FailedTurn (writeAll t directory before).files directory f fault
        (writeAll t directory fs).files := by
  induction fs generalizing t with
  | nil => cases h
  | cons f fs ih =>
      cases ended : (writeOne t directory f).outcome with
      | error early =>
          rw [(writeAll_cons_of_error ended).1] at h
          cases h
          rw [(writeAll_cons_of_error ended).2]
          have nothing : (writeAll t directory []).files = t := rfl
          refine ⟨[], f, fs, [], rfl, rfl, ?_, ?_⟩
          · rw [nothing]
            exact ended
          · rw [nothing]
            exact failedTurn_of_writeOne ended
      | ok written =>
          rw [(writeAll_cons_of_ok ended).1] at h
          cases later : (writeAll (writeOne t directory f).files directory fs).outcome with
          | ok ps => rw [later] at h; cases h
          | error late =>
              rw [later] at h
              cases h
              obtain ⟨before, g, rest, paths, rfl, done, failed, kept⟩ := ih later
              refine ⟨f :: before, g, rest, if written then path directory f.name :: paths
                else paths, rfl, ?_, ?_, ?_⟩
              · rw [(writeAll_cons_of_ok ended).1, done]
                rfl
              · rw [(writeAll_cons_of_ok ended).2]
                exact failed
              · rw [(writeAll_cons_of_ok ended).2, (writeAll_cons_of_ok ended).2]
                exact kept

/-- A fault of a run is the fault of one of its files. -/
theorem exists_of_writeAll_error {fault : WriteFault}
    (h : (writeAll t directory fs).outcome = .error fault) :
    ∃ f ∈ fs, ∃ u, (writeOne u directory f).outcome = .error fault := by
  obtain ⟨before, f, rest, -, rfl, -, failed, -⟩ := exists_of_writeAll_fault h
  exact ⟨f, List.mem_append_right before List.mem_cons_self, _, failed⟩

/-- A file that is replaced is among those that were written. -/
theorem writeAll_ne_nil (replace : f.overwrite = true) :
    (writeAll t directory (f :: fs)).outcome ≠ .ok [] := by
  intro h
  cases ended : (writeOne t directory f).outcome with
  | error early => rw [(writeAll_cons_of_error ended).1] at h; cases h
  | ok written =>
      have isWritten : written = true := by
        have ends := writesOne (w := writeOne t directory f) rfl
        rw [ended] at ends
        cases ends with
        | kept ready own there => rw [own] at replace; cases replace
        | written ready free done => rfl
      rw [(writeAll_cons_of_ok ended).1, isWritten] at h
      cases rest : (writeAll (writeOne t directory f).files directory fs).outcome with
      | error late => rw [rest] at h; cases h
      | ok ps => rw [rest] at h; cases h

theorem outcome_writeProject {p : Code.Project} {rest : List Code.File}
    (files : p.files = f :: rest) (replace : f.overwrite = true) (t : FileTree)
    (directory : String) :
    (writeProject t directory p).outcome = (writeAll t directory p.files).outcome := by
  have written : (writeAll t directory p.files).outcome ≠ .ok [] := files ▸ writeAll_ne_nil replace
  unfold writeProject
  cases ended : (writeAll t directory p.files).outcome with
  | error fault => simp only [ended]
  | ok paths =>
      cases paths with
      | nil => exact absurd ended written
      | cons first others => simp only [ended]

theorem files_writeProject (t : FileTree) (directory : String) (p : Code.Project) :
    (writeProject t directory p).files = (writeAll t directory p.files).files := by
  unfold writeProject
  simp only
  split <;> rfl

end Run

/-! ## Faults -/

/-- A fault that the user is told as one of a directory or of a file, with its path
and its reason. -/
def WriteFault.IsReported (fault : WriteFault) : Prop :=
  ∃ path reason, fault.failure? = some (.directory path (some reason)) ∨
    fault.failure? = some (.writing (some path) (some reason))

section Faults

variable {c : Char} {n place : String}

theorem WriteFault.isReported_or_unasked (place : String) (fault : FileFault) :
    (WriteFault.IsReported (.directory place fault) ∧ WriteFault.IsReported (.file place fault)) ∨
      fault.problem = .nullByte ∧ WriteFault.failure? (.directory place fault) = none ∧
        WriteFault.failure? (.file place fault) = none := by
  cases asked : fault.isSystemFault with
  | true =>
      refine .inl ⟨⟨place, fault.message, .inl ?_⟩, ⟨place, fault.message, .inr ?_⟩⟩
      · rw [failure?, asked, if_pos rfl]
      · rw [failure?, asked, if_pos rfl]
  | false =>
      refine .inr ⟨by simpa [FileFault.isSystemFault] using asked, ?_, ?_⟩
      · rw [failure?, asked, if_neg Bool.false_ne_true]
      · rw [failure?, asked, if_neg Bool.false_ne_true]

theorem mem_of_mem_directoryOf (hc : c ≠ '/') (hp : c ≠ '.') (h : c ∈ (directoryOf place).toList) :
    c ∈ place.toList := by
  rw [directoryOf] at h
  split at h
  · simp [hp] at h
  · exact (Path.mem_parent_or_name_iff hc).mp (.inl h)

theorem mem_directoryOf_join (hn : Path.IsName n) (hc : c ≠ '/') (h : c ∈ place.toList)
    (other : c ∉ n.toList) : c ∈ (directoryOf (Path.join place n)).toList := by
  have inJoin : c ∈ (Path.join place n).toList := (Path.mem_join_iff hn hc place).mpr (.inl h)
  have inParent : c ∈ (Path.parent (Path.join place n)).toList := by
    rw [← Path.mem_parent_or_name_iff hc, Path.name_join hn] at inJoin
    exact inJoin.resolve_right other
  rw [directoryOf, if_neg]
  · exact inParent
  · intro empty
    rw [empty] at inParent
    cases inParent

/-- A fault of one file is reported, unless its path holds the null character. -/
theorem isReported_or_null_of_writeOne_error {fault : WriteFault}
    (h : (writeOne t directory f).outcome = .error fault) :
    fault.IsReported ∨ fault.failure? = none ∧ '\x00' ∈ (path directory f.name).toList := by
  generalize ended : writeOne t directory f = w at h
  have ends := writesOne ended
  rw [h] at ends
  cases ends with
  | @noDirectory early u failed =>
      refine (WriteFault.isReported_or_unasked _ early).imp (fun told => told.1) ?_
      rintro ⟨unasked, untold, -⟩
      have null := FileTree.null_of_fault (FileTree.creates_makeDirectories t _)
        (congrArg Prod.fst failed) unasked
      exact ⟨untold, mem_of_mem_directoryOf (by decide) (by decide) null⟩
  | @noFile late u v ready free failed =>
      refine (WriteFault.isReported_or_unasked _ late).imp (fun told => told.2) ?_
      rintro ⟨unasked, -, untold⟩
      exact ⟨untold, FileTree.mem_of_write_fault failed unasked⟩

/-- No file is written into a directory whose path holds the null character. -/
theorem writeOne_of_null (null : '\x00' ∈ (directoryOf (path directory f.name)).toList) :
    ∃ place fault, (writeOne t directory f).outcome = .error (.directory place fault) := by
  obtain ⟨early, failed, -⟩ := FileTree.fault_of_null
    (FileTree.creates_makeDirectories t (directoryOf (path directory f.name))) null
  generalize ended : writeOne t directory f = w
  have ends := writesOne ended
  generalize w.outcome = outcome, w.files = after at ends ⊢
  cases ends with
  | noDirectory _ => exact ⟨_, _, rfl⟩
  | kept ready _ _ => rw [ready] at failed; cases failed
  | noFile ready _ _ => rw [ready] at failed; cases failed
  | written ready _ _ => rw [ready] at failed; cases failed

end Faults

end ContractClient.Output
