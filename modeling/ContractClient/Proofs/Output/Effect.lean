import ContractClient.Proofs.FileTree.Agreement
import ContractClient.Proofs.Output
import Mathlib.Data.List.Nodup

/-!
# What writing files leaves behind

Once the directories are there, writing one file depends on the file alone: it is
written if it is to be replaced or nothing is at its path, and is kept otherwise
(`isWritten`).  The files of a run are at different places, so no write changes what
the others find.  So a run that succeeds writes exactly the files that would be written
right at its start, and leaves all else as it was (`effect_writeAll`).  The same run
again changes nothing (`writeAll_again`).
-/

namespace ContractClient.Output

open FileTree (Agrees Extends)

-- How directories are created is said by the rules of `Creates`.
seal FileTree.makeDirectories

variable {t u : FileTree} {p : Place} {directory place : String} {f : Code.File}
  {fs : List Code.File} {loose : Place → Prop}

/-! ## The directory of a file -/

theorem isDirectory_here_iff :
    t.isDirectory "." = true ↔ t.at? t.current = some .directory := by
  have led : t.locate "." = t.follow t.current ["."] := rfl
  rw [FileTree.isDirectory_iff, led]
  constructor
  · rintro ⟨p, located, -⟩
    exact FileTree.at?_of_follow_cons located
  · intro found
    exact ⟨t.current, by simp [FileTree.follow, found], found⟩

/-- A path without a parent is one name, seen from the current directory. -/
theorem locate_of_parent_eq_empty (named : Path.name place ≠ "") (alone : Path.parent place = "")
    (h : t.locate place = .ok p) : t.follow t.current [Path.name place] = .ok p := by
  obtain ⟨-, -, -, led⟩ := FileTree.locate_eq_ok_iff.mp h
  rw [FileTree.start, Path.not_isAbsolute_of_parent alone, FileTree.steps_parent_append, alone,
    FileTree.steps_name named] at led
  exact led

/-- A path that can be followed has its directory. -/
theorem isDirectory_directoryOf (named : Path.name place ≠ "") (h : t.locate place = .ok p) :
    t.isDirectory (directoryOf place) = true := by
  rw [directoryOf]
  split
  next alone =>
    exact isDirectory_here_iff.mpr
      (FileTree.at?_of_follow_cons (locate_of_parent_eq_empty named alone h))
  next head => exact FileTree.isDirectory_parent h head named

/-- A path whose directory is there can be followed now, if it can be followed later. -/
theorem locate_of_isDirectory_directoryOf (h : Extends loose t u) (named : Path.name place ≠ "")
    (there : t.isDirectory (directoryOf place) = true) (led : u.locate place = .ok p) :
    t.locate place = .ok p := by
  rw [directoryOf] at there
  split at there
  next alone =>
    have found := isDirectory_here_iff.mp there
    have last := locate_of_parent_eq_empty named alone led
    rw [h.current, ← FileTree.follow_singleton_congr _ found (h.directory found)] at last
    obtain ⟨noNull, nonempty, short, -⟩ := FileTree.locate_eq_ok_iff.mp led
    refine FileTree.locate_eq_ok_iff.mpr ⟨noNull, nonempty, short, ?_⟩
    rw [FileTree.start, Path.not_isAbsolute_of_parent alone, FileTree.steps_parent_append, alone,
      FileTree.steps_name named]
    exact last
  next => exact FileTree.locate_of_isDirectory h named there led

/-- A path whose directory is there leads to something after one directory more was created
only if it did so before, or if it is the path of that directory. -/
theorem pathExists_of_attempt {made : String} (named : Path.name place ≠ "")
    (there : t.isDirectory (directoryOf place) = true)
    (apart : Path.absoluteNames t.current place ≠ Path.absoluteNames t.current made)
    (later : (t.attempt made).2.pathExists place = true) : t.pathExists place = true := by
  have ext := FileTree.extends_attempt (fun _ => False) t made
  obtain ⟨p, n, located, found, fits⟩ := FileTree.pathExists_iff.mp later
  have here := FileTree.place_of_locate located
  rw [ext.current] at here
  have same : (t.attempt made).2.at? p = t.at? p := by
    rcases FileTree.addsAt_attempt t made p with same | ⟨-, -, added⟩
    · exact same
    · exact absurd (here.symm.trans added) apart
  rw [same] at found
  exact FileTree.pathExists_iff.mpr
    ⟨p, n, locate_of_isDirectory_directoryOf ext named there located, found, fits⟩

/-! ## One file -/

/-- Whether a file is written: it is to be replaced, or nothing is at its path. -/
def isWritten (t : FileTree) (directory : String) (f : Code.File) : Bool :=
  f.overwrite || !t.pathExists (path directory f.name)

section One

variable (there : t.isDirectory (directoryOf (path directory f.name)) = true)
include there

theorem writeOne_of_isDirectory :
    writeOne t directory f =
      if isWritten t directory f then
        match t.write (path directory f.name) f.render.toUTF8 with
        | (some fault, u) =>
          { outcome := .error (.file (path directory f.name) fault), files := u }
        | (none, u) =>
          { outcome := .ok true, files := u, notices := [.fileWritten (path directory f.name)] }
      else
        { outcome := .ok false, files := t, notices := [.fileKept (path directory f.name)] } := by
  have keep : (!f.overwrite && t.pathExists (path directory f.name)) =
      !isWritten t directory f := by simp [isWritten]
  unfold writeOne
  simp only [prepareDirectory_of_ok (FileTree.makeDirectories_of_isDirectory there), keep]
  cases isWritten t directory f <;> rfl

theorem writeOne_of_kept (h : isWritten t directory f = false) :
    (writeOne t directory f).outcome = .ok false ∧ (writeOne t directory f).files = t := by
  rw [writeOne_of_isDirectory there, h]
  exact ⟨rfl, rfl⟩

theorem writeOne_of_written (h : isWritten t directory f = true)
    (done : t.write (path directory f.name) f.render.toUTF8 = (none, u)) :
    (writeOne t directory f).outcome = .ok true ∧ (writeOne t directory f).files = u := by
  rw [writeOne_of_isDirectory there, h, if_pos rfl, done]
  exact ⟨rfl, rfl⟩

/-- A file whose turn ends well is kept or written, as `isWritten` says. -/
theorem writeOne_cases {written : Bool} (h : (writeOne t directory f).outcome = .ok written) :
    written = isWritten t directory f ∧
      (written = false ∧ (writeOne t directory f).files = t ∨
        written = true ∧ t.write (path directory f.name) f.render.toUTF8 =
          (none, (writeOne t directory f).files)) := by
  cases due : isWritten t directory f with
  | false =>
      obtain ⟨outcome, files⟩ := writeOne_of_kept there due
      rw [outcome] at h
      cases h
      exact ⟨rfl, .inl ⟨rfl, files⟩⟩
  | true =>
      rcases done : t.write (path directory f.name) f.render.toUTF8 with ⟨late, u⟩
      cases late with
      | some fault =>
          rw [writeOne_of_isDirectory there, due, if_pos rfl, done] at h
          cases h
      | none =>
          obtain ⟨outcome, files⟩ := writeOne_of_written there due done
          rw [outcome] at h
          cases h
          exact ⟨rfl, .inr ⟨rfl, by rw [files]⟩⟩

end One

/-! ## A run that succeeds -/

/-- The directory of each of some files is there. -/
def Settled (t : FileTree) (directory : String) (fs : List Code.File) : Prop :=
  ∀ f ∈ fs, t.isDirectory (directoryOf (path directory f.name)) = true

/-- What a run leaves behind that starts when all directories are there. -/
structure Effect (t : FileTree) (directory : String) (fs : List Code.File) (paths : List String)
    (after : FileTree) : Prop where
  /-- The paths of the files that were due, in their order. -/
  listed : paths = (fs.filter (isWritten t directory)).map fun f => path directory f.name
  /-- The files that were due are there. -/
  written : ∀ f ∈ fs, isWritten t directory f = true →
    after.read (path directory f.name) = .ok f.render.toUTF8
  /-- Nothing changes at other places. -/
  others : Agrees (fun p => ∃ f ∈ fs, isWritten t directory f = true ∧
    p = placeOf t.current directory f) t after

theorem agrees_writeOne (there : t.isDirectory (directoryOf (path directory f.name)) = true)
    {written : Bool} (h : (writeOne t directory f).outcome = .ok written) :
    Agrees (fun p => isWritten t directory f = true ∧ p = placeOf t.current directory f) t
      (writeOne t directory f).files := by
  obtain ⟨due, ended⟩ := writeOne_cases there h
  rcases ended with ⟨-, files⟩ | ⟨rfl, done⟩
  · rw [files]
    exact .refl _ t
  · exact (FileTree.agrees_write done).mono fun p here => ⟨due.symm, here⟩

/-- The turn of one file does not change whether a file at another place is written. -/
theorem isWritten_writeOne (there : t.isDirectory (directoryOf (path directory f.name)) = true)
    {written : Bool} (h : (writeOne t directory f).outcome = .ok written) {g : Code.File}
    (apart : placeOf t.current directory g ≠ placeOf t.current directory f) :
    isWritten (writeOne t directory f).files directory g = isWritten t directory g := by
  rw [isWritten, isWritten, (agrees_writeOne there h).pathExists]
  exact fun ⟨_, here⟩ => apart here

/-- What a run leaves behind, from the turn of its first file and the rest of the run. -/
theorem Effect.cons (there : t.isDirectory (directoryOf (path directory f.name)) = true)
    {written : Bool} (ended : (writeOne t directory f).outcome = .ok written)
    (alone : placeOf t.current directory f ∉ fs.map (placeOf t.current directory))
    {paths : List String} {after : FileTree}
    (rest : Effect (writeOne t directory f).files directory fs paths after) :
    Effect t directory (f :: fs) (if written then path directory f.name :: paths else paths)
      after := by
  obtain ⟨due, turn⟩ := writeOne_cases there ended
  have first := agrees_writeOne there ended
  have current := first.forth.current
  have apart : ∀ g ∈ fs, placeOf t.current directory g ≠ placeOf t.current directory f :=
    fun g hg here => alone (List.mem_map.mpr ⟨g, hg, here⟩)
  have same : ∀ g ∈ fs, isWritten (writeOne t directory f).files directory g =
      isWritten t directory g :=
    fun g hg => isWritten_writeOne there ended (apart g hg)
  refine ⟨?_, ?_, ?_⟩
  · rw [rest.listed, List.filter_congr same, List.filter_cons, ← due]
    cases written <;> rfl
  · intro g hg dueG
    cases List.mem_cons.mp hg with
    | inr hg => exact rest.written g hg ((same g hg).trans dueG)
    | inl isFirst =>
        subst isFirst
        rcases turn with ⟨kept, -⟩ | ⟨-, done⟩
        · rw [due, dueG] at kept; cases kept
        · -- The file is written first, and no later one is at its place.
          apply rest.others.forth.read _ (FileTree.read_of_write done)
          rintro ⟨k, hk, -, here⟩
          rw [current] at here
          exact apart k hk here.symm
  · refine (first.mono ?_).trans (rest.others.mono ?_)
    · rintro p ⟨dueF, here⟩
      exact ⟨f, List.mem_cons_self, dueF, here⟩
    · rintro p ⟨g, hg, dueG, here⟩
      rw [current] at here
      exact ⟨g, List.mem_cons_of_mem f hg, (same g hg).symm.trans dueG, here⟩

/-- A run that succeeds writes the files that were due at its start, and no others. -/
theorem effect_writeAll {paths : List String} (settled : Settled t directory fs)
    (apart : (fs.map (placeOf t.current directory)).Nodup)
    (h : (writeAll t directory fs).outcome = .ok paths) :
    Effect t directory fs paths (writeAll t directory fs).files := by
  induction fs generalizing t paths with
  | nil =>
      cases h
      exact ⟨rfl, by simp, .refl _ t⟩
  | cons f fs ih =>
      obtain ⟨there, others⟩ := List.forall_mem_cons.mp settled
      obtain ⟨alone, apart⟩ := List.nodup_cons.mp apart
      cases ended : (writeOne t directory f).outcome with
      | error fault => rw [(writeAll_cons_of_error ended).1] at h; cases h
      | ok written =>
          rw [(writeAll_cons_of_ok ended).1] at h
          rw [(writeAll_cons_of_ok ended).2]
          have first := (agrees_writeOne there ended).forth
          cases later : (writeAll (writeOne t directory f).files directory fs).outcome with
          | error fault => rw [later] at h; cases h
          | ok ps =>
              have rest := ih (fun g hg => first.isDirectory (others g hg))
                (first.current ▸ apart) later
              rw [later] at h
              cases h
              exact rest.cons there ended alone

/-- After a run every file is there, whether it was written or kept. -/
theorem Effect.pathExists {paths : List String} {after : FileTree}
    (effect : Effect t directory fs paths after)
    (apart : (fs.map (placeOf t.current directory)).Nodup) (hf : f ∈ fs) :
    after.pathExists (path directory f.name) = true := by
  cases due : isWritten t directory f with
  | true => exact FileTree.pathExists_of_read (effect.written f hf due)
  | false =>
      have there : t.pathExists (path directory f.name) = true := by
        simp only [isWritten, Bool.or_eq_false_iff, Bool.not_eq_false'] at due
        exact due.2
      apply effect.others.forth.pathExists _ there
      rintro ⟨g, hg, dueG, here⟩
      have same : f = g := List.inj_on_of_nodup_map apart hf hg here
      rw [same, dueG] at due
      cases due

/-- What is at a place to which no listed path leads stays as it was. -/
theorem Effect.at? {paths : List String} {after : FileTree}
    (effect : Effect t directory fs paths after)
    (elsewhere : ∀ place ∈ paths, p ≠ Path.absoluteNames t.current place) :
    after.at? p = t.at? p := by
  apply effect.others.at?
  rintro ⟨f, hf, due, here⟩
  refine elsewhere (path directory f.name) ?_ here
  rw [effect.listed]
  exact List.mem_map.mpr ⟨f, List.mem_filter.mpr ⟨hf, due⟩, rfl⟩

theorem Effect.settled {paths : List String} {after : FileTree}
    (effect : Effect t directory fs paths after) (settled : Settled t directory fs) :
    Settled after directory fs :=
  fun f hf => effect.others.forth.isDirectory (settled f hf)

/-- A file that is there as it would be written is written without a change, and a file of
the user that is there is kept. -/
theorem writeOne_again (there : t.isDirectory (directoryOf (path directory f.name)) = true)
    (replaced : f.overwrite = true → t.read (path directory f.name) = .ok f.render.toUTF8)
    (kept : f.overwrite = false → t.pathExists (path directory f.name) = true) :
    (writeOne t directory f).outcome = .ok f.overwrite ∧
      Agrees (fun _ => False) t (writeOne t directory f).files := by
  cases replace : f.overwrite with
  | false =>
      have due : isWritten t directory f = false := by
        rw [isWritten, replace, kept replace, Bool.not_true, Bool.or_false]
      obtain ⟨outcome, files⟩ := writeOne_of_kept there due
      rw [files]
      exact ⟨outcome, .refl _ t⟩
  | true =>
      have due : isWritten t directory f = true := by rw [isWritten, replace, Bool.true_or]
      obtain ⟨u, done, agrees⟩ := FileTree.agrees_write_of_read (replaced replace)
      obtain ⟨outcome, files⟩ := writeOne_of_written there due done
      rw [files]
      exact ⟨outcome, agrees⟩

/-- A run over files that are all there as they would be written changes nothing. -/
theorem writeAll_again (settled : Settled t directory fs)
    (replaced : ∀ f ∈ fs, f.overwrite = true →
      t.read (path directory f.name) = .ok f.render.toUTF8)
    (kept : ∀ f ∈ fs, f.overwrite = false → t.pathExists (path directory f.name) = true) :
    (writeAll t directory fs).outcome =
        .ok ((fs.filter Code.File.overwrite).map fun f => path directory f.name) ∧
      Agrees (fun _ => False) t (writeAll t directory fs).files := by
  induction fs generalizing t with
  | nil => exact ⟨rfl, .refl _ t⟩
  | cons f fs ih =>
      obtain ⟨there, rest⟩ := List.forall_mem_cons.mp settled
      obtain ⟨base, bases⟩ := List.forall_mem_cons.mp replaced
      obtain ⟨own, owns⟩ := List.forall_mem_cons.mp kept
      obtain ⟨ended, agrees⟩ := writeOne_again there base own
      obtain ⟨outcome, others⟩ := ih
        (fun g hg => agrees.forth.isDirectory (rest g hg))
        (fun g hg replace => agrees.forth.read id (bases g hg replace))
        (fun g hg own => agrees.forth.pathExists id (owns g hg own))
      rw [(writeAll_cons_of_ok ended).1, (writeAll_cons_of_ok ended).2, outcome, List.filter_cons]
      exact ⟨by cases f.overwrite <;> rfl, agrees.trans others⟩

/-! ## The first file -/

/-- A file whose turn ends well can be reached once its directory is created. -/
theorem exists_locate_of_writeOne {written : Bool}
    (h : (writeOne t directory f).outcome = .ok written) :
    ∃ ready p, t.makeDirectories (directoryOf (path directory f.name)) = (none, ready) ∧
      ready.locate (path directory f.name) = .ok p := by
  have ends := writesOne (w := writeOne t directory f) rfl
  rw [h] at ends
  generalize (writeOne t directory f).files = after at ends
  cases ends with
  | kept made own there =>
      obtain ⟨p, -, located, -⟩ := FileTree.pathExists_iff.mp there
      exact ⟨_, p, made, located⟩
  | written made free done =>
      obtain ⟨p, aimed, -⟩ := FileTree.write_eq_none_iff.mp (congrArg Prod.fst done)
      exact ⟨_, p, made, (FileTree.target_eq_ok_iff.mp aimed).2.1⟩

/-- The first file of a run that succeeds creates the directory it needs.  The run is the
one that starts after this. -/
theorem exists_ready {paths : List String} (named : Path.name (path directory f.name) ≠ "")
    (h : (writeAll t directory (f :: fs)).outcome = .ok paths) :
    ∃ ready, t.makeDirectories (directoryOf (path directory f.name)) = (none, ready) ∧
      ready.isDirectory (directoryOf (path directory f.name)) = true ∧
      writeAll t directory (f :: fs) = writeAll ready directory (f :: fs) := by
  cases ended : (writeOne t directory f).outcome with
  | error fault => rw [(writeAll_cons_of_error ended).1] at h; cases h
  | ok written =>
      obtain ⟨ready, p, made, located⟩ := exists_locate_of_writeOne ended
      have there := isDirectory_directoryOf named located
      have again := FileTree.makeDirectories_of_isDirectory there
      have same : writeOne t directory f = writeOne ready directory f := by
        unfold writeOne
        simp only [prepareDirectory_of_ok made, prepareDirectory_of_ok again]
      exact ⟨ready, made, there, by rw [writeAll_cons, writeAll_cons, same]⟩

end ContractClient.Output
