import ContractClient.Proofs.FileTree.Parents

/-!
# Trees that agree

Two trees agree up to some loose places if each has all that the other one has
elsewhere.  Then they have the same directories, so every path leads to the same place
in both.  Writing a file gives a tree that agrees with the one before up to the place of
the file, whether all of it could be stored or not (`agrees_write`).  So whether a path
leads to something changes for paths to that place only (`Agrees.pathExists`).
-/

namespace ContractClient.FileTree

variable {t u v : FileTree} {p q : Place} {path : String} {content : ByteArray}
  {loose : Place → Prop}

/-- The trees have the same directories, and the same files but at loose places. -/
structure Agrees (loose : Place → Prop) (t u : FileTree) : Prop where
  forth : Extends loose t u
  back : Extends loose u t

theorem Agrees.refl (loose : Place → Prop) (t : FileTree) : Agrees loose t t :=
  ⟨.refl loose t, .refl loose t⟩

theorem Agrees.trans (h : Agrees loose t u) (k : Agrees loose u v) : Agrees loose t v :=
  ⟨h.forth.trans k.forth, k.back.trans h.back⟩

theorem Agrees.mono {wider : Place → Prop} (h : Agrees loose t u)
    (sub : ∀ p, loose p → wider p) : Agrees wider t u :=
  ⟨h.forth.mono sub, h.back.mono sub⟩

theorem Agrees.at? (h : Agrees loose t u) (tight : ¬ loose p) : u.at? p = t.at? p := by
  cases later : u.at? p with
  | some n =>
      cases n with
      | directory => exact (h.back.directory later).symm
      | file c => exact (h.back.file tight later).symm
  | none =>
      cases earlier : t.at? p with
      | none => rfl
      | some n =>
          cases n with
          | directory => rw [h.forth.directory earlier] at later; cases later
          | file c => rw [h.forth.file tight earlier] at later; cases later

/-! ## Paths in both -/

theorem Extends.pathExists (h : Extends loose t u)
    (tight : ¬ loose (Path.absoluteNames t.current path)) (there : t.pathExists path = true) :
    u.pathExists path = true := by
  obtain ⟨p, n, located, found, fits⟩ := pathExists_iff.mp there
  refine pathExists_iff.mpr ⟨p, n, h.locate located, ?_, fits⟩
  rw [← place_of_locate located] at tight
  cases n with
  | directory => exact h.directory found
  | file c => exact h.file tight found

theorem Agrees.pathExists (h : Agrees loose t u)
    (tight : ¬ loose (Path.absoluteNames t.current path)) :
    u.pathExists path = t.pathExists path := by
  have tight' : ¬ loose (Path.absoluteNames u.current path) := h.forth.current ▸ tight
  exact Bool.eq_iff_iff.mpr ⟨h.back.pathExists tight', h.forth.pathExists tight⟩

theorem pathExists_of_read (h : t.read path = .ok content) : t.pathExists path = true := by
  obtain ⟨p, leads⟩ := read_eq_ok_iff.mp h
  rw [pathExists, leads]

/-! ## Writing a file -/

theorem Puts.agrees (put : Puts p (.file content) t u) (noDirectory : t.at? p ≠ some .directory) :
    Agrees (· = p) t u where
  forth := put.extends noDirectory (.inl rfl)
  back := by
    have below : p ≠ [] := fun root => noDirectory (by rw [root]; rfl)
    refine ⟨put.current.symm, ?_, ?_⟩
    · intro q there
      have apart : q ≠ p := by
        rintro rfl
        rw [put.here below] at there
        cases there
      rwa [put.others q apart] at there
    · intro q c apart there
      rwa [put.others q apart] at there

theorem agrees_of_puts (aimed : t.target path = .ok p) (put : Puts p (.file content) t u) :
    Agrees (· = Path.absoluteNames t.current path) t u := by
  obtain ⟨-, located, noDirectory⟩ := target_eq_ok_iff.mp aimed
  exact place_of_locate located ▸ put.agrees noDirectory

/-- A file that was put where a path leads is read. -/
theorem read_of_puts (aimed : t.target path = .ok p) (put : Puts p (.file content) t u) :
    u.read path = .ok content := by
  obtain ⟨noSlash, located, noDirectory⟩ := target_eq_ok_iff.mp aimed
  have below : p ≠ [] := fun root => noDirectory (by rw [root]; rfl)
  have located' := (agrees_of_puts aimed put).forth.locate located
  exact read_eq_ok_iff.mpr ⟨p, look_file_iff.mpr ⟨located', put.here below, noSlash⟩⟩

theorem agrees_write {late : Option FileFault} (h : t.write path content = (late, u)) :
    Agrees (· = Path.absoluteNames t.current path) t u := by
  have ends := writes t path content
  rw [h] at ends
  cases ends with
  | unopened failed => exact .refl _ t
  | cut aimed short put => exact agrees_of_puts aimed put
  | whole aimed put => exact agrees_of_puts aimed put

/-- A file that was written is read. -/
theorem read_of_write (h : t.write path content = (none, u)) : u.read path = .ok content := by
  have ends := writes t path content
  rw [h] at ends
  cases ends with
  | whole aimed put => exact read_of_puts aimed put

/-- If there is no room for a file, a proper beginning of it is stored. -/
theorem read_of_write_cut {fault : FileFault} (h : t.write path content = (some fault, u))
    (cut : fault.problem = .noSpace) :
    ∃ n < content.size, u.read path = .ok (content.extract 0 n) := by
  have ends := writes t path content
  rw [h] at ends
  cases ends with
  | unopened failed =>
      cases cut
      rcases target_error failed with directory | ⟨ns, located⟩
      · cases directory
      · exact absurd located locateFrom_ne_noSpace
  | @cut p n u aimed short put => exact ⟨n, short, read_of_puts aimed put⟩

/-- Any other fault comes before a file is opened. -/
theorem eq_of_write_fault {fault : FileFault} (h : t.write path content = (some fault, u))
    (uncut : fault.problem ≠ .noSpace) : u = t := by
  have ends := writes t path content
  rw [h] at ends
  cases ends with
  | unopened failed => rfl
  | cut aimed short put => exact absurd rfl uncut

/-- A file is written if it can be opened and its new bytes fit in the room that there is
and that its old ones leave. -/
theorem write_eq_none_iff :
    (t.write path content).1 = none ↔
      ∃ p, t.target path = .ok p ∧ ∀ room ∈ t.room, content.size ≤ room + t.sizeAt p := by
  rw [write, openFile]
  cases t.target path with
  | error problem => simp
  | ok p =>
      simp only [Except.ok.injEq, exists_eq_left', store, release, room_set]
      cases t.room with
      | none => simp
      | some room =>
          simp only [Option.map_some]
          split
          next fits => simpa using fits
          next short => simpa using short

/-- Without that room, no more than a beginning is stored. -/
theorem write_of_short {room : Nat} (aimed : t.target path = .ok p) (bounded : t.room = some room)
    (short : room + t.sizeAt p < content.size) :
    (t.write path content).1 = some ⟨.noSpace, path⟩ := by
  have ends := writes t path content
  generalize done : t.write path content = r at ends
  cases ends with
  | unopened failed => cases aimed.symm.trans failed
  | cut _ _ put => rfl
  | whole _ put =>
      obtain ⟨q, aimed', fits⟩ := write_eq_none_iff.mp (congrArg Prod.fst done)
      cases aimed.symm.trans aimed'
      exact absurd (fits room bounded) (Nat.not_le.mpr short)

/-- Writing what a file holds already changes nothing. -/
theorem agrees_write_of_read (h : t.read path = .ok content) :
    ∃ u, t.write path content = (none, u) ∧ Agrees (fun _ => False) t u := by
  obtain ⟨p, leads⟩ := read_eq_ok_iff.mp h
  obtain ⟨located, found, noSlash⟩ := look_file_iff.mp leads
  have aimed : t.target path = .ok p :=
    target_eq_ok_iff.mpr ⟨noSlash, located, by rw [found]; simp⟩
  have below : p ≠ [] := by
    rintro rfl
    cases found
  -- The bytes that the file held are released first, so they fit again.
  have fits : (t.write path content).1 = none := by
    refine write_eq_none_iff.mpr ⟨p, aimed, fun room _ => ?_⟩
    rw [sizeAt, found]
    exact Nat.le_add_left content.size room
  have ends := writes t path content
  generalize t.write path content = r at ends fits ⊢
  cases ends with
  | unopened failed => cases fits
  | cut _ short put => cases fits
  | @whole q u aimed' put =>
      cases aimed.symm.trans aimed'
      have same : ∀ q, u.at? q = t.at? q := by
        intro q
        by_cases here : q = p
        · rw [here, put.here below, found]
        · exact put.others q here
      refine ⟨u, rfl, ⟨put.current, ?_, ?_⟩, ⟨put.current.symm, ?_, ?_⟩⟩
      all_goals
        intros
        simp_all

end ContractClient.FileTree
