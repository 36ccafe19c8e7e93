import ContractClient.Client.Generate
import ContractClient.Proofs.Catalog.ParameterTable
import ContractClient.Proofs.Outcome

/-!
# The files of a client, complete

A file is built by adding one class after the other, and adding a class can fail.
It fails only on a name that is there, so a file is complete exactly if the names
of its classes are distinct (`foldlM_addClass_eq_ok_iff`).  The table of a model
class takes its names from the fields of the lineage, so no table names a field
that is not there (`checkTable_eq_ok`).

What remains is one condition for each base file: no model class and not the base
class have a name in common (`files_eq_ok_iff`).
-/

namespace ContractClient

/-! ## Adding classes and blocks -/

namespace Code.File

variable {f f' : File}

theorem addClass_eq_ok_iff {k : Class} :
    f.addClass k = .ok f' ↔
      k.name ∉ f.classes.keys ∧ f' = { f with classes := f.classes ++ [(k.name, k)] } := by
  rw [addClass]
  split
  next there =>
    constructor
    · intro h; cases h
    · rintro ⟨fresh, _⟩; exact absurd (Entries.has_iff.mp there) fresh
  next missing =>
    have fresh : k.name ∉ f.classes.keys := fun there => missing (Entries.has_iff.mpr there)
    rw [Entries.put_of_not_mem fresh, Except.ok.injEq]
    constructor
    · rintro rfl; exact ⟨fresh, rfl⟩
    · rintro ⟨_, rfl⟩; rfl

/-- Classes can be added exactly if their names are new and distinct. -/
theorem foldlM_addClass_eq_ok_iff {ks : List Class} :
    ks.foldlM addClass f = .ok f' ↔
      (ks.map Class.name).Nodup ∧ (∀ k ∈ ks, k.name ∉ f.classes.keys) ∧
        f' = { f with classes := f.classes ++ ks.map fun k => (k.name, k) } := by
  induction ks generalizing f with
  | nil =>
      rw [List.foldlM_nil, List.map_nil, List.map_nil, List.append_nil]
      constructor
      · intro h; cases h; exact ⟨.nil, by simp, rfl⟩
      · rintro ⟨_, _, rfl⟩; rfl
  | cons k ks ih =>
      rw [List.foldlM_cons, bind_eq_ok_iff, List.map_cons, List.nodup_cons]
      constructor
      · rintro ⟨g, added, rest⟩
        obtain ⟨fresh, rfl⟩ := addClass_eq_ok_iff.mp added
        obtain ⟨nodup, others, rfl⟩ := ih.mp rest
        have apart : ∀ j ∈ ks, j.name ∉ f.classes.keys ∧ j.name ≠ k.name := by
          intro j hj
          simpa [Entries.keys] using others j hj
        refine ⟨⟨?_, nodup⟩, ?_, by simp⟩
        · intro again
          obtain ⟨j, hj, same⟩ := List.mem_map.mp again
          exact (apart j hj).2 same
        · intro j hj
          cases List.mem_cons.mp hj with
          | inl same => exact same ▸ fresh
          | inr hj => exact (apart j hj).1
      · rintro ⟨⟨once, nodup⟩, fresh, rfl⟩
        refine ⟨_, addClass_eq_ok_iff.mpr ⟨fresh k List.mem_cons_self, rfl⟩, ?_⟩
        refine ih.mpr ⟨nodup, ?_, by simp⟩
        intro j hj there
        have cases : j.name ∈ f.classes.keys ∨ j.name = k.name := by
          simpa [Entries.keys] using there
        cases cases with
        | inl there => exact fresh j (List.mem_cons_of_mem k hj) there
        | inr same => exact once (List.mem_map.mpr ⟨j, hj, same⟩)

theorem foldl_addBlock (bs : List Block) (f : File) :
    bs.foldl addBlock f = { f with blocks := f.blocks ++ bs } := by
  induction bs generalizing f with
  | nil => rw [List.foldl_nil, List.append_nil]
  | cons b bs ih => rw [List.foldl_cons, ih, addBlock, List.append_assoc, List.singleton_append]

end Code.File

/-! ## Methods -/

namespace Catalog

/-- Adding methods changes nothing but the functions of a class. -/
theorem addMethods_frame (g : Catalog) (k : Code.Class) (groups : List Overload) :
    { g.addMethods k groups with functions := k.functions } = k := by
  induction groups generalizing k with
  | nil => rfl
  | cons group groups ih =>
      rw [addMethods, List.foldl_cons]
      refine (congrArg (fun c => { c with functions := k.functions }) (ih _)).trans ?_
      split <;> rfl

theorem name_addMethods (g : Catalog) (k : Code.Class) (groups : List Overload) :
    (g.addMethods k groups).name = k.name :=
  (congrArg Code.Class.name (g.addMethods_frame k groups) :)

end Catalog

/-! ## Base files and client files -/

namespace Client

variable {c : Client} {g : Catalog} {s : Service} {on : Moment}

/-- The name of a base class is never left to the service. -/
theorem classNameOr_baseName (s : Service) (name : String) :
    Catalog.classNameOr s (baseName name) = baseName name := by
  rw [Catalog.classNameOr, if_neg]
  intro empty
  have length := congrArg (fun t : String => t.toList.length) empty
  simp [baseName] at length

/-- The base class of the client for a service. -/
def baseClass (c : Client) (g : Catalog) (s : Service) : Code.Class :=
  { g.serviceClass c.location s (baseName (c.clientName s)) true with order := 10 }

/-- The base file of a service with all its classes. -/
def fullBaseFile (c : Client) (g : Catalog) (s : Service) (on : Moment) : Code.File :=
  { name := Output.baseFile (c.clientName s)
    header := banner on c.location
    imports := [baseImports c.engine]
    classes := (modelClasses g ++ [c.baseClass g s]).map fun k => (k.name, k)
    blocks := rebuildBlocks (modelClasses g) }

/-- The client file of a service with its class. -/
def fullClientFile (c : Client) (s : Service) (on : Moment) : Code.File :=
  { name := Output.clientFile (c.clientName s)
    overwrite := false
    imports := [clientImports (c.clientName s)]
    classes := [(c.clientName s, clientClass (c.clientName s) on)] }

/-- The names of the classes in the base file of a service. -/
def baseFileNames (c : Client) (g : Catalog) (s : Service) : List String :=
  g.names ++ [baseName (c.clientName s)]

theorem checkedClasses_eq (g : Catalog) : checkedClasses g = .ok (modelClasses g) := by
  have tables : ∀ models : List Model, models.forM g.checkTable = .ok () := by
    intro models
    induction models with
    | nil => rfl
    | cons n models ih =>
        rw [List.forM, g.checkTable_eq_ok n]
        exact ih
  rw [checkedClasses, tables]
  rfl

theorem baseClass_eq (c : Client) (g : Catalog) (s : Service) :
    c.baseClass g s = { g.addMethods (Catalog.serviceShell c.location s
      (baseName (c.clientName s)) true) s.groups with order := 10 } := by
  rw [baseClass, Catalog.serviceClass, classNameOr_baseName]

theorem name_baseClass (c : Client) (g : Catalog) (s : Service) :
    (c.baseClass g s).name = baseName (c.clientName s) := by
  rw [baseClass_eq]
  exact g.name_addMethods _ s.groups

theorem map_name_classes (c : Client) (g : Catalog) (s : Service) :
    (modelClasses g ++ [c.baseClass g s]).map Code.Class.name = c.baseFileNames g s := by
  rw [List.map_append, List.map_singleton, modelClasses, List.map_map, baseFileNames,
    name_baseClass]
  rfl

theorem baseFile_eq_ok_iff {f : Code.File} :
    c.baseFile g s on = .ok f ↔
      (c.baseFileNames g s).Nodup ∧ f = c.fullBaseFile g s on := by
  rw [baseFile, checkedClasses_eq, bind_eq_ok_iff]
  constructor
  · rintro ⟨_, same, h⟩
    cases same
    obtain ⟨d, added, rest⟩ := bind_eq_ok_iff.mp h
    cases rest
    obtain ⟨nodup, _, rfl⟩ := Code.File.foldlM_addClass_eq_ok_iff.mp (mapError_eq_ok_iff.mp added)
    have names := c.map_name_classes g s
    exact ⟨names ▸ nodup, Code.File.foldl_addBlock _ _⟩
  · rintro ⟨nodup, rfl⟩
    rw [← map_name_classes] at nodup
    refine ⟨_, rfl, bind_eq_ok_iff.mpr ⟨_, mapError_eq_ok_iff.mpr
      (Code.File.foldlM_addClass_eq_ok_iff.mpr ⟨nodup, ?_, rfl⟩), ?_⟩⟩
    · simp [Entries.keys]
    · exact congrArg Except.ok (Code.File.foldl_addBlock _ _)

theorem clientFile_eq (c : Client) (s : Service) (on : Moment) :
    c.clientFile s on = .ok (c.fullClientFile s on) := rfl

/-- The files of services, complete: a base file and a client file for each. -/
def fullFiles (c : Client) (g : Catalog) (on : Moment) (ss : List Service) : List Code.File :=
  ss.flatMap fun s => [c.fullBaseFile g s on, c.fullClientFile s on]

/-- Files show of a moment no more than its stamp. -/
theorem fullFiles_of_stamp {earlier later : Moment} (same : later.stamp = earlier.stamp)
    (c : Client) (g : Catalog) (ss : List Service) :
    c.fullFiles g later ss = c.fullFiles g earlier ss := by
  have headers : banner later c.location = banner earlier c.location := by
    rw [banner, banner, bannerTexts, bannerTexts, same]
  have classes : ∀ name, clientClass name later = clientClass name earlier := by
    intro name
    unfold clientClass clientDocstring
    rw [same]
  simp only [fullFiles, fullBaseFile, fullClientFile, headers, classes]

theorem files_eq_ok_iff {ss : List Service} {fs : List Code.File} :
    c.files g on ss = .ok fs ↔
      (∀ s ∈ ss, (c.baseFileNames g s).Nodup) ∧ fs = c.fullFiles g on ss := by
  induction ss generalizing fs with
  | nil =>
      constructor
      · intro h; cases h; exact ⟨by simp, rfl⟩
      · rintro ⟨_, rfl⟩; rfl
  | cons s ss ih =>
      rw [files, bind_eq_ok_iff]
      constructor
      · rintro ⟨base, made, h⟩
        obtain ⟨nodup, rfl⟩ := baseFile_eq_ok_iff.mp made
        rw [clientFile_eq] at h
        obtain ⟨own, same, h⟩ := bind_eq_ok_iff.mp h
        cases same
        obtain ⟨rest, others, h⟩ := bind_eq_ok_iff.mp h
        cases h
        obtain ⟨allNodup, rfl⟩ := ih.mp others
        exact ⟨List.forall_mem_cons.mpr ⟨nodup, allNodup⟩, rfl⟩
      · rintro ⟨nodup, rfl⟩
        obtain ⟨first, others⟩ := List.forall_mem_cons.mp nodup
        refine ⟨_, baseFile_eq_ok_iff.mpr ⟨first, rfl⟩, bind_eq_ok_iff.mpr ⟨_, rfl, ?_⟩⟩
        exact bind_eq_ok_iff.mpr ⟨_, ih.mpr ⟨others, rfl⟩, rfl⟩

end Client

end ContractClient
