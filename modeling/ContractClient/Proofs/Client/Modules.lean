import ContractClient.Proofs.Client.Annotations
import ContractClient.Proofs.Client.Generate
import ContractClient.Proofs.Code.Sections
import ContractClient.Proofs.Service.Methods

/-!
# Base files are closed modules

A base file can be read from its first section to its last.  The model classes come
first, each behind its base, then the base class of the client, and at the end the
lines that complete the model classes (`inOrder_fullBaseFile`).  Annotations may refer
to classes further down, but not to classes that the file does not declare.
`IsClosedModule` says so of a list of sections, and `base_files_are_closed` of every
base file that is generated.
-/

namespace ContractClient

open Code Identifier

/-! ## Closed modules -/

/-- A module that declares types and then a base class with methods, given by its
sections in order. -/
structure IsClosedModule (types : List String) (base : String) (methods : List String)
    (sections : List Section) : Prop where
  declared : declaredNames sections = types ++ [base]
  once : (declaredNames sections).Nodup
  bases : ∀ before k after, sections = before ++ .decl k :: after →
    ∀ b ∈ k.inherits, b = "BaseModel" ∨ b ∈ declaredNames before
  completed : types ≠ [] → ∃ b, sections.getLast? = some (.block b) ∧
    b.render.toList.splitOn '\n' = types.map fun t => (t ++ ".model_rebuild()").toList
  fields : ∀ k, .decl k ∈ sections → ∀ p ∈ k.parameters,
    p.IsAnnotated (Catalog.typeWords ++ declaredNames sections)
  service : ∃ k, .decl k ∈ sections ∧ k.name = base ∧
    k.functions.keys = Catalog.ownFunctions true ++ methods
  functions : ∀ k, .decl k ∈ sections → ∀ e ∈ k.functions, e.1 ∉ Catalog.ownFunctions true →
    e.2.IsAnnotated (Catalog.typeWords ++ declaredNames sections)

namespace Client

variable {c : Client} {g : Catalog} {s : Service} {on : Moment} {decls : List ClassDecl}

/-! ## The sections of a base file -/

/-- The classes of a base file, in order. -/
def baseFileClasses (c : Client) (g : Catalog) (s : Service) : List Code.Class :=
  modelClasses g ++ [c.baseClass g s]

theorem order_of_mem_modelClasses {k : Code.Class} (h : k ∈ modelClasses g) : k.order = 20 := by
  obtain ⟨n, -, rfl⟩ := List.mem_map.mp h
  rfl

theorem order_baseClass (c : Client) (g : Catalog) (s : Service) :
    (c.baseClass g s).order = 10 := rfl

theorem pairwise_order_classes (c : Client) (g : Catalog) (s : Service) :
    (c.baseFileClasses g s).Pairwise fun a b => b.order ≤ a.order := by
  rw [baseFileClasses, List.pairwise_append]
  refine ⟨?_, List.pairwise_singleton _ _, ?_⟩
  · refine List.pairwise_of_forall_mem_list fun a ha b hb => ?_
    rewrite [order_of_mem_modelClasses ha, order_of_mem_modelClasses hb]
    decide
  · intro a ha b hb
    rw [List.mem_singleton.mp hb, order_of_mem_modelClasses ha, order_baseClass]
    decide

theorem order_pos_of_mem_classes {k : Code.Class} (h : k ∈ c.baseFileClasses g s) :
    0 < k.order := by
  rcases List.mem_append.mp h with h | h
  · rw [order_of_mem_modelClasses h]
    decide
  · rw [List.mem_singleton.mp h, order_baseClass]
    decide

theorem allSections_fullBaseFile (c : Client) (g : Catalog) (s : Service) (on : Moment) :
    (c.fullBaseFile g s on).allSections =
      (rebuildBlocks (modelClasses g)).map Section.block ++
        (c.baseFileClasses g s).map Section.decl := by
  have classes : (c.fullBaseFile g s on).classes.values = c.baseFileClasses g s := by
    rw [fullBaseFile, Entries.values, List.map_map]
    exact List.map_id _
  rw [File.allSections, classes]
  rfl

/-- A base file is written class by class, and then the block that completes the model
classes. -/
theorem inOrder_fullBaseFile (c : Client) (g : Catalog) (s : Service) (on : Moment) :
    (c.fullBaseFile g s on).inOrder =
      (c.baseFileClasses g s).map Section.decl ++
        (rebuildBlocks (modelClasses g)).map Section.block := by
  have sorted : (((c.baseFileClasses g s).map Section.decl).map fun s => (s.order, s)).Pairwise
      fun a b => b.1 ≤ a.1 := by
    rw [List.map_map, List.pairwise_map]
    exact c.pairwise_order_classes g s
  have written : (((c.baseFileClasses g s).map Section.decl).map fun s => (s.order, s)).map
      Prod.snd = (c.baseFileClasses g s).map Section.decl := by
    rw [List.map_map]
    exact List.map_id _
  rw [File.inOrder, allSections_fullBaseFile, rebuildBlocks]
  split
  next => rw [List.map_nil, List.nil_append, List.append_nil, byOrder_of_pairwise sorted, written]
  next =>
    rw [List.map_singleton, List.singleton_append, List.map_cons, byOrder_cons_of_lt sorted,
      written]
    intro p hp
    obtain ⟨k, hk, rfl⟩ := List.mem_map.mp (List.map_map ▸ hp)
    exact order_pos_of_mem_classes hk

theorem declaredNames_inOrder (c : Client) (g : Catalog) (s : Service) (on : Moment) :
    declaredNames (c.fullBaseFile g s on).inOrder = c.baseFileNames g s := by
  rw [inOrder_fullBaseFile, declaredNames_append, declaredNames_map_decl,
    declaredNames_map_block, List.append_nil, baseFileClasses, map_name_classes]

/-! ## Bases -/

theorem inherits_baseClass (c : Client) (g : Catalog) (s : Service) :
    (c.baseClass g s).inherits = [] :=
  (congrArg Code.Class.inherits (g.addMethods_frame _ s.groups) :)

theorem parameters_baseClass (c : Client) (g : Catalog) (s : Service) :
    (c.baseClass g s).parameters = [] :=
  (congrArg Code.Class.parameters (g.addMethods_frame _ s.groups) :)

/-- A class of the file inherits from `BaseModel` or from a class before it. -/
theorem bases_first (built : Catalog.build decls = .ok g) {front rest : List Code.Class}
    {k : Code.Class} (h : c.baseFileClasses g s = front ++ k :: rest) :
    ∀ b ∈ k.inherits, b = "BaseModel" ∨ b ∈ front.map Code.Class.name := by
  intro b hb
  rcases List.eq_nil_or_concat rest with rfl | ⟨rest, last, rfl⟩
  · -- The last class is the base class of the client.
    obtain ⟨-, same⟩ := List.append_inj' h rfl
    cases same
    rw [inherits_baseClass] at hb
    cases hb
  · have split : modelClasses g ++ [c.baseClass g s] = (front ++ k :: rest) ++ [last] := by
      rw [← baseFileClasses, h, List.concat_eq_append, List.append_assoc, List.cons_append]
    obtain ⟨models, -⟩ := List.append_inj' split rfl
    obtain ⟨before, after, ordered, rfl, same⟩ := List.map_eq_append_iff.mp models
    obtain ⟨n, after, rfl, rfl, -⟩ := List.map_eq_cons_iff.mp same
    rw [List.mem_singleton.mp hb]
    cases parent : g.parent? n with
    | none => exact Or.inl rfl
    | some base =>
        rw [Catalog.parent?_of_build built] at parent
        have earlier := (Catalog.progress_of_build built).1.sound.ordered before n after ordered
          base parent
        rw [List.map_map]
        exact Or.inr (List.mem_map_of_mem (f := Model.name) earlier)

/-! ## The block that completes the model classes -/

theorem rebuildBlocks_of_ne_nil (h : g.names ≠ []) :
    rebuildBlocks (modelClasses g) =
      [{ code := "\n".intercalate (g.names.map (· ++ ".model_rebuild()")) }] := by
  have some_class : (modelClasses g).isEmpty = false := by
    rw [modelClasses, List.isEmpty_map, ← List.isEmpty_map (f := Model.name)]
    exact List.isEmpty_eq_false_iff.mpr h
  rw [rebuildBlocks, some_class, modelClasses, List.map_map, Catalog.names, List.map_map]
  rfl

theorem getLast?_inOrder (c : Client) (s : Service) (on : Moment)
    (built : Catalog.build decls = .ok g) (nonempty : g.names ≠ []) :
    ∃ b, (c.fullBaseFile g s on).inOrder.getLast? = some (.block b) ∧
      b.render.toList.splitOn '\n' = g.names.map fun t => (t ++ ".model_rebuild()").toList := by
  refine ⟨_, by rw [inOrder_fullBaseFile, rebuildBlocks_of_ne_nil nonempty, List.map_singleton,
    List.getLast?_concat], ?_⟩
  rw [Block.lines_render rfl (by simpa using nonempty), List.map_map]
  · rfl
  · -- An identifier holds no blank, and the call holds none either.
    intro line hline
    obtain ⟨name, hname, rfl⟩ := List.mem_map.mp hline
    have identifier := (Catalog.isClassName_of_mem_names built hname).identifier
    have plain : ∀ x, Text.isBlank x = true → x ∉ ".model_rebuild()".toList →
        x ∉ (name ++ ".model_rebuild()").toList := by
      intro x blank notCalled
      rw [String.toList_append, List.mem_append, not_or]
      refine ⟨fun hx => ?_, notCalled⟩
      have continues := mem_of_isIdentifierChars identifier x hx
      rw [isContinue_of_isBlank blank] at continues
      cases continues
    exact ⟨plain _ (by decide) (by decide), plain _ (by decide) (by decide)⟩

/-! ## Annotations -/

theorem mem_baseFileClasses_iff {k : Code.Class} :
    k ∈ c.baseFileClasses g s ↔
      (∃ n ∈ g.models, { g.modelClass n with order := 20 } = k) ∨ k = c.baseClass g s := by
  rw [baseFileClasses, List.mem_append, List.mem_singleton, modelClasses, List.mem_map]

theorem mem_inOrder_iff {k : Code.Class} :
    Section.decl k ∈ (c.fullBaseFile g s on).inOrder ↔ k ∈ c.baseFileClasses g s := by
  rw [inOrder_fullBaseFile, List.mem_append]
  simp

theorem isAnnotated_of_mem_parameters (built : Catalog.build decls = .ok g) {k : Code.Class}
    (hk : k ∈ c.baseFileClasses g s) : ∀ p ∈ k.parameters, p.IsAnnotated g.knownNames := by
  intro p hp
  rcases mem_baseFileClasses_iff.mp hk with ⟨n, -, rfl⟩ | rfl
  · obtain ⟨f, -, rfl⟩ := List.mem_map.mp hp
    exact Catalog.isAnnotated_fieldParameter built f
  · rw [parameters_baseClass] at hp
    cases hp

theorem isAnnotated_of_mem_functions (built : Catalog.build decls = .ok g) {d : ServiceDecl}
    (made : g.service? d = some s) {k : Code.Class} (hk : k ∈ c.baseFileClasses g s) :
    ∀ e ∈ k.functions, e.1 ∉ Catalog.ownFunctions true → e.2.IsAnnotated g.knownNames := by
  intro e he method
  rcases mem_baseFileClasses_iff.mp hk with ⟨n, -, rfl⟩ | rfl
  · obtain ⟨f, hf, rfl⟩ := List.mem_map.mp (Entries.mem_of_mem_ofPairs he)
    exact Catalog.isAnnotated_accessor built hf
  · have functions := Catalog.functions_serviceClass made c.location
      (baseName (c.clientName s)) true
    rcases List.mem_append.mp (functions ▸ he) with own | he
    · have key : e.1 ∈ Entries.keys _ := List.mem_map_of_mem own
      rw [Catalog.keys_serviceShell] at key
      exact absurd key method
    · obtain ⟨group, -, rfl⟩ := List.mem_map.mp he
      exact Catalog.isAnnotated_method built group

/-! ## Base files -/

theorem isClosedModule_fullBaseFile (built : Catalog.build decls = .ok g) {d : ServiceDecl}
    (made : g.service? d = some s) (nodup : (c.baseFileNames g s).Nodup) :
    IsClosedModule g.names (baseName (c.clientName s)) (s.groups.map Overload.name)
      (c.fullBaseFile g s on).inOrder := by
  have declared := c.declaredNames_inOrder g s on
  have wider : g.knownNames ⊆
      Catalog.typeWords ++ declaredNames (c.fullBaseFile g s on).inOrder := by
    rw [declared, baseFileNames, ← List.append_assoc]
    exact List.subset_append_left _ _
  exact {
    declared
    once := declared ▸ nodup
    bases := by
      intro before k after split b hb
      rw [inOrder_fullBaseFile] at split
      obtain ⟨front, rest, classes, rfl⟩ := split_of_decls_blocks split
      rw [declaredNames_map_decl]
      exact bases_first built classes b hb
    completed := getLast?_inOrder c s on built
    fields := by
      intro k hk p hp
      exact (isAnnotated_of_mem_parameters built (mem_inOrder_iff.mp hk) p hp).mono wider
    service := by
      refine ⟨c.baseClass g s, mem_inOrder_iff.mpr ?_, c.name_baseClass g s, ?_⟩
      · exact mem_baseFileClasses_iff.mpr (Or.inr rfl)
      · exact Catalog.keys_serviceClass made c.location (baseName (c.clientName s)) true
    functions := by
      intro k hk e he method
      exact (isAnnotated_of_mem_functions built made (mem_inOrder_iff.mp hk) e he method).mono
        wider }

theorem map_name_baseFiles (c : Client) (g : Catalog) (on : Moment) (ss : List Service) :
    ((c.fullFiles g on ss).filter File.overwrite).map File.name =
      ss.map fun s => Output.baseFile (c.clientName s) := by
  induction ss with
  | nil => rfl
  | cons s ss ih => exact congrArg (Output.baseFile (c.clientName s) :: ·) ih

/-- Whenever code is generated, there is one base file for each service, and each base
file is a closed module.  In the order in which its sections are written it declares
each class of the contract once, behind its base, and then the base class of the
client.  Its last section completes the classes of the contract line by line, in the
same order.  Every name in the annotation of a field, of a composite parameter or of
a result is a word for types or the name of a class that the file declares. -/
theorem base_files_are_closed {c : Client} {on : Clock} {p : Project}
    (h : c.generate on = .ok p) :
    ∃ g, Catalog.build c.contract.classes = .ok g ∧
      (p.files.filter File.overwrite).map File.name =
        (g.services c.contract.services).map (fun s => Output.baseFile (c.clientName s)) ∧
      ∀ f ∈ p.files, f.overwrite = true →
        ∃ s ∈ g.services c.contract.services, f.name = Output.baseFile (c.clientName s) ∧
          f.sections = f.inOrder.map Section.render ∧
          IsClosedModule g.names (baseName (c.clientName s)) (s.groups.map Overload.name)
            f.inOrder := by
  obtain ⟨g, moment, built, -, checked, -, rfl⟩ := generate_eq_ok_iff.mp h
  refine ⟨g, built, c.map_name_baseFiles g moment _, ?_⟩
  intro f hf replaced
  obtain ⟨s, hs, hf⟩ := List.mem_flatMap.mp hf
  rcases List.mem_pair.mp hf with rfl | rfl
  · obtain ⟨d, -, made⟩ := Catalog.mem_services hs
    have nodup := (files_eq_ok_iff.mp
      (files_of_checkNames (Catalog.nodup_names_of_build built) checked moment)).1 s hs
    exact ⟨s, hs, rfl, File.sections_eq_map_render _, isClosedModule_fullBaseFile built made nodup⟩
  · cases replaced

/-- A client of a contract that gives a class before its base, with an array, a renamed
field and an operation with two results. -/
def library : Client :=
  { contract :=
      { classes := [{ name := "tns:Novel", base := some "tns:Book" },
          { name := "tns:Book", entries := [{ name := "by", type := "tns:Person[]" },
            { name := "1st-line", type := "xsd:string" }] },
          { name := "tns:Person" }]
        services := [{ name := "Library", functions :=
          [{ name := "find", returns := [{ name := "book", type := "tns:Book" }] },
            { name := "find", returns := [{ name := "all", type := "tns:Book[]" }] }] }] }
    engine := { module := "engines", cls := "Engine" } }

/-- The base file of the library declares the book before the novel. -/
theorem base_files_of_library :
    ∃ p, library.generate (.ok { date := ⟨2024, 1, 2⟩ }) = .ok p ∧
      (p.files.filter File.overwrite).map File.name = ["generated/LibraryBase.py"] ∧
      ∀ f ∈ p.files, f.overwrite = true →
        IsClosedModule ["tns_Book", "tns_Person", "tns_Novel"] "LibraryBase" ["find"]
          f.inOrder := by
  have facts : (Catalog.build library.contract.classes).toOption.map (fun g =>
      (g.names, (g.services library.contract.services).map fun s =>
        (library.clientName s, s.groups.map Overload.name))) =
      some (["tns_Book", "tns_Person", "tns_Novel"], [("Library", ["find"])]) := by
    decide +kernel
  have generated : (library.generate (.ok { date := ⟨2024, 1, 2⟩ })).isOk = true := by
    decide +kernel
  cases made : library.generate (.ok { date := ⟨2024, 1, 2⟩ }) with
  | error fault => rw [made] at generated; cases generated
  | ok p =>
      obtain ⟨g, built, files, closed⟩ := base_files_are_closed made
      rw [built, Except.toOption, Option.map_some, Option.some.injEq, Prod.mk.injEq] at facts
      obtain ⟨names, clients⟩ := facts
      refine ⟨p, rfl, ?_, ?_⟩
      · have paths := congrArg (List.map fun e => Output.baseFile e.1) clients
        rw [List.map_map] at paths
        exact files.trans (paths.trans (by decide))
      · intro f hf replaced
        obtain ⟨s, hs, -, -, module⟩ := closed f hf replaced
        have client : (library.clientName s, s.groups.map Overload.name) ∈
            [("Library", ["find"])] := clients ▸ List.mem_map_of_mem hs
        obtain ⟨name, methods⟩ := Prod.mk.inj (List.mem_singleton.mp client)
        rw [names, name, methods] at module
        exact module

end Client

end ContractClient
