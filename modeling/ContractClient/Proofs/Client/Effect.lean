import ContractClient.Proofs.Client.Faults
import ContractClient.Proofs.Client.Renaming
import ContractClient.Proofs.Output.Effect

/-!
# What writing clients leaves behind

The first file of a project is a base file, so the directory for generated files is
created first, with the output directory above it.  After this no directory is created
any more, and the files are written as if each were alone (`Output.effect_writeAll`).

A client file is looked for when the directories are there.  It may then be found though
its path led to nothing before the call: a path like `x/../y` cannot be followed before
`x` is created (`client_behind_detour`).  If the output directory was there, or if its
path does not go up, both moments agree (`pathExists_of_ready`).

A call may also fail at one of the files.  The files before it are written then, and of
itself there may be a beginning, since a file is created or emptied before its bytes are
stored (`Output.FailedTurn`).
-/

namespace ContractClient

/-! ## Paths of files -/

namespace Output

variable {t ready : FileTree} {directory name : String} {current : Place}

theorem getLast?_join_generated (directory : String) :
    (Path.join directory generatedDirectory).toList.getLast? = some 'd' := by
  by_cases h : directory = "" ∨ directory.toList.getLast? = some '/'
  · rw [Path.join_name_of_eq isName_generated h, String.toList_append]
    simp [generatedDirectory]
  · rw [Path.join_name_of_ne isName_generated h, String.toList_append]
    simp [generatedDirectory]

/-- The directory of a base file is the one for generated files. -/
theorem directoryOf_baseFile (valid : Identifier.isIdentifier name = true) (directory : String) :
    directoryOf (path directory (baseFile name)) = Path.join directory generatedDirectory := by
  have last := getLast?_join_generated directory
  have above : Path.parent (path directory (baseFile name)) =
      Path.join directory generatedDirectory := by
    rw [path_baseFile valid]
    exact Path.parent_join (isName_baseFile valid) last (by decide)
  rw [directoryOf, above, if_neg]
  intro empty
  rw [empty] at last
  cases last

/-- The directory of a client file is the one above. -/
theorem directoryOf_clientFile (valid : Identifier.isIdentifier name = true)
    (directory : String) :
    directoryOf (path directory (clientFile name)) =
      directoryOf (Path.join directory generatedDirectory) := by
  rw [path_clientFile valid, directoryOf, directoryOf,
    Path.parent_join_congr (isName_clientFile valid) isName_generated]

theorem name_generated (directory : String) :
    Path.name (Path.join directory generatedDirectory) ≠ "" := by
  rw [Path.name_join isName_generated]
  exact isName_generated.ne_empty

theorem name_clientFile (valid : Identifier.isIdentifier name = true) (directory : String) :
    Path.name (path directory (clientFile name)) ≠ "" := by
  rw [path_clientFile valid, Path.name_join (isName_clientFile valid)]
  exact (isName_clientFile valid).ne_empty

theorem name_baseFile (valid : Identifier.isIdentifier name = true) (directory : String) :
    Path.name (path directory (baseFile name)) ≠ "" := by
  rw [path_baseFile valid, Path.name_join (isName_baseFile valid)]
  exact (isName_baseFile valid).ne_empty

/-- A client file is neither the directory for generated files nor above it. -/
theorem not_prefix_generated (current : Place) (directory name : String) :
    ¬ clientPlace current directory name <+:
      Path.absoluteNames current (Path.join directory generatedDirectory) := by
  rw [Path.absoluteNames_join isName_generated, clientPlace, List.prefix_append_right_inj]
  intro same
  have last : (name ++ ".py").toList.getLast? = some 'y' := by simp
  have equal : name ++ ".py" = generatedDirectory := by simpa using same
  rw [equal] at last
  cases last

/-- The files of clients. -/
theorem mem_fileNames {n : String} {names : List String} :
    n ∈ fileNames names ↔ ∃ name ∈ names, n = baseFile name ∨ n = clientFile name := by
  simp [fileNames]

/-- The files of clients are at different places. -/
theorem nodup_places {names : List String}
    (valid : ∀ name ∈ names, Identifier.isIdentifier name = true)
    (nodup : (fileNames names).Nodup) (current : Place) (directory : String) :
    ((fileNames names).map fun n => Path.absoluteNames current (path directory n)).Nodup := by
  refine List.Nodup.map_on ?_ nodup
  intro n hn m hm same
  obtain ⟨a, ha, isA⟩ := mem_fileNames.mp hn
  obtain ⟨b, hb, isB⟩ := mem_fileNames.mp hm
  rcases isA with rfl | rfl <;> rcases isB with rfl | rfl
  · rw [place_baseFile (valid a ha), place_baseFile (valid b hb)] at same
    simpa [basePlace, baseFile_inj] using same
  · rw [place_baseFile (valid a ha), place_clientFile (valid b hb)] at same
    exact absurd same.symm (clientPlace_ne_basePlace _ _ _ _)
  · rw [place_clientFile (valid a ha), place_baseFile (valid b hb)] at same
    exact absurd same (clientPlace_ne_basePlace _ _ _ _)
  · rw [place_clientFile (valid a ha), place_clientFile (valid b hb)] at same
    simpa [clientPlace, clientFile_inj] using same

/-- Where the directory for generated files is, all directories are. -/
theorem settled_of_isDirectory {names : List String} {fs : List Code.File}
    (valid : ∀ name ∈ names, Identifier.isIdentifier name = true)
    (named : ∀ f ∈ fs, f.name ∈ fileNames names)
    (there : t.isDirectory (Path.join directory generatedDirectory) = true) :
    Settled t directory fs := by
  intro f hf
  obtain ⟨name, hname, isFile⟩ := mem_fileNames.mp (named f hf)
  rcases isFile with base | own
  · rw [base, directoryOf_baseFile (valid name hname)]
    exact there
  · obtain ⟨p, located, -⟩ := FileTree.isDirectory_iff.mp there
    rw [own, directoryOf_clientFile (valid name hname)]
    exact isDirectory_directoryOf (name_generated directory) located

/-! ## Client files before and after directories are created -/

/-- The output directory was there, or everything is in a directory and the path of the
output directory does not go up. -/
def IsPlain (t : FileTree) (directory : String) : Prop :=
  t.isDirectory (directoryOf (Path.join directory generatedDirectory)) = true ∨
    t.IsClosed ∧ ".." ∉ FileTree.steps directory

theorem needsHead_generated
    (h : t.isDirectory (directoryOf (Path.join directory generatedDirectory)) = true) :
    t.needsHead (Path.join directory generatedDirectory) = false := by
  simp only [FileTree.needsHead, FileTree.above, if_neg (name_generated directory)]
  rw [directoryOf] at h
  split at h
  next alone => simp [alone]
  next => simp [FileTree.pathExists_of_isDirectory h]

/-- Below a plain output directory a client file is found when the directories are there only
if it was found before. -/
theorem pathExists_of_ready (valid : Identifier.isIdentifier name = true)
    (plain : IsPlain t directory)
    (made : t.makeDirectories (Path.join directory generatedDirectory) = (none, ready))
    (there : ready.pathExists (path directory (clientFile name)) = true) :
    t.pathExists (path directory (clientFile name)) = true := by
  have apart := not_prefix_generated t.current directory name
  rw [← place_clientFile valid] at apart
  rcases plain with above | ⟨closed, straight⟩
  · -- Only the directory for generated files is created.
    rw [FileTree.makeDirectories_of_noHead (needsHead_generated above)] at made
    rw [← directoryOf_clientFile valid] at above
    have later : (t.attempt (Path.join directory generatedDirectory)).2.pathExists
        (path directory (clientFile name)) = true := by
      rw [made]
      exact there
    refine pathExists_of_attempt (name_clientFile valid directory) above ?_ later
    intro same
    rw [same] at apart
    exact apart (List.prefix_refl _)
  · have created := FileTree.creates_makeDirectories t (Path.join directory generatedDirectory)
    rw [made] at created
    refine FileTree.pathExists_of_creates closed created
      (FileTree.not_mem_steps_join isName_generated straight) ?_ apart there
    rw [path_clientFile valid]
    exact FileTree.not_mem_steps_join (isName_clientFile valid) straight

end Output

/-! ## The files of a project -/

namespace Client

open Output (isWritten)

variable {c : Client} {on : Clock} {p : Code.Project} {t : FileTree} {directory : String}

theorem isIdentifier_clientNames (reached : Reached c) :
    ∀ name ∈ c.clientNames, Identifier.isIdentifier name = true := by
  intro name h
  cases built : Catalog.build c.contract.classes with
  | error names => rw [clientNames, services, catalog, built] at h; cases h
  | ok g =>
      rw [clientNames_of_build built] at h
      obtain ⟨s, hs, rfl⟩ := List.mem_map.mp h
      exact isIdentifier_clientName reached hs

/-- A project has two files for each client, and only the base files are replaced. -/
theorem files_of_generate (reached : Reached c) (generated : c.generate on = .ok p) :
    c.clientNames ≠ [] ∧ p.files.map Code.File.name = Output.fileNames c.clientNames ∧
      (p.files.map Code.File.name).Nodup ∧
      (p.files.filter Code.File.overwrite).map Code.File.name =
        c.clientNames.map Output.baseFile := by
  obtain ⟨g, moment, built, nonempty, -, -, rfl⟩ := generate_eq_ok_iff.mp generated
  obtain ⟨named, nodup⟩ := names_of_generate reached built generated
  have bases : (c.fullFiles g moment (g.services c.contract.services)).filter
      Code.File.overwrite = (g.services c.contract.services).map (c.fullBaseFile g · moment) := by
    rw [fullFiles, List.filter_flatMap, ← List.flatMap_singleton' (List.map _ _), List.flatMap_map]
    rfl
  rw [clientNames_of_build built]
  refine ⟨by simpa using nonempty, named, nodup, ?_⟩
  rw [bases, List.map_map, List.map_map]
  rfl

/-- The two files of a client. -/
theorem exists_files_of_name (reached : Reached c) (generated : c.generate on = .ok p)
    {name : String} (h : name ∈ c.clientNames) :
    ∃ base ∈ p.files, ∃ own ∈ p.files,
      p.file? (Output.baseFile name) = some base ∧ p.file? (Output.clientFile name) = some own ∧
        base.name = Output.baseFile name ∧ own.name = Output.clientFile name ∧
        base.overwrite = true := by
  obtain ⟨g, moment, built, -, -, ⟨rfl, -⟩, rfl⟩ := generate_eq_ok_iff.mp generated
  rw [clientNames_of_build built] at h
  obtain ⟨s, hs, rfl⟩ := List.mem_map.mp h
  obtain ⟨base, own⟩ := file?_of_generate reached built generated hs
  refine ⟨_, ?_, _, ?_, base, own, rfl, rfl, rfl⟩
  · exact List.mem_of_find?_eq_some base
  · exact List.mem_of_find?_eq_some own

/-- Whether code is generated does not depend on what was told before. -/
theorem generate_of_told (told : Told) (generated : c.generate on = .ok p) :
    { c with told := told }.generate on = .ok p := by
  obtain ⟨g, moment, built, nonempty, checked, now, rfl⟩ := generate_eq_ok_iff.mp generated
  refine generate_eq_ok_iff.mpr ⟨g, moment, built, nonempty, ?_, now, rfl⟩
  have nodup := Catalog.nodup_names_of_build built
  rw [checkNames_eq_ok_iff nodup] at checked ⊢
  exact checked

theorem generate_afterGenerate (generated : c.generate on = .ok p) :
    (c.afterGenerate on).generate on = .ok p := by
  rw [afterGenerate]
  split
  next => exact generate_of_told _ generated
  next =>
    rw [afterServices]
    split
    next => exact generate_of_told _ generated
    next => exact generated

/-! ## One call -/

/-- What a call leaves behind that writes the clients of a project into a directory. -/
structure Delivered (c : Client) (on : Clock) (p : Code.Project) (t : FileTree)
    (directory : String) (paths : List String) (ready after : FileTree) : Prop where
  /-- The directories are created first. -/
  directories :
    t.makeDirectories (Path.join directory Output.generatedDirectory) = (none, ready)
  /-- Every base file is there. -/
  bases : ∀ name ∈ c.clientNames, ∃ base, p.file? (Output.baseFile name) = some base ∧
    after.read (Output.path directory (Output.baseFile name)) = .ok base.render.toUTF8
  /-- Every client file is there that was not there with the directories. -/
  clients : ∀ name ∈ c.clientNames,
    ready.pathExists (Output.path directory (Output.clientFile name)) = false →
      ∃ own, p.file? (Output.clientFile name) = some own ∧
        after.read (Output.path directory (Output.clientFile name)) = .ok own.render.toUTF8
  /-- In a plain output directory these are the client files that were not there before. -/
  plain : Output.IsPlain t directory → ∀ name ∈ c.clientNames,
    ready.pathExists (Output.path directory (Output.clientFile name)) =
      t.pathExists (Output.path directory (Output.clientFile name))
  /-- The paths are those of the files that were written, in the order of the project. -/
  listed : paths = (p.files.filter (isWritten ready directory)).map fun f =>
    Output.path directory f.name
  /-- No other file changes. -/
  others : ∀ q, (∀ path ∈ paths, q ≠ Path.absoluteNames t.current path) →
    after.content? q = t.content? q
  /-- The clients are found. -/
  found : c.hasClient after directory = .ok true
  /-- The same call again writes the base files. -/
  outcome_again : ((c.afterGenerate on).deliver after directory on).outcome =
    .ok (c.clientNames.map fun name => Output.path directory (Output.baseFile name))
  /-- The same call again changes no file. -/
  files_again : ∀ q, ((c.afterGenerate on).deliver after directory on).files.content? q =
    after.content? q

section Call

variable (reached : Reached c) (generated : c.generate on = .ok p)
include reached generated

theorem nodup_placeOf (current : Place) (directory : String) :
    (p.files.map (Output.placeOf current directory)).Nodup := by
  obtain ⟨-, named, nodup, -⟩ := files_of_generate reached generated
  rw [named] at nodup
  have places := Output.nodup_places (isIdentifier_clientNames reached) nodup current directory
  rw [← named, List.map_map] at places
  exact places

/-- A call that succeeds creates the directories and then writes as if each file were
alone. -/
theorem exists_effect {paths : List String}
    (h : (c.deliver t directory on).outcome = .ok paths) :
    ∃ ready, t.makeDirectories (Path.join directory Output.generatedDirectory) = (none, ready) ∧
      Output.Settled ready directory p.files ∧
      Output.Effect ready directory p.files paths (c.deliver t directory on).files := by
  rw [outcome_deliver_of_ok generated, mapError_eq_ok_iff] at h
  obtain ⟨nonempty, named, -, -⟩ := files_of_generate reached generated
  obtain ⟨name, names, clients⟩ := List.exists_cons_of_ne_nil nonempty
  have valid := isIdentifier_clientNames reached name (clients ▸ List.mem_cons_self)
  -- The first file is a base file, so its directory is the one for generated files.
  have start : p.files.map Code.File.name =
      Output.baseFile name :: Output.clientFile name :: Output.fileNames names := by
    rw [named, clients]
    rfl
  obtain ⟨f, fs, files, first, -⟩ := List.map_eq_cons_iff.mp start
  have last : Path.name (Output.path directory f.name) ≠ "" :=
    first ▸ Output.name_baseFile valid directory
  rw [files] at h
  obtain ⟨ready, made, there, same⟩ := Output.exists_ready last h
  rw [first, Output.directoryOf_baseFile valid] at made there
  rw [same, ← files] at h
  have settled : Output.Settled ready directory p.files :=
    Output.settled_of_isDirectory (isIdentifier_clientNames reached)
      (fun f hf => named ▸ List.mem_map_of_mem hf) there
  refine ⟨ready, made, settled, ?_⟩
  rw [files_deliver_of_ok generated, files, same, ← files]
  exact Output.effect_writeAll settled (nodup_placeOf reached generated _ _) h

end Call

/-- After files were written their clients are found. -/
theorem hasClient_of_pathExists {name : String} {after : FileTree} (h : name ∈ c.clientNames)
    (generated : c.generate on = .ok p)
    (there : after.pathExists (Output.path directory (Output.clientFile name)) = true) :
    c.hasClient after directory = .ok true := by
  obtain ⟨g, moment, built, nonempty, -, -, rfl⟩ := generate_eq_ok_iff.mp generated
  rw [clientNames_of_build built] at h
  rw [hasClient, someServices_of_build built, if_neg (by simpa using nonempty)]
  exact congrArg Except.ok (List.any_eq_true.mpr ⟨name, h, there⟩)

section Effect

variable {paths : List String} {ready after : FileTree} (reached : Reached c)
  (generated : c.generate on = .ok p) (effect : Output.Effect ready directory p.files paths after)
include reached generated effect

/-- The same call again writes the base files and changes nothing. -/
theorem deliver_again (settled : Output.Settled ready directory p.files) :
    ((c.afterGenerate on).deliver after directory on).outcome =
        .ok (c.clientNames.map fun name => Output.path directory (Output.baseFile name)) ∧
      ∀ q, ((c.afterGenerate on).deliver after directory on).files.content? q =
        after.content? q := by
  have apart := nodup_placeOf reached generated ready.current directory
  obtain ⟨-, -, -, bases⟩ := files_of_generate reached generated
  have second := generate_afterGenerate generated
  obtain ⟨outcome, again⟩ := Output.writeAll_again (effect.settled settled)
    (fun f hf overwrite => effect.written f hf (by rw [isWritten, overwrite, Bool.true_or]))
    (fun f hf _ => effect.pathExists apart hf)
  constructor
  · have listed := congrArg (List.map (Output.path directory)) bases
    rw [List.map_map, List.map_map] at listed
    rw [outcome_deliver_of_ok second, outcome]
    exact congrArg Except.ok listed
  · intro q
    rw [files_deliver_of_ok second, FileTree.content?, again.at? id]
    rfl

theorem delivered_of_effect
    (made : t.makeDirectories (Path.join directory Output.generatedDirectory) = (none, ready))
    (settled : Output.Settled ready directory p.files) :
    Delivered c on p t directory paths ready after := by
  have created := FileTree.creates_makeDirectories t (Path.join directory Output.generatedDirectory)
  rw [made] at created
  have ext := FileTree.extends_of_creates (fun _ => False) created
  obtain ⟨outcomeAgain, filesAgain⟩ := deliver_again reached generated effect settled
  refine ⟨made, ?_, ?_, ?_, effect.listed, ?_, ?_, outcomeAgain, filesAgain⟩
  · intro name h
    obtain ⟨base, hbase, -, -, found, -, named, -, overwrite⟩ :=
      exists_files_of_name reached generated h
    refine ⟨base, found, ?_⟩
    rw [← named]
    exact effect.written base hbase (by rw [isWritten, overwrite, Bool.true_or])
  · intro name h missing
    obtain ⟨-, -, own, hown, -, found, -, named, -⟩ := exists_files_of_name reached generated h
    refine ⟨own, found, ?_⟩
    rw [← named] at missing ⊢
    exact effect.written own hown (by rw [isWritten, missing, Bool.not_false, Bool.or_true])
  · intro plain name h
    have valid := isIdentifier_clientNames reached name h
    exact Bool.eq_iff_iff.mpr ⟨Output.pathExists_of_ready valid plain made, ext.pathExists id⟩
  · intro q elsewhere
    rw [← ext.current] at elsewhere
    rw [FileTree.content?, effect.at? elsewhere]
    exact FileTree.content?_of_creates created q
  · obtain ⟨nonempty, -, -, -⟩ := files_of_generate reached generated
    obtain ⟨name, h⟩ := List.exists_mem_of_ne_nil _ nonempty
    obtain ⟨-, -, own, hown, -, -, -, named, -⟩ := exists_files_of_name reached generated h
    have apart := nodup_placeOf reached generated ready.current directory
    have there := effect.pathExists apart hown
    rw [named] at there
    exact hasClient_of_pathExists h generated there

end Effect

/-- A call that succeeds leaves behind what `Delivered` says.  A call that fails at a file has
written the files before it and nothing of the later ones, and leaves the file itself as
`Output.FailedTurn` says. -/
theorem effect_of_deliver {c : Client} {on : Clock} {p : Code.Project} (reached : Reached c)
    (generated : c.generate on = .ok p) (t : FileTree) (directory : String) :
    (∀ paths, (c.deliver t directory on).outcome = .ok paths →
      ∃ ready, Delivered c on p t directory paths ready (c.deliver t directory on).files) ∧
    (∀ fault, (c.deliver t directory on).outcome = .error (.write fault) →
      ∃ before f rest earlier, p.files = before ++ f :: rest ∧
        (Output.writeAll t directory before).outcome = .ok earlier ∧
        (Output.writeOne (Output.writeAll t directory before).files directory f).outcome =
          .error fault ∧
        Output.FailedTurn (Output.writeAll t directory before).files directory f fault
          (c.deliver t directory on).files) := by
  constructor
  · intro paths h
    obtain ⟨ready, made, settled, effect⟩ := exists_effect reached generated h
    exact ⟨ready, delivered_of_effect reached generated effect made settled⟩
  · intro fault h
    rw [outcome_deliver_of_ok generated] at h
    obtain ⟨early, failed, same⟩ := mapError_eq_error_iff.mp h
    cases same
    rw [files_deliver_of_ok generated]
    exact Output.exists_of_writeAll_fault failed

/-! ### Witness -/

/-- A client of one service, under the name of the service. -/
def plainWeather : Client :=
  { contract := { services := [{ name := "Weather" }] }
    engine := { module := "engines", cls := "Engine" } }

theorem reached_plainWeather : Reached plainWeather := .fresh _ _

/-- The moment of all calls below. -/
def weatherDay : Clock := .ok { date := ⟨2024, 1, 2⟩ }

theorem exists_generate_plainWeather : ∃ p, plainWeather.generate weatherDay = .ok p := by
  have generated : (plainWeather.generate weatherDay).isOk = true := by decide +kernel
  cases h : plainWeather.generate weatherDay with
  | error fault => rw [h] at generated; cases generated
  | ok p => exact ⟨p, rfl⟩

/-- A current directory with nothing in it. -/
def emptyWork : FileTree := { nodes := [(["work"], .directory)], current := ["work"] }

theorem exists_first_plainWeather {p : Code.Project}
    (generated : plainWeather.generate weatherDay = .ok p) :
    ∃ f fs, p.files = f :: fs ∧ f.name = "generated/WeatherBase.py" ∧
      p.file? "generated/WeatherBase.py" = some f := by
  obtain ⟨-, named, -, -⟩ := files_of_generate reached_plainWeather generated
  have names : Output.fileNames plainWeather.clientNames =
      ["generated/WeatherBase.py", "Weather.py"] := by decide +kernel
  obtain ⟨f, fs, files, first, -⟩ := List.map_eq_cons_iff.mp (named.trans names)
  refine ⟨f, fs, files, first, ?_⟩
  rw [Code.Project.file?, files]
  exact List.find?_cons_of_pos (decide_eq_true first)

theorem isClosed_emptyWork : emptyWork.IsClosed := by
  intro p n there
  cases p with
  | nil => rfl
  | cons m ms => simp [emptyWork, FileTree.at?] at there

theorem outcome_emptyWork :
    (plainWeather.deliver emptyWork "out" weatherDay).outcome =
      .ok ["out/generated/WeatherBase.py", "out/Weather.py"] := by
  have ended : (match (plainWeather.deliver emptyWork "out" weatherDay).outcome with
    | .ok paths => decide (paths = ["out/generated/WeatherBase.py", "out/Weather.py"])
    | .error _ => false) = true := by decide +kernel
  split at ended
  next paths outcome => rw [outcome, of_decide_eq_true ended]
  next => cases ended

/-- The text of a file ends with a line break. -/
theorem render_ne {f : Code.File} {text : String} (h : text.toList.getLast? ≠ some '\n') :
    f.render ≠ text := by
  intro same
  rw [← same, Code.File.render, String.toList_append] at h
  simp at h

theorem size_render_pos (f : Code.File) : 0 < f.render.toUTF8.size := by
  have nonempty : f.render.utf8ByteSize ≠ 0 := by
    rw [Ne, String.utf8ByteSize_eq_zero_iff]
    exact render_ne (by decide)
  rw [String.toUTF8_eq_toByteArray, String.size_toByteArray]
  exact Nat.pos_of_ne_zero nonempty

/-- A current directory with nothing in it, on a full disk. -/
def fullWork : FileTree := { emptyWork with room := some 0 }

theorem path_weatherBase {f : Code.File} (named : f.name = "generated/WeatherBase.py") :
    Output.path "out" f.name = "out/generated/WeatherBase.py" := by
  rw [named]
  decide +kernel

/-- The directories are there, but there is no room for the first file. -/
theorem writeOne_fullWork {f : Code.File} (named : f.name = "generated/WeatherBase.py") :
    (Output.writeOne fullWork "out" f).outcome =
      .error (.file "out/generated/WeatherBase.py" ⟨.noSpace, "out/generated/WeatherBase.py"⟩) := by
  let ready : FileTree := { fullWork with nodes := [(["work"], .directory),
    (["work", "out"], .directory), (["work", "out", "generated"], .directory)] }
  have made : fullWork.makeDirectories (Output.directoryOf "out/generated/WeatherBase.py") =
      (none, ready) := by decide +kernel
  have aimed : ready.target "out/generated/WeatherBase.py" =
      .ok ["work", "out", "generated", "WeatherBase.py"] := by decide +kernel
  have cut : (ready.write "out/generated/WeatherBase.py" f.render.toUTF8).1 =
      some ⟨.noSpace, "out/generated/WeatherBase.py"⟩ :=
    FileTree.write_of_short aimed rfl (size_render_pos f)
  have absent : ready.pathExists "out/generated/WeatherBase.py" = false := by decide +kernel
  unfold Output.writeOne
  simp only [path_weatherBase named, Output.prepareDirectory_of_ok made, absent, Bool.and_false,
    Bool.false_eq_true, if_false]
  split
  next fault u failed =>
    rw [failed] at cut
    cases cut
    rfl
  next u done =>
    rw [done] at cut
    cases cut

/-- Both files are written into a directory that is not there yet.  A second call writes the
base file only.  On a full disk the first call creates the base file and leaves it empty or
with a beginning of its text. -/
theorem effect_of_deliver_emptyWork :
    ∃ p base own, plainWeather.generate weatherDay = .ok p ∧
      p.file? "generated/WeatherBase.py" = some base ∧ p.file? "Weather.py" = some own ∧
      (plainWeather.deliver emptyWork "out" weatherDay).files.read "out/generated/WeatherBase.py" =
        .ok base.render.toUTF8 ∧
      (plainWeather.deliver emptyWork "out" weatherDay).files.read "out/Weather.py" =
        .ok own.render.toUTF8 ∧
      ((plainWeather.afterGenerate weatherDay).deliver
        (plainWeather.deliver emptyWork "out" weatherDay).files "out" weatherDay).outcome =
          .ok ["out/generated/WeatherBase.py"] ∧
      (plainWeather.deliver fullWork "out" weatherDay).outcome =
        .error (.write (.file "out/generated/WeatherBase.py"
          ⟨.noSpace, "out/generated/WeatherBase.py"⟩)) ∧
      ∃ n < base.render.toUTF8.size,
        (plainWeather.deliver fullWork "out" weatherDay).files.read
          "out/generated/WeatherBase.py" = .ok (base.render.toUTF8.extract 0 n) := by
  obtain ⟨p, generated⟩ := exists_generate_plainWeather
  obtain ⟨succeeds, -⟩ := effect_of_deliver reached_plainWeather generated emptyWork "out"
  obtain ⟨ready, delivered⟩ := succeeds _ outcome_emptyWork
  have names : plainWeather.clientNames = ["Weather"] := by decide +kernel
  have named : "Weather" ∈ plainWeather.clientNames := by rw [names]; exact List.mem_cons_self
  have plain : Output.IsPlain emptyWork "out" := .inr ⟨isClosed_emptyWork, by decide +kernel⟩
  have missing := (delivered.plain plain _ named).trans
    (by decide +kernel : emptyWork.pathExists "out/Weather.py" = false)
  obtain ⟨base, baseFile, baseText⟩ := delivered.bases _ named
  obtain ⟨own, ownFile, ownText⟩ := delivered.clients _ named missing
  have again := delivered.outcome_again
  rw [names] at again
  refine ⟨p, base, own, generated, baseFile, ownFile, baseText, ownText, again, ?_⟩
  obtain ⟨f, fs, files, first, found⟩ := exists_first_plainWeather generated
  cases Option.some.inj (found.symm.trans baseFile)
  have failed := writeOne_fullWork first
  have outcome : (plainWeather.deliver fullWork "out" weatherDay).outcome =
      .error (.write (.file "out/generated/WeatherBase.py"
        ⟨.noSpace, "out/generated/WeatherBase.py"⟩)) := by
    rw [outcome_deliver_of_ok generated, files, (Output.writeAll_cons_of_error failed).1]
    rfl
  obtain ⟨-, fails⟩ := effect_of_deliver reached_plainWeather generated fullWork "out"
  obtain ⟨before, g, rest, earlier, split, done, -, turn⟩ := fails _ outcome
  cases before with
  | nil =>
      rw [files, List.nil_append] at split
      cases split
      obtain ⟨n, short, text⟩ := turn.cut rfl
      rw [path_weatherBase first] at text
      exact ⟨outcome, n, short, text⟩
  | cons k before =>
      rw [files, List.cons_append] at split
      cases split
      rw [(Output.writeAll_cons_of_error failed).1] at done
      cases done

/-! ### A client file behind a detour -/

/-- A current directory with a client file of the user. -/
def userWork : FileTree :=
  { nodes := [(["work"], .directory), (["work", "y"], .directory),
      (["work", "y", "Weather.py"], .file "# mine".toUTF8)]
    current := ["work"] }

/-- Before the directory `x` is created, the path `x/../y/Weather.py` leads to nothing.  A call
that writes into `x/../y` creates it, finds the file of the user, and keeps it.  So the call
succeeds and does not write the client file. -/
theorem client_behind_detour :
    ∃ p own paths, plainWeather.generate weatherDay = .ok p ∧
      "Weather" ∈ plainWeather.clientNames ∧ p.file? (Output.clientFile "Weather") = some own ∧
      userWork.pathExists (Output.path "x/../y" (Output.clientFile "Weather")) = false ∧
      (plainWeather.deliver userWork "x/../y" weatherDay).outcome = .ok paths ∧
      (plainWeather.deliver userWork "x/../y" weatherDay).files.read
        (Output.path "x/../y" (Output.clientFile "Weather")) ≠ .ok own.render.toUTF8 := by
  obtain ⟨p, generated⟩ := exists_generate_plainWeather
  have named : "Weather" ∈ plainWeather.clientNames := by decide +kernel
  obtain ⟨-, -, own, -, -, found, -, -, -⟩ :=
    exists_files_of_name reached_plainWeather generated named
  have ended : (plainWeather.deliver userWork "x/../y" weatherDay).outcome.isOk = true := by
    decide +kernel
  have kept : (match (plainWeather.deliver userWork "x/../y" weatherDay).files.read
      (Output.path "x/../y" (Output.clientFile "Weather")) with
    | .ok content => decide (content = "# mine".toUTF8)
    | .error _ => false) = true := by decide +kernel
  cases outcome : (plainWeather.deliver userWork "x/../y" weatherDay).outcome with
  | error fault => rw [outcome] at ended; cases ended
  | ok paths =>
      refine ⟨p, own, paths, generated, named, found, by decide +kernel, rfl, ?_⟩
      intro text
      rw [text] at kept
      exact render_ne (by decide) (String.toByteArray_inj.mp (of_decide_eq_true kept))

end Client

end ContractClient
