import ContractClient.Proofs.Client.Generate
import ContractClient.Proofs.Client.Names

/-!
# Collisions of names

The check of names goes through the services and keeps the names that are taken.  Each
service wants two names, so the first name that is wanted twice may be met from either side:
a client may have the name of an earlier base class, and a base class that of an earlier
client.  The table holds both names of each service, so all of this is found, and nothing
else is (`checkNames_is_exact`).

Names of clients that pass the check are distinct.  They are identifiers, and then the files
have distinct names, too.
-/

namespace ContractClient

/-! ## One step and all steps -/

namespace Client

variable {c : Client} {g : Catalog} {taken : Entries String} {s : Service} {ss : List Service}

/-- The names that the clients of services want. -/
def ownNames (c : Client) (ss : List Service) : List String :=
  ss.flatMap fun s => [c.clientName s, baseName (c.clientName s)]

theorem baseName_ne (name : String) : baseName name ≠ name := by
  intro same
  have lengths := congrArg String.length same
  rw [baseName, String.length_append] at lengths
  have base : "Base".length = 4 := by decide
  omega

/-- A name of the next client is taken, or both are free and are taken then. -/
theorem checkNamesFrom_cons (c : Client) (taken : Entries String) (s : Service)
    (ss : List Service) :
    (∃ name holder, name ∈ taken.keys ∧ name ∈ [c.clientName s, baseName (c.clientName s)] ∧
      c.checkNamesFrom taken (s :: ss) = .error (.nameCollision name holder)) ∨
    ∃ next : Entries String, c.clientName s ∉ taken.keys ∧ baseName (c.clientName s) ∉ taken.keys ∧
      next.keys = taken.keys ++ [baseName (c.clientName s), c.clientName s] ∧
      c.checkNamesFrom taken (s :: ss) = c.checkNamesFrom next ss := by
  rw [checkNamesFrom]
  split
  next holder found =>
    exact .inl ⟨_, holder, List.mem_map_of_mem (Entries.mem_of_get? found), by simp, rfl⟩
  next holder _ found =>
    exact .inl ⟨_, holder, List.mem_map_of_mem (Entries.mem_of_get? found), by simp, rfl⟩
  next freeName freeBase =>
    rw [Entries.get?_eq_none_iff] at freeName freeBase
    refine .inr ⟨_, freeName, freeBase, ?_, rfl⟩
    rw [Entries.keys_put, Entries.keys_put, if_neg freeBase, if_neg]
    · simp
    · simp [freeName, (baseName_ne _).symm]

/-- Either the check passes and no name is wanted twice, or it finds a name that is. -/
theorem checkNamesFrom_cases (c : Client) (nodup : taken.keys.Nodup) (ss : List Service) :
    (c.checkNamesFrom taken ss = .ok () ∧ (taken.keys ++ c.ownNames ss).Nodup) ∨
      ∃ name holder, c.checkNamesFrom taken ss = .error (.nameCollision name holder) ∧
        2 ≤ (taken.keys ++ c.ownNames ss).count name := by
  induction ss generalizing taken with
  | nil => exact .inl ⟨rfl, by simpa [ownNames] using nodup⟩
  | cons s ss ih =>
      have own : c.ownNames (s :: ss) =
          [c.clientName s, baseName (c.clientName s)] ++ c.ownNames ss := List.flatMap_cons
      rcases c.checkNamesFrom_cons taken s ss with
        ⟨name, holder, there, wanted, found⟩ | ⟨next, freeName, freeBase, keys, step⟩
      · refine .inr ⟨name, holder, found, ?_⟩
        have before := List.count_pos_iff.mpr there
        have again := List.count_pos_iff.mpr wanted
        rw [own, List.count_append, List.count_append]
        omega
      · have nodup : next.keys.Nodup := by
          rw [keys, List.nodup_append]
          refine ⟨nodup, by simp [baseName_ne], ?_⟩
          rintro name there other hother rfl
          rcases List.mem_pair.mp hother with rfl | rfl
          · exact freeBase there
          · exact freeName there
        -- The two names of the client stand in the table the other way round.
        have perm : (next.keys ++ c.ownNames ss).Perm (taken.keys ++ c.ownNames (s :: ss)) := by
          rw [keys, own, List.append_assoc]
          exact ((List.Perm.swap _ _ []).append_right _).append_left _
        rw [step, ← perm.nodup_iff]
        simp only [← perm.count_eq]
        exact ih nodup

theorem keys_classHolders (nodup : g.names.Nodup) : (classHolders g).keys = g.names := by
  have keys : (g.names.map fun n => (n, "contract type " ++ n)).map Prod.fst = g.names := by
    rw [List.map_map]
    exact List.map_id _
  rw [classHolders, Entries.ofPairs_eq_self (keys.symm ▸ nodup)]
  exact keys

theorem checkNames_cases (c : Client) (nodup : g.names.Nodup) (ss : List Service) :
    (c.checkNames g ss = .ok () ∧ (g.names ++ c.ownNames ss).Nodup) ∨
      ∃ name holder, c.checkNames g ss = .error (.nameCollision name holder) ∧
        2 ≤ (g.names ++ c.ownNames ss).count name := by
  have keys := keys_classHolders nodup
  have cases := c.checkNamesFrom_cases (keys.symm ▸ nodup) ss
  rwa [keys] at cases

theorem checkNames_eq_ok_iff (nodup : g.names.Nodup) :
    c.checkNames g ss = .ok () ↔ (g.names ++ c.ownNames ss).Nodup := by
  rcases c.checkNames_cases nodup ss with ⟨passed, apart⟩ | ⟨name, holder, found, twice⟩
  · simp [passed, apart]
  · have repeated : ¬ (g.names ++ c.ownNames ss).Nodup := by
      intro apart
      have once := List.nodup_iff_count_le_one.mp apart name
      omega
    simp [found, repeated]

theorem nameCollision_iff (nodup : g.names.Nodup) :
    (∃ name holder, c.checkNames g ss = .error (.nameCollision name holder)) ↔
      ¬ (g.names ++ c.ownNames ss).Nodup := by
  rw [← checkNames_eq_ok_iff nodup]
  constructor
  · rintro ⟨name, holder, found⟩ passed
    rw [found] at passed
    cases passed
  · intro failed
    rcases c.checkNames_cases nodup ss with ⟨passed, -⟩ | ⟨name, holder, found, -⟩
    · exact absurd passed failed
    · exact ⟨name, holder, found⟩

end Client

/-! ## Names of files -/

namespace Output

variable {name other : String}

theorem baseFile_inj : baseFile name = baseFile other ↔ name = other := by
  rw [baseFile, baseFile, String.append_left_inj, String.append_right_inj]

theorem clientFile_inj : clientFile name = clientFile other ↔ name = other := by
  rw [clientFile, clientFile, String.append_left_inj]

/-- A base file is in a directory, and a client file is not. -/
theorem baseFile_ne_clientFile (h : Identifier.isIdentifier other = true) :
    baseFile name ≠ clientFile other := by
  intro same
  have slash : '/' ∈ (baseFile name).toList := by
    simp [baseFile, String.toList_append]
  rw [same, clientFile, String.toList_append, List.mem_append] at slash
  rcases slash with slash | slash
  · exact Identifier.not_mem_of_isIdentifier h (by decide) slash
  · revert slash
    decide

/-- The names of the files of some clients. -/
def fileNames (names : List String) : List String :=
  names.flatMap fun name => [baseFile name, clientFile name]

theorem nodup_fileNames {names : List String} (nodup : names.Nodup)
    (h : ∀ name ∈ names, Identifier.isIdentifier name = true) : (fileNames names).Nodup := by
  rw [fileNames, List.nodup_flatMap]
  constructor
  · intro name hname
    simp [baseFile_ne_clientFile (h name hname)]
  · refine List.Pairwise.imp_of_mem ?_ nodup
    intro a b ha hb apart file hfile again
    rcases List.mem_pair.mp hfile with rfl | rfl <;> rcases List.mem_pair.mp again with same | same
    · exact apart (baseFile_inj.mp same)
    · exact baseFile_ne_clientFile (h b hb) same
    · exact baseFile_ne_clientFile (h a ha) same.symm
    · exact apart (clientFile_inj.mp same)

end Output

namespace Client

variable {c : Client} {g : Catalog} {ss : List Service}

theorem nodup_clientNames (h : (g.names ++ c.ownNames ss).Nodup) : (ss.map c.clientName).Nodup := by
  have own : (c.ownNames ss).Nodup := (List.nodup_append.mp h).2.1
  rw [List.Nodup, List.pairwise_map]
  refine (List.nodup_flatMap.mp own).2.imp fun disjoint same => ?_
  exact disjoint List.mem_cons_self (same ▸ List.mem_cons_self)

theorem nodup_fileNames_of_checkNames (reached : Reached c) (nodup : g.names.Nodup)
    (made : ∀ s ∈ ss, ∃ d, g.service? d = some s) (checked : c.checkNames g ss = .ok ()) :
    (Output.fileNames (ss.map c.clientName)).Nodup := by
  refine Output.nodup_fileNames (nodup_clientNames ((checkNames_eq_ok_iff nodup).mp checked)) ?_
  intro name hname
  obtain ⟨s, hs, rfl⟩ := List.mem_map.mp hname
  obtain ⟨d, made⟩ := made s hs
  exact (isLegal_clientName_of_service? reached made).identifier

theorem map_name_fullFiles (c : Client) (g : Catalog) (on : Moment) (ss : List Service) :
    (c.fullFiles g on ss).map Code.File.name = Output.fileNames (ss.map c.clientName) := by
  rw [fullFiles, List.map_flatMap, Output.fileNames, List.flatMap_map]
  rfl

/-- The files of all clients have distinct names. -/
theorem names_of_generate {on : Clock} {p : Code.Project} (reached : Reached c)
    (built : Catalog.build c.contract.classes = .ok g) (h : c.generate on = .ok p) :
    p.files.map Code.File.name =
        Output.fileNames ((g.services c.contract.services).map c.clientName) ∧
      (p.files.map Code.File.name).Nodup := by
  obtain ⟨g', moment, again, -, checked, -, rfl⟩ := generate_eq_ok_iff.mp h
  cases built.symm.trans again
  have made : ∀ s ∈ g.services c.contract.services, ∃ d, g.service? d = some s := by
    intro s hs
    obtain ⟨d, -, made⟩ := Catalog.mem_services hs
    exact ⟨d, made⟩
  have names := c.map_name_fullFiles g moment (g.services c.contract.services)
  refine ⟨names, ?_⟩
  rw [names]
  exact nodup_fileNames_of_checkNames reached (Catalog.nodup_names_of_build built) made checked

/-- The check of names fails exactly if a name occurs twice among the names of the classes and
the two names of each client, whatever the aliases are and in whatever order the services
stand, and it reports such a name.  If it passes, no two files have a name in common, and
these are the files that are generated. -/
theorem checkNames_is_exact {c : Client} {g : Catalog}
    (built : Catalog.build c.contract.classes = .ok g) (ss : List Service) :
    ((∃ name holder, c.checkNames g ss = .error (.nameCollision name holder)) ↔
      ¬ (g.names ++ ss.flatMap fun s => [c.clientName s, baseName (c.clientName s)]).Nodup) ∧
    (∀ f, c.checkNames g ss = .error f → ∃ name holder, f = .nameCollision name holder ∧
      2 ≤ (g.names ++ ss.flatMap fun s =>
        [c.clientName s, baseName (c.clientName s)]).count name) ∧
    (∀ ts, ss.Perm ts → (c.checkNames g ss = .ok () ↔ c.checkNames g ts = .ok ())) ∧
    (Reached c → (∀ s ∈ ss, ∃ d, g.service? d = some s) → c.checkNames g ss = .ok () →
      (ss.flatMap fun s =>
        [Output.baseFile (c.clientName s), Output.clientFile (c.clientName s)]).Nodup) ∧
    ∀ on p, Reached c → c.generate on = .ok p →
      p.files.map Code.File.name = (g.services c.contract.services).flatMap (fun s =>
        [Output.baseFile (c.clientName s), Output.clientFile (c.clientName s)]) ∧
      (p.files.map Code.File.name).Nodup := by
  have nodup := Catalog.nodup_names_of_build built
  have written : ∀ ss : List Service, (ss.flatMap fun s =>
      [Output.baseFile (c.clientName s), Output.clientFile (c.clientName s)]) =
      Output.fileNames (ss.map c.clientName) := by
    intro ss
    rw [Output.fileNames, List.flatMap_map]
  refine ⟨nameCollision_iff nodup, ?_, ?_, ?_, ?_⟩
  · intro f failed
    rcases c.checkNames_cases nodup ss with ⟨passed, -⟩ | ⟨name, holder, found, twice⟩
    · rw [passed] at failed
      cases failed
    · rw [found] at failed
      cases failed
      exact ⟨name, holder, rfl, twice⟩
  · intro ts perm
    rw [checkNames_eq_ok_iff nodup, checkNames_eq_ok_iff nodup]
    exact ((perm.flatMap_right _).append_left _).nodup_iff
  · intro reached made checked
    rw [written]
    exact nodup_fileNames_of_checkNames reached nodup made checked
  · intro on p reached h
    rw [written]
    exact names_of_generate reached built h

/-! ### Witness -/

/-- A client of a contract in which the name of one service is that of the other one's base
class. -/
def crossed : Client :=
  { contract :=
      { classes := [{ name := "Item" }], services := [{ name := "Foo" }, { name := "FooBase" }] }
    engine := { module := "engines", cls := "Engine" } }

/-- The client with another name for the second service. -/
def uncrossed : Client := { crossed with aliases := [("FooBase", "Bar")] }

theorem rename?_crossed : crossed.rename? "FooBase" "Bar" = some uncrossed := by
  rw [rename?, if_pos (by decide +kernel)]
  rfl

/-- The services collide in either order.  After one of them is renamed, there are four files. -/
theorem checkNames_of_crossed :
    ∃ g, Catalog.build crossed.contract.classes = .ok g ∧
      (∃ name holder, crossed.checkNames g (g.services crossed.contract.services) =
        .error (.nameCollision name holder)) ∧
      crossed.checkNames g (g.services crossed.contract.services).reverse ≠ .ok () ∧
      ∃ p, uncrossed.generate (.ok { date := ⟨2024, 1, 2⟩ }) = .ok p ∧
        p.files.map Code.File.name =
          ["generated/FooBase.py", "Foo.py", "generated/BarBase.py", "Bar.py"] ∧
        (p.files.map Code.File.name).Nodup := by
  have facts : (Catalog.build crossed.contract.classes).toOption.any (fun g => decide
      ((g.names ++ (g.services crossed.contract.services).flatMap fun s =>
          [crossed.clientName s, baseName (crossed.clientName s)]) =
        ["Item", "Foo", "FooBase", "FooBase", "FooBaseBase"] ∧
      ((g.services crossed.contract.services).flatMap fun s =>
          [Output.baseFile (uncrossed.clientName s), Output.clientFile (uncrossed.clientName s)]) =
        ["generated/FooBase.py", "Foo.py", "generated/BarBase.py", "Bar.py"])) = true := by
    decide +kernel
  have generated : (uncrossed.generate (.ok { date := ⟨2024, 1, 2⟩ })).isOk = true := by
    decide +kernel
  cases built : Catalog.build crossed.contract.classes with
  | error names => rw [built] at facts; cases facts
  | ok g =>
      rw [built, Except.toOption, Option.any_some] at facts
      obtain ⟨names, files⟩ := of_decide_eq_true facts
      obtain ⟨found, -, order, -, -⟩ :=
        checkNames_is_exact built (g.services crossed.contract.services)
      have collision := found.mpr (by rw [names]; decide)
      refine ⟨g, rfl, collision, ?_, ?_⟩
      · rw [Ne, ← order _ (List.reverse_perm _).symm]
        obtain ⟨name, holder, failed⟩ := collision
        rw [failed]
        intro passed
        cases passed
      · cases made : uncrossed.generate (.ok { date := ⟨2024, 1, 2⟩ }) with
        | error fault => rw [made] at generated; cases generated
        | ok p =>
            have reached : Reached uncrossed := .rename (.fresh _ _) rename?_crossed
            have all := (checkNames_is_exact (c := uncrossed) built []).2.2.2.2 _ p reached made
            exact ⟨p, rfl, all.1.trans files, all.2⟩

end Client

end ContractClient
