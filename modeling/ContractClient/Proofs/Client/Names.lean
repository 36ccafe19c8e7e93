import ContractClient.Client.Generate
import ContractClient.Proofs.FileTree.Path
import ContractClient.Proofs.Identifier.Roles
import ContractClient.Proofs.Service.Build

/-!
# Names of clients and places of their files

The name of a client is legal: it is the normal form of a service's name, or a name
that was accepted by `rename?` (`isLegal_clientName`).  So it holds no
slash, and the files of a client are where their names say: the base file in the
directory for generated files, and the client file right in the output directory
(`place_baseFile`, `place_clientFile`).
-/

namespace ContractClient

/-! ## Names -/

namespace Client

/-- The clients there are: the client of a contract and an engine, and what
renaming services and looking at a client make of one. -/
inductive Reached : Client → Prop
  | fresh (contract : Contract) (engine : EngineRef) : Reached { contract, engine }
  | rename {c d : Client} {service chosen : String} (before : Reached c)
      (accepted : c.rename? service chosen = some d) : Reached d
  | catalog {c : Client} (before : Reached c) : Reached c.afterCatalog
  | services {c : Client} (before : Reached c) : Reached c.afterServices
  | generate {c : Client} (on : Clock) (before : Reached c) : Reached (c.afterGenerate on)

theorem aliases_afterCatalog (c : Client) : c.afterCatalog.aliases = c.aliases := by
  rw [afterCatalog]
  split <;> rfl

theorem aliases_afterServices (c : Client) : c.afterServices.aliases = c.aliases := by
  rw [afterServices]
  split <;> rfl

theorem aliases_afterGenerate (c : Client) (on : Clock) :
    (c.afterGenerate on).aliases = c.aliases := by
  rw [afterGenerate]
  split
  · rfl
  · exact c.aliases_afterServices

/-- Only legal names are chosen. -/
theorem Reached.isLegal_alias {c : Client} (h : Reached c) :
    ∀ e ∈ c.aliases, Identifier.IsLegal e.2 := by
  induction h with
  | fresh contract engine => intro e he; cases he
  | @rename c d service chosen _ accepted ih =>
      rw [rename?] at accepted
      split at accepted
      next valid =>
        cases accepted
        intro e he
        cases Entries.mem_put he with
        | inl old => exact ih e old
        | inr new => rw [new]; exact ⟨valid.1, by simpa using valid.2⟩
      next => cases accepted
  | catalog _ ih => rw [aliases_afterCatalog]; exact ih
  | services _ ih => rw [aliases_afterServices]; exact ih
  | generate on _ ih => rw [aliases_afterGenerate]; exact ih

/-- The name of a client is legal. -/
theorem isLegal_clientName_of_service? {c : Client} (h : Reached c) {g : Catalog} {s : Service}
    {d : ServiceDecl} (made : g.service? d = some s) : Identifier.IsLegal (c.clientName s) := by
  rw [clientName]
  split
  next chosen _ found => exact h.isLegal_alias _ (Entries.mem_of_get? found)
  next chosen _ found => exact h.isLegal_alias _ (Entries.mem_of_get? found)
  next =>
    obtain ⟨name, named⟩ := Catalog.name_of_service? made
    rw [name] at named ⊢
    exact Identifier.isLegal_normalize named

theorem isLegal_clientName {c : Client} (h : Reached c) {g : Catalog} {s : Service}
    (hs : s ∈ g.services c.contract.services) : Identifier.IsLegal (c.clientName s) := by
  obtain ⟨d, -, made⟩ := Catalog.mem_services hs
  exact isLegal_clientName_of_service? h made

theorem isIdentifier_clientName {c : Client} (h : Reached c) {g : Catalog} {s : Service}
    (hs : s ∈ g.services c.contract.services) : Identifier.isIdentifier (c.clientName s) = true :=
  (isLegal_clientName h hs).identifier

end Client

/-! ## Places -/

namespace Output

/-- The place of the base file of a client. -/
def basePlace (current : Place) (directory name : String) : Place :=
  Path.absoluteNames current directory ++ [generatedDirectory, name ++ "Base.py"]

/-- The place of the client file of a client. -/
def clientPlace (current : Place) (directory name : String) : Place :=
  Path.absoluteNames current directory ++ [name ++ ".py"]

theorem isName_append_py {s : String} (h : '/' ∉ s.toList) : Path.IsName (s ++ ".py") := by
  have last : (s ++ ".py").toList.getLast? = some 'y' := by simp
  refine ⟨?_, ?_, ?_, by simpa using h⟩
  all_goals
    intro same
    rw [same] at last
    cases last

theorem isName_generated : Path.IsName generatedDirectory := by
  constructor <;> decide

variable {name : String}

theorem isName_clientFile (h : Identifier.isIdentifier name = true) :
    Path.IsName (name ++ ".py") :=
  isName_append_py (Identifier.not_mem_of_isIdentifier h (by decide))

theorem isName_baseFile (h : Identifier.isIdentifier name = true) :
    Path.IsName (name ++ "Base.py") := by
  have noSlash : '/' ∉ (name ++ "Base").toList := by
    simpa using Identifier.not_mem_of_isIdentifier h (by decide)
  simpa [String.append_assoc] using isName_append_py noSlash

theorem path_clientFile (h : Identifier.isIdentifier name = true) (directory : String) :
    path directory (clientFile name) = Path.join directory (name ++ ".py") := by
  rw [path, clientFile, (isName_clientFile h).parts]
  rfl

theorem path_baseFile (h : Identifier.isIdentifier name = true) (directory : String) :
    path directory (baseFile name) =
      Path.join (Path.join directory generatedDirectory) (name ++ "Base.py") := by
  have shape : baseFile name = generatedDirectory ++ "/" ++ (name ++ "Base.py") :=
    String.append_assoc
  rw [path, shape, Path.parts_append_slash, isName_generated.parts, (isName_baseFile h).parts]
  rfl

theorem place_clientFile (h : Identifier.isIdentifier name = true) (current : Place)
    (directory : String) :
    Path.absoluteNames current (path directory (clientFile name)) =
      clientPlace current directory name := by
  rw [path_clientFile h, Path.absoluteNames_join (isName_clientFile h), clientPlace]

theorem place_baseFile (h : Identifier.isIdentifier name = true) (current : Place)
    (directory : String) :
    Path.absoluteNames current (path directory (baseFile name)) =
      basePlace current directory name := by
  rw [path_baseFile h, Path.absoluteNames_join (isName_baseFile h),
    Path.absoluteNames_join isName_generated, basePlace, List.append_assoc, List.singleton_append]

/-- A client file is never where a base file is. -/
theorem clientPlace_ne_basePlace (current : Place) (directory name base : String) :
    clientPlace current directory name ≠ basePlace current directory base := by
  intro same
  have lengths := congrArg List.length same
  simp [clientPlace, basePlace] at lengths

end Output

end ContractClient
