import ContractClient.Proofs.Client.Banner
import ContractClient.Proofs.Identifier.Roles

/-!
# References to engines and the imports they become

A reference is accepted exactly if it is the text of a module and a class with a colon
between them, where the class and the parts of the module are identifiers
(`parse?_eq_some_iff`).  The engine is looked at first, so on any other text no contract is
loaded.

A base file imports the engine under one fixed name.  `Import.read?` reads such a statement
word by word, and what it reads in a base file is the reference (`read?_importLine`).
Reserved words are identifiers to the check, but the grammar of the statement has no place
for them.  So the statement is legal exactly if no name of the reference is reserved
(`binds_importLine_iff`).
-/

namespace ContractClient

open Identifier

/-! ## Dotted names -/

/-- The parts of a dotted name. -/
def dotted (s : String) : List String := (s.toList.splitOn '.').map String.ofList

theorem all_splitOn_iff {s : String} :
    (s.toList.splitOn '.').all isIdentifierChars = true ↔
      ∀ part ∈ dotted s, isIdentifier part = true := by
  simp [dotted, isIdentifier]

theorem not_mem_of_isContinue {s : String} (h : isIdentifier s = true) {c : Char}
    (hc : isContinue c = false) : c ∉ s.toList := by
  intro there
  rw [mem_of_isIdentifierChars h c there] at hc
  cases hc

/-- A dotted name holds the characters of its parts, and dots. -/
theorem not_mem_of_dotted {s : String} (h : ∀ part ∈ dotted s, isIdentifier part = true)
    {c : Char} (hc : isContinue c = false) (other : c ≠ '.') : c ∉ s.toList := by
  have whole : ['.'].intercalate (s.toList.splitOn '.') = s.toList := List.intercalate_splitOn '.'
  rw [← whole]
  refine Code.not_mem_intercalate (by simpa using other) ?_
  intro part hpart
  have valid := h _ (List.mem_map_of_mem hpart)
  simpa using not_mem_of_isContinue valid hc

/-! ## References -/

namespace EngineRef

variable {s : String} {r : EngineRef}

/-- The names in a reference: the parts of the module, and the class. -/
def names (r : EngineRef) : List String := dotted r.module ++ [r.cls]

theorem forall_mem_names_iff {P : String → Prop} :
    (∀ n ∈ r.names, P n) ↔ (∀ part ∈ dotted r.module, P part) ∧ P r.cls := by
  rw [names, List.forall_mem_append, List.forall_mem_singleton]

/-- A text with a colon is read as what stands before the first one and behind it. -/
theorem parse?_render (h : ':' ∉ r.module.toList) :
    parse? r.render =
      if isIdentifierChars r.cls.toList ∧ (r.module.toList.splitOn '.').all isIdentifierChars then
        some r
      else none := by
  have chars : r.render.toList = r.module.toList ++ ':' :: r.cls.toList := by
    simp [render]
  have before : ∀ c ∈ r.module.toList, (c != ':') = true := by
    intro c hc
    exact bne_iff_ne.mpr fun same => h (same ▸ hc)
  rw [parse?, chars, List.takeWhile_append_of_pos before, List.dropWhile_append_of_pos before]
  simp

theorem parse?_eq_none_of_not_mem (h : ':' ∉ s.toList) : parse? s = none :=
  if_neg fun accepted => h accepted.1

/-- The accepted texts are those of references all of whose names are identifiers. -/
theorem parse?_eq_some_iff :
    parse? s = some r ↔ r.render = s ∧ ∀ n ∈ r.names, isIdentifier n = true := by
  rw [forall_mem_names_iff]
  constructor
  · intro accepted
    by_cases colon : ':' ∈ s.toList
    · obtain ⟨front, back, split, first⟩ := List.eq_append_cons_of_mem colon
      have text : (EngineRef.mk (.ofList front) (.ofList back)).render = s := by
        rw [← String.toList_inj, split]
        simp [render]
      rw [← text, parse?_render (by simpa using first)] at accepted
      split at accepted
      next valid => cases accepted; exact ⟨text, all_splitOn_iff.mp valid.2, valid.1⟩
      next => cases accepted
    · rw [parse?_eq_none_of_not_mem colon] at accepted
      cases accepted
  · rintro ⟨rfl, parts, cls⟩
    rw [parse?_render (not_mem_of_dotted parts (by decide) (by decide)),
      if_pos ⟨cls, all_splitOn_iff.mpr parts⟩]

end EngineRef

/-! ## Import statements -/

namespace Code

/-- The words of a line, between blanks. -/
def words (line : String) : List String := (line.toList.splitOn ' ').map String.ofList

theorem words_intercalate {ws : List String} (nonempty : ws ≠ [])
    (h : ∀ w ∈ ws, ' ' ∉ w.toList) : words (" ".intercalate ws) = ws := by
  have parted : (" ".intercalate ws).toList.splitOn ' ' = ws.map String.toList := by
    rw [String.toList_intercalate]
    refine List.splitOn_intercalate ' ' ?_ (by simpa using nonempty)
    intro l hl
    obtain ⟨w, hw, rfl⟩ := List.mem_map.mp hl
    exact h w hw
  rw [words, parted, List.map_map]
  simp

/-- An import of one name: the parts of the module, the name in the module, and the name it
is bound to. -/
structure Import where
  source : List String
  name : String
  bound : String

namespace Import

/-- Reads an import statement of one name. -/
def read? (line : String) : Option Import :=
  match words line with
  | ["from", module, "import", name] => some ⟨dotted module, name, name⟩
  | ["from", module, "import", name, "as", bound] => some ⟨dotted module, name, bound⟩
  | _ => none

/-- The grammar wants names that are no reserved words.  An import from `__future__` has to
stand first in a file besides, and can only ask for some names.  This is not covered. -/
structure IsLegal (i : Import) : Prop where
  source : ∀ part ∈ i.source, Identifier.IsLegal part
  name : Identifier.IsLegal i.name
  bound : Identifier.IsLegal i.bound

/-- A line is a legal import statement that binds a name. -/
def Binds (line bound : String) : Prop :=
  ∃ i, read? line = some i ∧ i.IsLegal ∧ i.bound = bound

end Import

end Code

namespace EngineRef

variable {r : EngineRef}

/-- The import that a reference stands for. -/
def imported (r : EngineRef) : Code.Import :=
  { source := dotted r.module, name := r.cls, bound := boundName }

/-- The words of the import line.  A class that has the fixed name already is not renamed. -/
def importWords (r : EngineRef) : List String :=
  if r.cls = boundName then ["from", r.module, "import", boundName]
  else ["from", r.module, "import", r.cls, "as", boundName]

theorem importLine_eq (r : EngineRef) : r.importLine = " ".intercalate r.importWords := by
  rw [importLine, importWords, ← String.toList_inj]
  split <;> simp

theorem isIdentifier_of_mem_importWords (cls : isIdentifier r.cls = true) {w : String}
    (hw : w ∈ r.importWords) : w = r.module ∨ isIdentifier w = true := by
  have listed : w ∈ ["from", r.module, "import", r.cls, "as", boundName] := by
    rw [importWords] at hw
    split at hw
    · simp only [List.mem_cons, List.not_mem_nil, or_false] at hw ⊢
      tauto
    · exact hw
  simp only [List.mem_cons, List.not_mem_nil, or_false] at listed
  rcases listed with rfl | rfl | rfl | rfl | rfl | rfl
  · exact Or.inr (by decide)
  · exact Or.inl rfl
  · exact Or.inr (by decide)
  · exact Or.inr cls
  · exact Or.inr (by decide)
  · exact Or.inr (by decide)

theorem not_mem_importWords (h : ∀ n ∈ r.names, isIdentifier n = true) {c : Char}
    (hc : isContinue c = false) (other : c ≠ '.') : ∀ w ∈ r.importWords, c ∉ w.toList := by
  obtain ⟨parts, cls⟩ := forall_mem_names_iff.mp h
  intro w hw
  rcases isIdentifier_of_mem_importWords cls hw with rfl | valid
  · exact not_mem_of_dotted parts hc other
  · exact not_mem_of_isContinue valid hc

/-- The import line is read as the reference. -/
theorem read?_importLine (h : ∀ n ∈ r.names, isIdentifier n = true) :
    Code.Import.read? r.importLine = some r.imported := by
  have nonempty : r.importWords ≠ [] := by rw [importWords]; split <;> simp
  rw [importLine_eq, Code.Import.read?, Code.words_intercalate nonempty
    (not_mem_importWords h (by decide) (by decide)), importWords, imported]
  by_cases own : r.cls = boundName
  · rw [if_pos own, own]
    rfl
  · rw [if_neg own]
    rfl

/-- The statement is legal exactly if no name is a reserved word. -/
theorem binds_importLine_iff (h : ∀ n ∈ r.names, isIdentifier n = true) :
    Code.Import.Binds r.importLine boundName ↔ ∀ n ∈ r.names, isKeyword n = false := by
  have line := read?_importLine h
  constructor
  · rintro ⟨i, reads, legal, -⟩
    rw [line] at reads
    cases reads
    exact forall_mem_names_iff.mpr ⟨fun part hp => (legal.source part hp).unreserved,
      legal.name.unreserved⟩
  · intro free
    have legal : ∀ n ∈ r.names, IsLegal n := fun n hn => ⟨h n hn, free n hn⟩
    obtain ⟨parts, cls⟩ := forall_mem_names_iff.mp legal
    have bound : IsLegal boundName := ⟨by decide, by decide⟩
    exact ⟨r.imported, line, ⟨parts, cls, bound⟩, rfl⟩

end EngineRef

/-! ## Clients -/

namespace Client

variable {s : String} {r : EngineRef} (world : Surroundings) (source : Source)
  (transform : Option Transform) (location : Option String)

theorem create_eq_ok_iff (h : EngineRef.parse? s = some r) {c : Client} :
    create world source transform location (.text s) = .ok c ↔
      ∃ contract, Contract.load world source transform location = .ok contract ∧
        c = { contract, engine := r } := by
  have engine : EngineRef.ofValue (.text s) = .ok r := by rw [EngineRef.ofValue, h]
  rw [create, engine, bind_eq_ok_iff]
  constructor
  · rintro ⟨_, same, rest⟩
    cases same
    obtain ⟨contract, loaded, made⟩ := bind_eq_ok_iff.mp rest
    cases made
    exact ⟨contract, mapError_eq_ok_iff.mp loaded, rfl⟩
  · rintro ⟨contract, loaded, rfl⟩
    exact ⟨r, rfl, bind_eq_ok_iff.mpr ⟨contract, mapError_eq_ok_iff.mpr loaded, rfl⟩⟩

/-- A text that is no reference is rejected whatever the contract is, and nothing is told
of loading one. -/
theorem create_of_rejected (h : EngineRef.parse? s = none) :
    create world source transform location (.text s) =
        .error (.engine (.rejected (Text.quote s))) ∧
      createNotices world source transform location (.text s) = [] := by
  have engine : EngineRef.ofValue (.text s) = .error (.rejected (Text.quote s)) := by
    rw [EngineRef.ofValue, h]
  rw [create, createNotices, engine]
  exact ⟨rfl, rfl⟩

/-- The imports of a base file end with the import line of the engine. -/
theorem exists_baseImports (r : EngineRef) :
    ∃ front, (baseImports r).toList = front ++ '\n' :: r.importLine.toList := by
  have lines : "from pydantic import BaseModel, ConfigDict, Field\n\n" =
      "from pydantic import BaseModel, ConfigDict, Field\n" ++ "\n" := by decide
  have one : "\n".toList = ['\n'] := by decide
  delta baseImports
  rw [lines]
  simp only [String.toList_append, one, List.append_assoc, List.singleton_append]
  exact ⟨_, (List.append_assoc _ _ _).symm⟩

/-- The import line of the engine is a line of every base file. -/
theorem importLine_in_fullBaseFile {c : Client}
    (h : ∀ n ∈ c.engine.names, isIdentifier n = true) (g : Catalog) (s : Service) (on : Moment) :
    ∃ before behind, (c.fullBaseFile g s on).render.toList =
      before ++ '\n' :: (c.engine.importLine.toList ++ '\n' :: behind) := by
  obtain ⟨behind, text⟩ := c.exists_render_fullBaseFile g s on
  have untabbed : '\t' ∉ '\n' :: c.engine.importLine.toList := by
    refine List.not_mem_cons_of_ne_of_not_mem (by decide) ?_
    rw [EngineRef.importLine_eq, String.toList_intercalate]
    refine Code.not_mem_intercalate (by decide) fun l hl => ?_
    obtain ⟨w, hw, rfl⟩ := List.mem_map.mp hl
    exact EngineRef.not_mem_importWords h (by decide) (by decide) w hw
  obtain ⟨front, imports⟩ := exists_baseImports c.engine
  refine ⟨Text.detab ("\n".intercalate (banner on c.location)).toList ++
    '\n' :: '\n' :: '\n' :: Text.detab front, behind, ?_⟩
  rw [text, imports, Text.detab_append, Text.detab_of_not_mem untabbed]
  simp only [List.append_assoc, List.cons_append]

/-- A text is accepted as a reference to an engine exactly if it is made of a module and a
class with a colon between them, the parts of the module and the class being identifiers.
Then clients have this engine, and every base file has its import line.  The line is read
as the import of the class from the module under the fixed name, and it is legal exactly if
none of the names is a reserved word.  Any other text is rejected before a contract is
loaded. -/
theorem engine_references_and_imports (s : String) :
    (∀ r, EngineRef.parse? s = some r ↔
      r.render = s ∧ ∀ n ∈ r.names, isIdentifier n = true) ∧
    (∀ r, EngineRef.parse? s = some r →
      (∀ world source transform location c,
        create world source transform location (.text s) = .ok c ↔
          ∃ contract, Contract.load world source transform location = .ok contract ∧
            c = { contract, engine := r }) ∧
      (∀ (c : Client) (on : Clock) (p : Code.Project), c.engine = r → c.generate on = .ok p →
        ∀ f ∈ p.files, f.overwrite = true → ∃ before behind, f.render.toList =
          before ++ '\n' :: (r.importLine.toList ++ '\n' :: behind)) ∧
      Code.Import.read? r.importLine =
        some { source := dotted r.module, name := r.cls, bound := "InvocationEngine" } ∧
      (Code.Import.Binds r.importLine "InvocationEngine" ↔
        ∀ n ∈ r.names, isKeyword n = false)) ∧
    (EngineRef.parse? s = none → ∀ world source transform location,
      create world source transform location (.text s) =
          .error (.engine (.rejected (Text.quote s))) ∧
        createNotices world source transform location (.text s) = []) := by
  refine ⟨fun r => EngineRef.parse?_eq_some_iff, ?_, ?_⟩
  · intro r accepted
    obtain ⟨-, valid⟩ := EngineRef.parse?_eq_some_iff.mp accepted
    refine ⟨fun world source transform location c =>
      create_eq_ok_iff world source transform location accepted, ?_,
      EngineRef.read?_importLine valid, EngineRef.binds_importLine_iff valid⟩
    rintro c on p rfl generated f hf replaced
    obtain ⟨g, moment, -, -, -, -, rfl⟩ := generate_eq_ok_iff.mp generated
    obtain ⟨service, -, hf⟩ := List.mem_flatMap.mp hf
    rcases List.mem_pair.mp hf with rfl | rfl
    · exact importLine_in_fullBaseFile valid g service moment
    · cases replaced
  · intro rejected world source transform location
    exact create_of_rejected world source transform location rejected

/-! ### Witness -/

/-- A client whose engine is named by a reserved word. -/
def reservedEngine : Client :=
  { contract := { services := [{ name := "S" }] }
    engine := { module := "engines", cls := "class" } }

/-- The reference to it is accepted, and its base file has a statement that is not legal.  A
module without a class is rejected. -/
theorem imports_of_reservedEngine :
    EngineRef.parse? "engines:class" = some reservedEngine.engine ∧
      ¬ Code.Import.Binds "from engines import class as InvocationEngine" "InvocationEngine" ∧
      (∃ p, reservedEngine.generate (.ok { date := ⟨2024, 1, 2⟩ }) = .ok p ∧
        ∀ f ∈ p.files, f.overwrite = true → ∃ before behind, f.render.toList =
          before ++ '\n' ::
            ("from engines import class as InvocationEngine".toList ++ '\n' :: behind)) ∧
      EngineRef.parse? "engines" = none ∧
      ∀ world source transform location,
        create world source transform location (.text "engines") =
          .error (.engine (.rejected (Text.quote "engines"))) := by
  have accepted : EngineRef.parse? "engines:class" = some reservedEngine.engine := by
    decide +kernel
  have refused : EngineRef.parse? "engines" = none := by decide +kernel
  have line : reservedEngine.engine.importLine =
      "from engines import class as InvocationEngine" := by decide +kernel
  obtain ⟨-, used, -⟩ := engine_references_and_imports "engines:class"
  obtain ⟨-, files, -, legal⟩ := used _ accepted
  obtain ⟨-, -, rejected⟩ := engine_references_and_imports "engines"
  rw [line] at files legal
  refine ⟨accepted, ?_, ?_, refused,
    fun world source transform location => (rejected refused world source transform location).1⟩
  · rw [legal]
    decide +kernel
  · have generated : (reservedEngine.generate (.ok { date := ⟨2024, 1, 2⟩ })).isOk = true := by
      decide +kernel
    cases made : reservedEngine.generate (.ok { date := ⟨2024, 1, 2⟩ }) with
    | error fault => rw [made] at generated; cases generated
    | ok p => exact ⟨p, rfl, files reservedEngine _ p rfl made⟩

end Client

end ContractClient
