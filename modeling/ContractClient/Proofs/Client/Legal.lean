import ContractClient.Proofs.Catalog.Order
import ContractClient.Proofs.Client.Names

/-!
# Every generated name is legal

The names that a contract brings into generated code, whatever texts it is written
with: of model classes, of their fields, of parameters and results, of methods and of
clients.  Each comes out of one of the roles, or is a name that was chosen for a
client and accepted (`generated_names_are_legal`).
-/

namespace ContractClient

open Identifier

seal className

/-! ## Models -/

namespace Catalog

variable {decls : List ClassDecl} {g : Catalog}

theorem isClassName_of_mem_names (h : build decls = .ok g) {name : String}
    (hname : name ∈ g.names) : IsClassName name := by
  obtain ⟨n, hn, rfl⟩ := List.mem_map.mp hname
  obtain ⟨d, -, named, rfl⟩ := mem_registered ((models_perm_of_build h).mem_iff.mp hn)
  exact isClassName_className named

theorem isFieldName_of_mem_fields (h : build decls = .ok g) {n : Model} (hn : n ∈ g.models)
    {f : Field} (hf : f ∈ n.fields) : IsFieldName f.name := by
  obtain ⟨d, -, -, rfl⟩ := mem_registered ((models_perm_of_build h).mem_iff.mp hn)
  exact Field.isFieldName_of_mem_ofEntries (empty_not_mem_classNames decls) hf

theorem isFieldName_of_mem_entries {d : ServiceDecl} {s : Service} (h : g.service? d = some s)
    {o : Operation} (ho : o ∈ s.operations) {f : Field} (hf : f ∈ o.entries) :
    IsFieldName f.name := by
  obtain ⟨entries, hf⟩ := mem_ofEntries_of_mem_entries h ho hf
  exact Field.isFieldName_of_mem_ofEntries List.not_mem_nil hf

end Catalog

/-! ## Clients -/

namespace Client

/-- Every name in the code generated for a contract is an identifier and no reserved
word.  No class has a name that the generated modules use themselves.  No field,
parameter, result or method has an underscore in front or a name that is reserved for
its role.  This holds of the names of clients too, and of the names of their base
classes. -/
theorem generated_names_are_legal {c : Client} (reached : Reached c) {g : Catalog}
    (built : Catalog.build c.contract.classes = .ok g) :
    (∀ name ∈ g.names, IsClassName name) ∧
    (∀ n ∈ g.models, ∀ f ∈ n.fields, IsFieldName f.name) ∧
    ∀ s ∈ g.services c.contract.services,
      (∀ o ∈ s.operations, ∀ f ∈ o.entries, IsFieldName f.name) ∧
      (∀ group ∈ s.groups, IsOperationName group.name) ∧
      IsLegal (c.clientName s) ∧ IsLegal (c.clientName s ++ "Base") := by
  refine ⟨fun name => Catalog.isClassName_of_mem_names built,
    fun n hn f => Catalog.isFieldName_of_mem_fields built hn, ?_⟩
  intro s hs
  obtain ⟨d, -, made⟩ := Catalog.mem_services hs
  have legal := isLegal_clientName reached hs
  refine ⟨fun o ho f => Catalog.isFieldName_of_mem_entries made ho,
    fun group => Catalog.isOperationName_of_mem_groups made, legal, ?_⟩
  exact isLegal_append legal.identifier (by decide)

/-- A client of a contract whose names are reserved words, names that the generated
code uses itself, and texts without identifier characters. -/
def reservedWords : Client :=
  { contract :=
      { classes := [{ name := "tns:class", entries := [{ name := "__" }, { name := "_copy" }] },
          { name := "List", entries := [{ name := "1import" }, { name := "tns_class_" }] }]
        services := [{ name := "None", functions := [{ name := "__self" }] }] }
    engine := { module := "engines", cls := "Engine" }
    aliases := [("None", "_")] }

theorem reached_reservedWords : Reached reservedWords :=
  .rename (.fresh reservedWords.contract reservedWords.engine)
    (if_pos (by decide +kernel) : _ = some reservedWords)

/-- The names of that contract in generated code. -/
theorem legal_names_of_reservedWords :
    ∃ g, Catalog.build reservedWords.contract.classes = .ok g ∧
      g.names = ["tns_class_", "List_"] ∧
      (∀ name ∈ ["tns_class_", "List_"], IsClassName name) ∧
      (g.models.flatMap Model.fields).map Field.name =
        ["field0", "copy_field", "import_", "tns_class__field"] ∧
      (∀ n ∈ g.models, ∀ f ∈ n.fields, IsFieldName f.name) ∧
      ∀ s ∈ g.services reservedWords.contract.services,
        (∀ group ∈ s.groups, IsOperationName group.name) ∧
        IsLegal (reservedWords.clientName s) ∧ IsLegal (reservedWords.clientName s ++ "Base") := by
  have names : (Catalog.build reservedWords.contract.classes).toOption.map (fun g =>
      (g.names, (g.models.flatMap Model.fields).map Field.name)) =
      some (["tns_class_", "List_"],
        ["field0", "copy_field", "import_", "tns_class__field"]) := by decide +kernel
  cases built : Catalog.build reservedWords.contract.classes with
  | error unrooted => rw [built] at names; cases names
  | ok g =>
      rw [built] at names
      simp only [Except.toOption, Option.map_some, Option.some.injEq, Prod.mk.injEq] at names
      obtain ⟨classes, fields, services⟩ :=
        generated_names_are_legal reached_reservedWords built
      rw [names.1] at classes
      exact ⟨g, rfl, names.1, classes, names.2, fields, fun s hs => (services s hs).2⟩

end Client

end ContractClient
