import ContractClient.Proofs.Catalog.Accessors

/-!
# Fields named like classes

In the body of a class the name of a field hides a class of the same name.  So a field that
would be named like a class gets another ending, and a field without identifier characters is
named by its position.  Neither name is compared with the classes again.

A field has the name of a class exactly if the longer name or the name of the position is
taken by a class, too (`field_named_like_class_iff`).  No field has, if no class has such a
name.
-/

namespace ContractClient.Catalog

-- How identifiers are found plays no part here.
seal Identifier.className Identifier.fieldName

variable {g : Catalog} {decls : List ClassDecl} {n : Model} {f : Field}

/-- The names of a catalog are the identifiers of the classes. -/
theorem mem_names_iff_of_build (h : build decls = .ok g) {name : String} :
    name ∈ g.names ↔ name ∈ classNames decls := by
  rw [names, ((models_perm_of_build h).map Model.name).mem_iff, registered_names, mem_distinct]

theorem exists_entry_of_getElem? (h : build decls = .ok g) (hn : n ∈ g.models) {position : Nat}
    (hf : n.fields[position]? = some f) :
    ∃ e, f = Field.ofEntry (classNames decls) position e := by
  obtain ⟨d, -, -, rfl⟩ := mem_registered ((models_perm_of_build h).mem_iff.mp hn)
  have listed : (d.entries.mapIdx (Field.ofEntry (classNames decls)))[position]? = some f := hf
  rw [List.getElem?_mapIdx] at listed
  obtain ⟨e, -, rfl⟩ := Option.map_eq_some_iff.mp listed
  exact ⟨e, rfl⟩

/-- A named field has the name of a class only if it was renamed in vain. -/
theorem name_of_named_mem_iff {names : List String} {e : Entry} (h : "" ∉ names)
    (named : Identifier.fieldName e.name ≠ "") (position : Nat) :
    (Field.ofEntry names position e).name ∈ names ↔
      Identifier.fieldName e.name ∈ names ∧ Identifier.fieldName e.name ++ "_field" ∈ names := by
  rw [Field.name_of_named h named, Field.wantedName]
  by_cases taken : Identifier.fieldName e.name ∈ names
  · simp [taken]
  · simp [taken]

theorem name_mem_names_iff (h : build decls = .ok g) (hn : n ∈ g.models) {position : Nat}
    (hf : n.fields[position]? = some f) :
    f.name ∈ g.names ↔
      Identifier.fieldName f.rawName ∈ g.names ∧
          Identifier.fieldName f.rawName ++ "_field" ∈ g.names ∨
        Identifier.fieldName f.rawName = "" ∧ Field.positionalName position ∈ g.names := by
  have noEmpty := empty_not_mem_classNames decls
  obtain ⟨e, rfl⟩ := exists_entry_of_getElem? h hn hf
  have raw : (Field.ofEntry (classNames decls) position e).rawName = e.name := rfl
  simp only [mem_names_iff_of_build h, raw]
  by_cases unnamed : Identifier.fieldName e.name = ""
  · rw [Field.name_of_unnamed noEmpty unnamed, unnamed]
    simp [noEmpty]
  · rw [name_of_named_mem_iff noEmpty unnamed]
    simp [unnamed]

/-- A field has the name of a class exactly if it was to have the name of one and the longer
name is that of another, or if it is named by its position and a class has that name.  So no
field has the name of a class if no class is called by the longer name of another, and none
by a position. -/
theorem field_named_like_class_iff {decls : List ClassDecl} {g : Catalog}
    (h : build decls = .ok g) :
    (∀ n ∈ g.models, ∀ position f, n.fields[position]? = some f →
      (f.name ∈ g.names ↔
        Identifier.fieldName f.rawName ∈ g.names ∧
            Identifier.fieldName f.rawName ++ "_field" ∈ g.names ∨
          Identifier.fieldName f.rawName = "" ∧ Field.positionalName position ∈ g.names)) ∧
    ((∀ name ∈ g.names, name ++ "_field" ∉ g.names) →
      (∀ position, Field.positionalName position ∉ g.names) →
        ∀ n ∈ g.models, ∀ f ∈ n.fields, f.name ∉ g.names) := by
  refine ⟨fun n hn position f hf => name_mem_names_iff h hn hf, ?_⟩
  intro noLonger noPosition n hn f hf taken
  obtain ⟨position, placed⟩ := List.mem_iff_getElem?.mp hf
  rcases (name_mem_names_iff h hn placed).mp taken with ⟨short, long⟩ | ⟨-, positional⟩
  · exact noLonger _ short long
  · exact noPosition position positional

/-! ### Witness -/

/-- Classes with the names that fields of the last one are given. -/
def weekClasses : List ClassDecl :=
  [{ name := "Day" }, { name := "Day_field" }, { name := "field1" },
   { name := "Week", entries := [{ name := "Day", type := "Day" }, { name := "--" }] }]

/-- Both fields of the last class have the name of a class: one with the longer name, and one
with the name of its position. -/
theorem fields_of_week_named_like_classes :
    ∃ g week day dash, build weekClasses = .ok g ∧ week ∈ g.models ∧
      week.fields = [day, dash] ∧ day.rawName = "Day" ∧ dash.rawName = "--" ∧
      day.name ∈ g.names ∧ dash.name ∈ g.names := by
  have facts : (build weekClasses).toOption.any (fun g => g.models.any fun week => decide
      (week.fields.map Field.rawName = ["Day", "--"] ∧
        g.names = ["Day", "Day_field", "field1", "Week"])) = true := by
    decide +kernel
  have named : Identifier.fieldName "Day" = "Day" ∧ Identifier.fieldName "--" = "" := by
    decide +kernel
  cases built : build weekClasses with
  | error names => rw [built] at facts; cases facts
  | ok g =>
      rw [built, Except.toOption, Option.any_some, List.any_eq_true] at facts
      obtain ⟨week, hweek, facts⟩ := facts
      obtain ⟨fields, names⟩ := of_decide_eq_true facts
      obtain ⟨day, rest, fields, dayRaw, fields'⟩ := List.map_eq_cons_iff.mp fields
      obtain ⟨dash, rest', rfl, dashRaw, none⟩ := List.map_eq_cons_iff.mp fields'
      rw [List.map_eq_nil_iff] at none
      subst none
      have shadows := (field_named_like_class_iff built).1 week hweek
      refine ⟨g, week, day, dash, rfl, hweek, fields, dayRaw, dashRaw, ?_, ?_⟩
      · rw [shadows 0 day (by simp [fields]), dayRaw, named.1, names]
        simp
      · rw [shadows 1 dash (by simp [fields]), dashRaw, named.2, names]
        exact .inr ⟨rfl, by decide⟩

end ContractClient.Catalog
