import ContractClient.Proofs.Catalog.Lineage

/-!
# Accessors and the fields they reach

The accessors of a renamed field go through the table of the class, by the raw name of
the field.  A subclass has a table of its own, which covers the fields of its lineage,
and of two fields with one raw name the last counts.

The name of a field follows from its raw name, whatever the class, as long as the raw
name has identifier characters.  Then fields of one raw name have one name, and the
table leads to it (`name_eq_of_rawName_eq`).  A field without identifier characters is
named by its position.  Two of them with one raw name, in one class or along a lineage,
may have different names, and the accessors of both reach the last one
(`accessors_of_model`).
-/

namespace ContractClient

/-! ## Names of fields -/

namespace Field

variable {classNames : List String} {e : Entry}

/-- An entry wants a name exactly if its raw name has identifier characters. -/
theorem wantedName_eq_empty_iff (h : "" ∉ classNames) :
    wantedName classNames e = "" ↔ Identifier.fieldName e.name = "" := by
  rw [wantedName]
  split
  next taken =>
    constructor
    · intro empty
      exact absurd (congrArg String.toList empty) (by simp)
    · intro empty
      rw [empty] at taken
      exact absurd (by simpa using taken) h
  next => exact Iff.rfl

/-- A field that has no name of its own is named by its position. -/
theorem name_of_unnamed (h : "" ∉ classNames) (unnamed : Identifier.fieldName e.name = "")
    (position : Nat) : (ofEntry classNames position e).name = positionalName position :=
  if_pos ((wantedName_eq_empty_iff h).mpr unnamed)

theorem name_of_named (h : "" ∉ classNames) (named : Identifier.fieldName e.name ≠ "")
    (position : Nat) : (ofEntry classNames position e).name = wantedName classNames e :=
  if_neg fun empty => named ((wantedName_eq_empty_iff h).mp empty)

end Field

namespace Catalog

variable {g : Catalog} {decls : List ClassDecl} {n a : Model} {f : Field}

theorem exists_entry_of_mem_fields (h : build decls = .ok g) (hn : n ∈ g.models)
    (hf : f ∈ n.fields) :
    ∃ position e, n.fields[position]? = some f ∧
      f = Field.ofEntry (classNames decls) position e := by
  obtain ⟨d, -, -, rfl⟩ := mem_registered ((models_perm_of_build h).mem_iff.mp hn)
  obtain ⟨position, within, rfl⟩ := List.mem_mapIdx.mp hf
  refine ⟨position, d.entries[position], ?_, rfl⟩
  show (d.entries.mapIdx _)[position]? = _
  rw [List.getElem?_mapIdx, List.getElem?_eq_getElem within]
  rfl

/-- Fields of one raw name have one name, if the raw name has identifier characters. -/
theorem name_eq_of_rawName_eq (h : build decls = .ok g) (hn : n ∈ g.models) (hf : f ∈ n.fields)
    (ha : a ∈ g.models) {f' : Field} (hf' : f' ∈ a.fields) (same : f'.rawName = f.rawName)
    (named : Identifier.fieldName f.rawName ≠ "") : f'.name = f.name := by
  have classes := empty_not_mem_classNames decls
  obtain ⟨position, e, -, rfl⟩ := exists_entry_of_mem_fields h hn hf
  obtain ⟨position', e', -, rfl⟩ := exists_entry_of_mem_fields h ha hf'
  have raw : e'.name = e.name := same
  rw [Field.name_of_named classes named, Field.name_of_named classes (raw ▸ named),
    Field.wantedName, Field.wantedName, raw]

/-- A field without identifier characters has the name of its position. -/
theorem name_of_unnamed_field (h : build decls = .ok g) (hn : n ∈ g.models) (hf : f ∈ n.fields)
    (unnamed : Identifier.fieldName f.rawName = "") :
    ∃ position, n.fields[position]? = some f ∧ f.name = Field.positionalName position := by
  obtain ⟨position, e, placed, rfl⟩ := exists_entry_of_mem_fields h hn hf
  exact ⟨position, placed, Field.name_of_unnamed (empty_not_mem_classNames decls) unnamed position⟩

/-! ## Tables -/

/-- The renamed fields of a model and its bases, root first. -/
def renamedFields (g : Catalog) (n : Model) : List Field := (g.lineage n).flatMap Model.renamed

theorem mem_renamedFields_iff (h : build decls = .ok g) (hn : n ∈ g.models) :
    f ∈ g.renamedFields n ↔ ∃ a, g.Inherits n a ∧ f ∈ a.renamed := by
  rw [renamedFields, List.mem_flatMap]
  simp only [mem_lineage_iff h hn]

/-- The table leads from a raw name to the last renamed field that has it. -/
theorem get?_renames_of_last {front back : List Field} {last : Field}
    (split : g.renamedFields n = front ++ last :: back)
    (others : ∀ f ∈ back, f.rawName ≠ last.rawName) :
    (g.renames n).get? last.rawName = some last.name := by
  rw [renames, Entries.get?_ofPairs, ← List.map_reverse, List.find?_map, ← renamedFields, split,
    List.reverse_append, List.reverse_cons, List.append_assoc, List.find?_append]
  have none : back.reverse.find? ((fun p => decide (p.1 = last.rawName)) ∘
      fun f : Field => (f.rawName, f.name)) = none := by
    rw [List.find?_eq_none]
    intro f hf
    simpa using others f (List.mem_reverse.mp hf)
  rw [none, Option.none_or]
  simp

/-- Among fields with a raw name there is a last one. -/
theorem exists_last {fields : List Field} (hf : f ∈ fields) :
    ∃ front last back, fields = front ++ last :: back ∧ last.rawName = f.rawName ∧
      ∀ f' ∈ back, f'.rawName ≠ f.rawName := by
  -- It is the first one from behind.
  have found : (fields.reverse.find? fun f' => f'.rawName = f.rawName).isSome :=
    List.find?_isSome.mpr ⟨f, List.mem_reverse.mpr hf, decide_eq_true rfl⟩
  obtain ⟨last, hlast⟩ := Option.isSome_iff_exists.mp found
  obtain ⟨same, back, front, split, others⟩ := List.find?_eq_some_iff_append.mp hlast
  refine ⟨front.reverse, last, back.reverse, ?_, of_decide_eq_true same, ?_⟩
  · rw [← List.reverse_reverse fields, split, List.reverse_append, List.reverse_cons,
      List.append_assoc]
    rfl
  · intro f' hf'
    simpa using others f' (List.mem_reverse.mp hf')

/-! ## Accessors -/

theorem positionalName_inj {i j : Nat} :
    Field.positionalName i = Field.positionalName j ↔ i = j := by
  refine ⟨fun same => ?_, fun same => same ▸ rfl⟩
  rw [Field.positionalName, Field.positionalName, String.append_right_inj,
    Nat.toString_eq_repr, Nat.toString_eq_repr, ← String.toList_inj, Nat.toList_repr,
    Nat.toList_repr] at same
  calc
    i = Nat.ofDigitChars 10 (Nat.toDigits 10 i) 0 := Nat.ofDigitChars_ten_toDigits.symm
    _ = Nat.ofDigitChars 10 (Nat.toDigits 10 j) 0 := by rw [same]
    _ = j := Nat.ofDigitChars_ten_toDigits

theorem keys_functions_modelClass (g : Catalog) (n : Model) :
    (g.modelClass n).functions.keys =
      distinct (n.renamed.flatMap fun f => ["get_" ++ f.name, "set_" ++ f.name]) := by
  rw [modelClass, Entries.keys_ofPairs, accessors, List.map_map, List.map_flatMap]
  rfl

theorem exists_accessor {p : String × Code.Function} (hp : p ∈ (g.modelClass n).functions) :
    ∃ f ∈ n.renamed, p = ("get_" ++ f.name, g.getter f) ∨ p = ("set_" ++ f.name, g.setter f) := by
  obtain ⟨made, hmade, rfl⟩ := List.mem_map.mp (Entries.mem_of_mem_ofPairs hp)
  obtain ⟨f, hf, either⟩ := List.mem_flatMap.mp hmade
  refine ⟨f, hf, ?_⟩
  rcases List.mem_pair.mp either with rfl | rfl
  · exact .inl rfl
  · exact .inr rfl

theorem code_of_mem_functions {p : String × Code.Function}
    (hp : p ∈ (g.modelClass n).functions) :
    ∃ f ∈ n.renamed,
      (p.1 = "get_" ++ f.name ∧
        p.2.code.code =
          "return getattr(self, self._parameter_map[" ++ Text.quote f.rawName ++ "])") ∨
      (p.1 = "set_" ++ f.name ∧
        p.2.code.code =
          "setattr(self, self._parameter_map[" ++ Text.quote f.rawName ++ "], value)") := by
  obtain ⟨f, hf, rfl | rfl⟩ := exists_accessor hp
  · refine ⟨f, hf, .inl ⟨rfl, String.toList_inj.mp ?_⟩⟩
    simp [getter, tableAccess, tableName]
  · refine ⟨f, hf, .inr ⟨rfl, String.toList_inj.mp ?_⟩⟩
    simp [setter, tableAccess, tableName]

/-- A class has a getter and a setter per name of a renamed field, and these go through
the table by raw name.  On the class and on its subclasses the table leads from a raw
name to the name of the last renamed field of the lineage that has it.  This is the name
of every such field, if the raw name has identifier characters.  Otherwise the fields
are named by position, and only those at the position of the last one are reached. -/
theorem accessors_of_model (h : build decls = .ok g) (hn : n ∈ g.models)
    (inherits : g.Inherits n a) :
    (∀ f ∈ a.renamed, ∃ front last back,
      g.renamedFields n = front ++ last :: back ∧ last.rawName = f.rawName ∧
      (∀ f' ∈ back, f'.rawName ≠ f.rawName) ∧
      (g.renames n).get? f.rawName = some last.name ∧
      (Identifier.fieldName f.rawName ≠ "" → last.name = f.name) ∧
      (Identifier.fieldName f.rawName = "" → ∃ b i j, g.Inherits n b ∧
        b.fields[i]? = some last ∧ last.name = Field.positionalName i ∧
        a.fields[j]? = some f ∧ f.name = Field.positionalName j ∧
        (last.name = f.name ↔ i = j))) ∧
    (g.modelClass a).functions.keys =
      distinct (a.renamed.flatMap fun f => ["get_" ++ f.name, "set_" ++ f.name]) ∧
    ∀ p ∈ (g.modelClass a).functions, ∃ f ∈ a.renamed,
      (p.1 = "get_" ++ f.name ∧
        p.2.code.code =
          "return getattr(self, self._parameter_map[" ++ Text.quote f.rawName ++ "])") ∨
      (p.1 = "set_" ++ f.name ∧
        p.2.code.code =
          "setattr(self, self._parameter_map[" ++ Text.quote f.rawName ++ "], value)") := by
  refine ⟨?_, keys_functions_modelClass g a, fun p hp => code_of_mem_functions hp⟩
  intro f hf
  have ha := mem_models_of_inherits h hn inherits
  obtain ⟨front, last, back, split, same, others⟩ :=
    exists_last ((mem_renamedFields_iff h hn).mpr ⟨a, inherits, hf⟩)
  have declared : last ∈ g.renamedFields n :=
    split ▸ List.mem_append_right front List.mem_cons_self
  obtain ⟨b, above, hlast⟩ := (mem_renamedFields_iff h hn).mp declared
  have hb := mem_models_of_inherits h hn above
  have hfield := (List.mem_filter.mp hf).1
  have hlastField := (List.mem_filter.mp hlast).1
  have leads : (g.renames n).get? f.rawName = some last.name :=
    same ▸ get?_renames_of_last split (same ▸ others)
  refine ⟨front, last, back, split, same, others, leads,
    name_eq_of_rawName_eq h ha hfield hb hlastField same, fun unnamed => ?_⟩
  obtain ⟨i, atLast, lastName⟩ := name_of_unnamed_field h hb hlastField (same ▸ unnamed)
  obtain ⟨j, atField, fieldName⟩ := name_of_unnamed_field h ha hfield unnamed
  refine ⟨b, i, j, above, atLast, lastName, atField, fieldName, ?_⟩
  rw [lastName, fieldName, positionalName_inj]

/-! ### Witness -/

/-- A class with two entries of one raw name, which has no identifier characters. -/
def signClasses : List ClassDecl :=
  [{ name := "Sign", entries := [{ name := "!", type := "int" }, { name := "!", type := "string" },
     { name := "is-set", type := "bool" }] },
   { name := "Neon", base := some "Sign" }]

/-- On the subclass the accessors of the first field reach the second one, and those of
the named field reach it. -/
theorem accessors_of_sign :
    ∃ g sign neon first named, build signClasses = .ok g ∧ neon ∈ g.models ∧
      g.Inherits neon sign ∧ first ∈ sign.renamed ∧ first.rawName = "!" ∧
      first.name = "field0" ∧ (g.renames neon).get? "!" = some "field1" ∧
      named ∈ sign.renamed ∧ named.rawName = "is-set" ∧
      (g.renames neon).get? "is-set" = some named.name := by
  have facts : (build signClasses).toOption.any (fun g =>
      g.models.any fun sign => g.models.any fun neon => decide (g.parent? neon = some sign ∧
        sign.renamed.map (fun f => (f.rawName, f.name)) =
          [("!", "field0"), ("!", "field1"), ("is-set", "isset")] ∧
        (g.renames neon).get? "!" = some "field1")) = true := by decide +kernel
  cases built : build signClasses with
  | error names => rw [built] at facts; cases facts
  | ok g =>
      rw [built, Except.toOption, Option.any_some, List.any_eq_true] at facts
      obtain ⟨sign, -, facts⟩ := facts
      obtain ⟨neon, hneon, facts⟩ := List.any_eq_true.mp facts
      obtain ⟨parent, fields, leads⟩ := of_decide_eq_true facts
      have inherits : g.Inherits neon sign := .single parent
      have exists_of_mem : ∀ p ∈ sign.renamed.map (fun f => (f.rawName, f.name)),
          ∃ f ∈ sign.renamed, f.rawName = p.1 ∧ f.name = p.2 := by
        intro p hp
        obtain ⟨f, hf, rfl⟩ := List.mem_map.mp hp
        exact ⟨f, hf, rfl, rfl⟩
      rw [fields] at exists_of_mem
      obtain ⟨first, hfirst, raw, name⟩ := exists_of_mem ("!", "field0") (by decide)
      obtain ⟨named, hnamed, raw', -⟩ := exists_of_mem ("is-set", "isset") (by decide)
      obtain ⟨front, last, back, -, -, -, found, reached, -⟩ :=
        (accessors_of_model built hneon inherits).1 named hnamed
      refine ⟨g, sign, neon, first, named, rfl, hneon, inherits, hfirst, raw, name, leads, hnamed,
        raw', ?_⟩
      rw [raw'] at found reached
      rw [found, reached (by decide +kernel)]

end Catalog

end ContractClient
