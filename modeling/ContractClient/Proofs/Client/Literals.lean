import ContractClient.Proofs.Catalog.Accessors
import ContractClient.Proofs.Client.Modules
import ContractClient.Proofs.Client.Readers
import ContractClient.Proofs.Code.Pieces
import ContractClient.Proofs.Service.ClassMap

/-!
# Strings of a contract survive

A base file is made of pieces, and each string of the contract that the code needs stands
in one of them as a literal.  The readers find it there: the tables of the model classes and
the class map in the blocks, the aliases in the fields, the remote names in the bodies and
the address in a signature.  They find nothing else, and they find it in order
(`literals_of_base_files`).

The strings are arbitrary.  Quotes, backslashes, tabs and breaks of any kind are escaped
where they stand, so neither the indentation nor the replacement of tabs touches them.
-/

namespace ContractClient

open Code Text

seal Client.readTable Client.readField Client.readCall Client.readLocation

/-! ## Reading classes -/

namespace Client

/-- The table that a block of a class declares. -/
def tableIn? (b : Block) : Option (String × Entries String) :=
  readTable (Text.detab (Text.indent b.render.toList))

/-- The call that the body of a method makes. -/
def callIn? (k : Function) : Option (String × String) :=
  readCall (Text.detab (Text.indent (Text.indent k.code.render.toList)))

/-- The default address in the signature of a method. -/
def locationIn? (k : Function) : Option String :=
  readLocation (Text.detab (Text.indent (k.signature ++ ":").toList))

theorem tableIn?_eq_comp :
    (readTable ∘ Text.detab) ∘ (fun b : Block => Text.indent b.render.toList) = tableIn? := rfl

theorem callIn?_eq_comp :
    (readCall ∘ Text.detab) ∘ (fun k : Function => Text.indent (Text.indent k.code.render.toList)) =
      callIn? := rfl

theorem locationIn?_eq_comp :
    (readLocation ∘ Text.detab) ∘ (fun k : Function => Text.indent (k.signature ++ ":").toList) =
      locationIn? := rfl

theorem toList_render_block (b : Block) : b.render.toList = Text.detab b.code.toList :=
  String.toList_ofList

theorem tableIn?_eq_none {b : Block} (h : ':' ∉ b.code.toList) : tableIn? b = none := by
  refine readTable_eq_none fun there => h ?_
  rw [toList_render_block] at there
  have indented := (mem_of_mem_detab there).resolve_left (by decide)
  have rendered := (mem_of_mem_indent indented).resolve_left (by decide)
  exact (mem_of_mem_detab rendered).resolve_left (by decide)

theorem callIn?_eq_none {k : Function} {front rest : String} (text : k.code.code = front ++ rest)
    (line : isLine front.toList = true) (first : front.toList.head? ≠ some ' ')
    (short : front.toList.length ≤ "return self._engine.call(".toList.length)
    (other : front.toList.isPrefixOf "return self._engine.call(".toList = false) :
    callIn? k = none := by
  have plain := isPlain_of_isLine line
  have opens : Opens front.toList k.code.render.toList := by
    rw [toList_render_block, text, String.toList_append]
    exact (Opens.append _ _).detab plain
  exact readCall_eq_none (((opens.indent line).indent line).detab plain) (ne_nil_of_isLine line)
    first short other

theorem locationIn?_eq_none {k : Function} (word : k.name.toList.all isTypeChar = true)
    (other : k.name ≠ "__init__") : locationIn? k = none := by
  have line : isLine ("def " ++ k.name ++ "(").toList = true := by
    rw [String.toList_append, String.toList_append]
    exact isLine_append (isLine_append (by decide) (isPlain_of_isTypeChar word)) (by decide)
  have paren : '(' ∉ k.name.toList := by
    intro there
    exact absurd (List.all_eq_true.mp word _ there) (by decide)
  obtain ⟨more, text⟩ : ∃ more, k.signature ++ ":" = "def " ++ k.name ++ "(" ++ more :=
    ⟨_, by rw [Function.signature, String.append_assoc, String.append_assoc, String.append_assoc]⟩
  have opens : Opens ("def " ++ k.name ++ "(").toList (k.signature ++ ":").toList := by
    rw [text, String.toList_append (s := "def " ++ k.name ++ "(")]
    exact Opens.append _ _
  exact readLocation_eq_none ((opens.indent line).detab (isPlain_of_isLine line)) paren other

/-- Members of order zero come behind those of larger orders. -/
theorem pairwise_append_zeros {own others : List Int}
    (h : (own ++ [0]).Pairwise fun i j => j ≤ i) (zero : ∀ j ∈ others, j = 0) :
    (own ++ others).Pairwise fun i j => j ≤ i := by
  obtain ⟨sorted, -, above⟩ := List.pairwise_append.mp h
  refine List.pairwise_append.mpr ⟨sorted, ?_, ?_⟩
  · refine List.pairwise_of_forall_mem_list fun i hi j hj => ?_
    rw [zero i hi, zero j hj]
  · intro i hi j hj
    rw [zero j hj]
    exact above i hi 0 (List.mem_singleton_self 0)

end Client

/-! ## Model classes -/

namespace Catalog

variable {g : Catalog} {decls : List ClassDecl} {n : Model}

theorem render_single (s : String) : (Expr.single s).render = s := by
  rw [Expr.single, Expr.render, Expr.renderAll, Expr.renderAll, Expr.render,
    String.intercalate_singleton]

theorem isTypeChar_wrapped {name : String} {e : Expr}
    (hname : name.toList.all Client.isTypeChar = true)
    (h : e.render.toList.all Client.isTypeChar = true) :
    (Expr.wrapped name e).render.toList.all Client.isTypeChar = true := by
  rw [Expr.wrapped, Expr.render, Expr.renderAll, Expr.renderAll, String.intercalate_singleton]
  split
  · decide
  · simp only [String.toList_append, List.all_append, hname, h]
    decide

theorem isTypeChar_of_isIdentifier {name : String} (h : Identifier.isIdentifier name = true) :
    name.toList.all Client.isTypeChar = true := by
  rw [List.all_eq_true]
  intro c hc
  rw [Client.isTypeChar, Identifier.mem_of_isIdentifierChars h c hc, Bool.true_or]

/-- The annotation of a field is made of names, brackets and quotation marks. -/
theorem isTypeChar_fieldAnnotation (h : build decls = .ok g) (f : Field) :
    (g.fieldAnnotation f).render.toList.all Client.isTypeChar = true := by
  have arrayed : ∀ inner : String, inner.toList.all Client.isTypeChar = true →
      (if f.type.isArray then Expr.wrapped "List" (.single inner) else .single
        inner).render.toList.all Client.isTypeChar = true := by
    intro inner typed
    split
    · exact isTypeChar_wrapped (by decide) (render_single inner ▸ typed)
    · exact render_single inner ▸ typed
  refine isTypeChar_wrapped (by decide) (arrayed _ ?_)
  split
  next k _ => cases k <;> decide
  next =>
    split
    next m found =>
      have word := isTypeChar_of_isIdentifier
        (isClassName_of_mem_names h (List.mem_map_of_mem (mem_models_of_find? h found))).identifier
      rw [if_pos rfl]
      simp only [String.toList_append, List.all_append, word]
      decide
    next => decide

/-- What a field says of its alias. -/
def aliasOf (f : Field) : String × Option String :=
  (f.name, if f.isRenamed then some f.rawName else none)

theorem readField_fieldParameter (h : build decls = .ok g) (hn : n ∈ g.models) {f : Field}
    (hf : f ∈ n.fields) :
    Client.readField (Text.detab (Text.indent (g.fieldParameter f).render.toList)) = aliasOf f := by
  have identifier := (isFieldName_of_mem_fields h hn hf).identifier
  have front : Client.IsFieldFront f.name (g.fieldAnnotation f).render := {
    word := List.all_eq_true.mpr (Identifier.mem_of_isIdentifierChars identifier)
    nonempty := by
      intro empty
      rw [Identifier.isIdentifier, empty] at identifier
      cases identifier
    typed := isTypeChar_fieldAnnotation h f }
  have text : (g.fieldParameter f).render.toList =
      f.name.toList ++ (": ".toList ++ ((g.fieldAnnotation f).render.toList ++ (" = ".toList ++
        (if f.isRenamed then "Field(default=None, alias=" ++ quote f.rawName ++ ")"
          else "None").toList))) := by
    rw [Parameter.render, fieldParameter]
    simp only [render_single, String.toList_append, List.append_assoc]
  rw [text, aliasOf]
  split
  · exact front.readField_alias f.rawName
  · exact front.readField_none

/-- A function of a model class is the getter or the setter of a renamed field. -/
theorem accessor_of_mem_values {k : Function} (h : k ∈ (g.modelClass n).functions.values) :
    ∃ f ∈ n.renamed, k = g.getter f ∨ k = g.setter f := by
  obtain ⟨p, hp, rfl⟩ := List.mem_map.mp h
  obtain ⟨f, hf, rfl | rfl⟩ := exists_accessor hp
  · exact ⟨f, hf, .inl rfl⟩
  · exact ⟨f, hf, .inr rfl⟩

theorem order_of_mem_values {k : Function} (h : k ∈ (g.modelClass n).functions.values) :
    k.order = 0 := by
  obtain ⟨f, -, rfl | rfl⟩ := accessor_of_mem_values h <;> rfl

theorem isSorted_modelClass (g : Catalog) (n : Model) (order : Int) :
    Class.IsSorted { g.modelClass n with order } where
  fields := by
    refine List.pairwise_map.mpr (List.pairwise_of_forall_mem_list fun p _ q _ => ?_)
    exact Int.le_refl 0
  members := by
    have accessors : ∀ i ∈ (g.modelClass n).functions.values.map Function.order, i = 0 := by
      intro i hi
      obtain ⟨k, hk, rfl⟩ := List.mem_map.mp hi
      exact order_of_mem_values hk
    have blocks : (g.modelClass n).blocks.map Block.order = [] ∨
        (g.modelClass n).blocks.map Block.order = [20, 10] := by
      rw [modelClass]
      split
      · exact .inl rfl
      · exact .inr rfl
    rcases blocks with none | two
    · exact none ▸ Client.pairwise_append_zeros (by decide) accessors
    · exact two ▸ Client.pairwise_append_zeros (by decide) accessors

/-! ### What is read -/

/-- A class with renamed fields has one table. -/
theorem tables_modelClass (g : Catalog) (n : Model) :
    (g.modelClass n).blocks.filterMap Client.tableIn? =
      if n.renamed.isEmpty then [] else [(tableName, g.renames n)] := by
  have config : Client.tableIn?
      { code := "model_config = ConfigDict(populate_by_name=True)", order := 20 } = none :=
    Client.tableIn?_eq_none (by decide)
  have table : Client.tableIn?
      { code := tableName ++ ": ClassVar[Dict[str, str]] = " ++ tableLiteral (g.renames n),
        order := 10 } = some (tableName, g.renames n) := by
    rw [Client.tableIn?, Client.toList_render_block]
    exact Client.readTable_literal Client.isTableName_tableName (g.renames n)
  rw [modelClass]
  split
  · rfl
  · rw [tableBlocks, List.filterMap_cons_none config, List.filterMap_cons_some table]
    rfl

theorem callIn?_accessor {k : Function} (h : k ∈ (g.modelClass n).functions.values) :
    Client.callIn? k = none := by
  obtain ⟨f, -, rfl | rfl⟩ := accessor_of_mem_values h
  · have text : (g.getter f).code.code = "return getattr(self, " ++ (tableAccess f ++ ")") :=
      String.append_assoc
    exact Client.callIn?_eq_none text (by decide) (by decide) (by decide) (by decide)
  · have text : (g.setter f).code.code = "setattr(self, " ++ (tableAccess f ++ ", value)") :=
      String.append_assoc
    exact Client.callIn?_eq_none text (by decide) (by decide) (by decide) (by decide)

theorem locationIn?_accessor (h : build decls = .ok g) (hn : n ∈ g.models) {k : Function}
    (hk : k ∈ (g.modelClass n).functions.values) : Client.locationIn? k = none := by
  have word : ∀ f ∈ n.renamed, f.name.toList.all Client.isTypeChar = true := by
    intro f hf
    exact isTypeChar_of_isIdentifier
      (isFieldName_of_mem_fields h hn (List.mem_filter.mp hf).1).identifier
  -- The name of an accessor does not start with an underscore.
  have initial : ∀ front name : String, front.toList.head? ≠ some '_' → front.toList ≠ [] →
      front ++ name ≠ "__init__" := by
    intro front name first nonempty same
    have head : (front ++ name).toList.head? = some '_' := by rw [same]; decide
    rw [String.toList_append] at head
    cases chars : front.toList with
    | nil => exact nonempty chars
    | cons c cs =>
        rw [chars] at head first
        exact first head
  obtain ⟨f, hf, rfl | rfl⟩ := accessor_of_mem_values hk
  · refine Client.locationIn?_eq_none ?_ (initial "get_" f.name (by decide) (by decide))
    show ("get_" ++ f.name).toList.all Client.isTypeChar = true
    rw [String.toList_append, List.all_append, word f hf]
    decide
  · refine Client.locationIn?_eq_none ?_ (initial "set_" f.name (by decide) (by decide))
    show ("set_" ++ f.name).toList.all Client.isTypeChar = true
    rw [String.toList_append, List.all_append, word f hf]
    decide

end Catalog

/-! ## Base classes -/

namespace Client

variable {c : Client} {g : Catalog} {s : Service} {d : ServiceDecl}

theorem blocks_baseClass (c : Client) (g : Catalog) (s : Service) :
    (c.baseClass g s).blocks = [{ code := s.classMapDeclaration, order := 40 }] :=
  (congrArg Code.Class.blocks (g.addMethods_frame _ s.groups) :)

theorem values_baseClass (made : g.service? d = some s) :
    (c.baseClass g s).functions.values =
      [abstractGuard (baseName (c.clientName s)), constructor c.location] ++
        s.groups.map g.method := by
  have functions := Catalog.functions_serviceClass made c.location (baseName (c.clientName s)) true
  rw [classNameOr_baseName] at functions
  rw [baseClass, Entries.values, functions, List.map_append, List.map_map]
  rfl

theorem isSorted_baseClass (made : g.service? d = some s) : (c.baseClass g s).IsSorted where
  fields := by
    rw [parameters_baseClass]
    exact .nil
  members := by
    have methods : ∀ i ∈ (s.groups.map g.method).map Function.order, i = 0 := by
      intro i hi
      obtain ⟨k, hk, rfl⟩ := List.mem_map.mp hi
      obtain ⟨group, -, rfl⟩ := List.mem_map.mp hk
      rfl
    have own : ([40, 30, 20, 0] : List Int).Pairwise fun i j => j ≤ i := by decide
    rw [blocks_baseClass, values_baseClass made, List.map_append, ← List.append_assoc]
    exact pairwise_append_zeros own methods

theorem classMapDeclaration_eq (s : Service) :
    s.classMapDeclaration = "classmap" ++ tableOpening ++
      if s.classMapPairs.isEmpty then "\x7b\x7d" else Catalog.tableLiteral s.classMapPairs :=
  congrArg (· ++ _)
    (by decide : "classmap: ClassVar[Dict[str, str]] = " = "classmap" ++ tableOpening)

theorem tables_baseClass (c : Client) (g : Catalog) (s : Service) :
    (c.baseClass g s).blocks.filterMap tableIn? = [("classmap", s.classMapPairs)] := by
  have table : tableIn? { code := s.classMapDeclaration, order := 40 } =
      some ("classmap", s.classMapPairs) := by
    rw [tableIn?, toList_render_block, classMapDeclaration_eq]
    split
    next empty =>
      rw [List.isEmpty_iff.mp empty]
      exact readTable_empty isTableName_classmap
    next => exact readTable_literal isTableName_classmap s.classMapPairs
  rw [blocks_baseClass, List.filterMap_cons_some table]
  rfl

/-- A method calls the engine under the remote name of its group. -/
theorem callIn?_method (made : g.service? d = some s) {group : Overload}
    (hgroup : group ∈ s.groups) :
    callIn? (g.method group) = some (group.remoteName, group.name) := by
  have identifier := (Catalog.isOperationName_of_mem_groups made hgroup).identifier
  have word := Catalog.isTypeChar_of_isIdentifier identifier
  have bracket : ']' ∉ group.name.toList :=
    Identifier.not_mem_of_isIdentifier identifier (by decide)
  rw [callIn?, toList_render_block]
  exact readCall_moved group.remoteName (isPlain_of_isTypeChar word) bracket

theorem callIn?_abstractGuard (name : String) : callIn? (abstractGuard name) = none := by
  obtain ⟨more, text⟩ : ∃ more, (abstractGuard name).code.code = "if cls is " ++ more :=
    ⟨_, by rw [abstractGuard, String.append_assoc, String.append_assoc, String.append_assoc]⟩
  exact callIn?_eq_none text (by decide) (by decide) (by decide) (by decide)

theorem callIn?_constructor (location : String) : callIn? (constructor location) = none := by
  -- The body is one long text, and its first line tells that it is no call.
  have first : "options = dict(options or \x7b\x7d)\n" =
      "options = dict(" ++ "options or \x7b\x7d)\n" := by decide
  obtain ⟨more, text⟩ : ∃ more, constructorBody = "options = dict(" ++ more := by
    delta constructorBody
    rw [first]
    simp only [String.append_assoc]
    exact ⟨_, rfl⟩
  exact callIn?_eq_none text (by decide) (by decide) (by decide) (by decide)

theorem calls_baseClass (made : g.service? d = some s) :
    (c.baseClass g s).functions.values.filterMap callIn? =
      s.groups.map fun group => (group.remoteName, group.name) := by
  rw [values_baseClass made, List.filterMap_append,
    List.filterMap_cons_none (callIn?_abstractGuard _),
    List.filterMap_cons_none (callIn?_constructor _), List.filterMap_nil, List.nil_append,
    List.filterMap_map, ← List.filterMap_eq_map]
  refine List.filterMap_congr fun group hgroup => ?_
  rw [Function.comp_apply, callIn?_method made hgroup]
  rfl

theorem locationIn?_constructor (location : String) :
    locationIn? (constructor location) = some location := by
  have text : ((constructor location).signature ++ ":").toList =
      ("def __init__(self, wsdl: str = " ++ quote location ++ ",").toList ++
        " options: Optional[Dict[str, Any]] = None) -> None:".toList := by
    simp [Function.signature, constructor, Parameter.render, Catalog.render_single, Expr.wrapped,
      Expr.render, Expr.renderAll]
  have line : isLine ("def __init__(self, wsdl: str = " ++ quote location ++ ",").toList = true := by
    rw [String.toList_append, String.toList_append]
    exact isLine_append (isLine_append (by decide) (isPlain_quote location)) (by decide)
  have opens : Opens ("def __init__(self, wsdl: str = " ++ quote location ++ ",").toList
      ((constructor location).signature ++ ":").toList := by
    rw [text]
    exact Opens.append _ _
  exact readLocation_moved ((opens.indent line).detab (isPlain_of_isLine line))

theorem locations_baseClass (made : g.service? d = some s) :
    (c.baseClass g s).functions.values.filterMap locationIn? = [c.location] := by
  have guard : locationIn? (abstractGuard (baseName (c.clientName s))) = none := by
    have word : "__new__".toList.all isTypeChar = true := by decide
    have other : "__new__" ≠ "__init__" := by decide
    exact locationIn?_eq_none word other
  have methods : (s.groups.map g.method).filterMap locationIn? = [] := by
    rw [List.filterMap_eq_nil_iff]
    intro k hk
    obtain ⟨group, hgroup, rfl⟩ := List.mem_map.mp hk
    have legal := Catalog.isOperationName_of_mem_groups made hgroup
    refine locationIn?_eq_none (Catalog.isTypeChar_of_isIdentifier legal.identifier) ?_
    intro same
    have name : group.name = "__init__" := same
    -- The name of an operation does not start with an underscore.
    exact legal.shown (name ▸ rfl)
  rw [values_baseClass made, List.filterMap_append, List.filterMap_cons_none guard,
    List.filterMap_cons_some (locationIn?_constructor _), List.filterMap_nil, methods]
  rfl

/-! ## Base files -/

variable {on : Moment} {decls : List ClassDecl}

/-- The pieces of a base file that belong to its classes, and the block behind them. -/
theorem textsOf_fullBaseFile {r : Role} (h : r.isFrame = false) (c : Client) (g : Catalog)
    (s : Service) (on : Moment) :
    textsOf r (c.fullBaseFile g s on).pieces =
      ((g.models.flatMap fun n => textsOf r (Class.pieces { g.modelClass n with order := 20 })) ++
        (textsOf r (c.baseClass g s).pieces ++
          (rebuildBlocks (modelClasses g)).flatMap fun b => textsOf r [.of .block b.render])).map
        Text.detab := by
  have base : Section.decl (c.baseClass g s) ∈ (c.fullBaseFile g s on).inOrder :=
    mem_inOrder_iff.mpr (mem_baseFileClasses_iff.mpr (Or.inr rfl))
  rw [File.textsOf_pieces h base, inOrder_fullBaseFile, List.flatMap_append, List.flatMap_map,
    List.flatMap_map, baseFileClasses, List.flatMap_append, List.flatMap_singleton, modelClasses,
    List.flatMap_map, List.append_assoc]
  rfl

theorem rebuild_of_ne {r : Role} (h : r ≠ .block) (g : Catalog) :
    (rebuildBlocks (modelClasses g)).flatMap (fun b => textsOf r [.of .block b.render]) = [] := by
  rw [List.flatMap_eq_nil_iff]
  intro b hb
  rw [textsOf_singleton]
  exact if_neg h.symm

theorem fields_fullBaseFile (built : Catalog.build decls = .ok g) (made : g.service? d = some s) :
    (textsOf .field (c.fullBaseFile g s on).pieces).map readField =
      (g.models.flatMap Model.fields).map Catalog.aliasOf := by
  rw [textsOf_fullBaseFile rfl, rebuild_of_ne (by decide), (isSorted_baseClass made).textsOf_field,
    parameters_baseClass, List.map_nil, List.append_nil, List.append_nil, List.map_map,
    List.map_flatMap, List.map_flatMap]
  refine List.flatMap_congr fun n hn => ?_
  rw [(g.isSorted_modelClass n 20).textsOf_field, Catalog.modelClass, List.map_map, List.map_map]
  refine List.map_congr_left fun f hf => ?_
  exact Catalog.readField_fieldParameter built hn hf

theorem not_mem_rebuild (built : Catalog.build decls = .ok g) {b : Block}
    (hb : b ∈ rebuildBlocks (modelClasses g)) : ':' ∉ b.code.toList := by
  rw [rebuildBlocks] at hb
  split at hb
  · cases hb
  · rw [List.mem_singleton.mp hb, toList_intercalate_feed, List.map_map]
    refine not_mem_intercalate (by decide) fun line hline => ?_
    obtain ⟨k, hk, rfl⟩ := List.mem_map.mp hline
    obtain ⟨n, hn, rfl⟩ := List.mem_map.mp hk
    have identifier := (Catalog.isClassName_of_mem_names built (List.mem_map_of_mem hn)).identifier
    show ':' ∉ (n.name ++ ".model_rebuild()").toList
    rw [String.toList_append, List.mem_append, not_or]
    exact ⟨Identifier.not_mem_of_isIdentifier identifier (by decide), by decide⟩

theorem tables_rebuild (built : Catalog.build decls = .ok g) :
    ((rebuildBlocks (modelClasses g)).flatMap fun b => textsOf .block [.of .block b.render]).filterMap
      (readTable ∘ Text.detab) = [] := by
  rw [List.filterMap_flatMap, List.flatMap_eq_nil_iff]
  intro b hb
  have none : ':' ∉ Text.detab b.render.toList := by
    rw [toList_render_block]
    intro there
    have once := (mem_of_mem_detab there).resolve_left (by decide)
    exact not_mem_rebuild built hb ((mem_of_mem_detab once).resolve_left (by decide))
  rw [textsOf_of, if_pos rfl, List.filterMap_cons_none, List.filterMap_nil]
  exact readTable_eq_none none

theorem flatMap_unless {α β : Type} (p : α → Bool) (f : α → β) (xs : List α) :
    (xs.flatMap fun x => if p x then [] else [f x]) = (xs.filter fun x => !p x).map f := by
  induction xs with
  | nil => rfl
  | cons x xs ih => cases h : p x <;> simp [h, ih]

theorem tables_fullBaseFile (built : Catalog.build decls = .ok g) (made : g.service? d = some s) :
    (textsOf .block (c.fullBaseFile g s on).pieces).filterMap readTable =
      (g.models.filter fun n => !n.renamed.isEmpty).map (fun n => (Catalog.tableName, g.renames n)) ++
        [("classmap", s.classMapPairs)] := by
  have models : ∀ n ∈ g.models,
      (textsOf .block (Class.pieces { g.modelClass n with order := 20 })).filterMap
        (readTable ∘ Text.detab) =
      if n.renamed.isEmpty then [] else [(Catalog.tableName, g.renames n)] := by
    intro n hn
    rw [(g.isSorted_modelClass n 20).textsOf_block, List.filterMap_map, tableIn?_eq_comp]
    exact g.tables_modelClass n
  have base : (textsOf .block (c.baseClass g s).pieces).filterMap (readTable ∘ Text.detab) =
      [("classmap", s.classMapPairs)] := by
    rw [(isSorted_baseClass made).textsOf_block, List.filterMap_map, tableIn?_eq_comp,
      tables_baseClass]
  rw [textsOf_fullBaseFile rfl, List.filterMap_map, List.filterMap_append, List.filterMap_append, base,
    tables_rebuild built, List.append_nil, List.filterMap_flatMap, List.flatMap_congr models,
    flatMap_unless]

theorem calls_fullBaseFile (made : g.service? d = some s) :
    (textsOf .body (c.fullBaseFile g s on).pieces).filterMap readCall =
      s.groups.map fun group => (group.remoteName, group.name) := by
  have models : (g.models.flatMap fun n =>
      textsOf .body (Class.pieces { g.modelClass n with order := 20 })).filterMap
        (readCall ∘ Text.detab) = [] := by
    rw [List.filterMap_flatMap, List.flatMap_eq_nil_iff]
    intro n hn
    rw [(g.isSorted_modelClass n 20).textsOf_body, List.filterMap_map, callIn?_eq_comp,
      List.filterMap_eq_nil_iff]
    exact fun k hk => Catalog.callIn?_accessor hk
  rw [textsOf_fullBaseFile rfl, rebuild_of_ne (by decide), List.append_nil, List.filterMap_map,
    List.filterMap_append, models, List.nil_append, (isSorted_baseClass made).textsOf_body,
    List.filterMap_map, callIn?_eq_comp, calls_baseClass made]

theorem locations_fullBaseFile (built : Catalog.build decls = .ok g)
    (made : g.service? d = some s) :
    (textsOf .signature (c.fullBaseFile g s on).pieces).filterMap readLocation = [c.location] := by
  have models : (g.models.flatMap fun n =>
      textsOf .signature (Class.pieces { g.modelClass n with order := 20 })).filterMap
        (readLocation ∘ Text.detab) = [] := by
    rw [List.filterMap_flatMap, List.flatMap_eq_nil_iff]
    intro n hn
    rw [(g.isSorted_modelClass n 20).textsOf_signature, List.filterMap_map, locationIn?_eq_comp,
      List.filterMap_eq_nil_iff]
    exact fun k hk => Catalog.locationIn?_accessor built hn hk
  rw [textsOf_fullBaseFile rfl, rebuild_of_ne (by decide), List.append_nil, List.filterMap_map,
    List.filterMap_append, models, List.nil_append, (isSorted_baseClass made).textsOf_signature,
    List.filterMap_map, locationIn?_eq_comp, locations_baseClass made]

/-- Whenever code is generated, there is one base file for each service, and its text is
that of its pieces.  Read where they stand in the text, its blocks give the table of every
model class with renamed fields and the class map of the service, its fields give every
field with its alias, its bodies give every remote name with the argument, and its
signatures give the location of the contract, all of them in order and without loss. -/
theorem literals_of_base_files {c : Client} {on : Clock} {p : Project}
    (h : c.generate on = .ok p) :
    ∃ g, Catalog.build c.contract.classes = .ok g ∧
      (p.files.filter File.overwrite).map File.name =
        (g.services c.contract.services).map (fun s => Output.baseFile (c.clientName s)) ∧
      ∀ f ∈ p.files, f.overwrite = true →
        ∃ s ∈ g.services c.contract.services, f.name = Output.baseFile (c.clientName s) ∧
          f.render.toList = textOf f.pieces ∧
          (textsOf .block f.pieces).filterMap readTable =
            (g.models.filter fun n => !n.renamed.isEmpty).map
                (fun n => ("_parameter_map", g.renames n)) ++
              [("classmap", s.classMapPairs)] ∧
          (textsOf .field f.pieces).map readField =
            (g.models.flatMap Model.fields).map
              (fun f => (f.name, if f.isRenamed then some f.rawName else none)) ∧
          (textsOf .body f.pieces).filterMap readCall =
            s.groups.map (fun group => (group.remoteName, group.name)) ∧
          (textsOf .signature f.pieces).filterMap readLocation = [c.location] := by
  obtain ⟨g, moment, built, -, -, -, rfl⟩ := generate_eq_ok_iff.mp h
  refine ⟨g, built, c.map_name_baseFiles g moment _, ?_⟩
  intro f hf replaced
  obtain ⟨s, hs, hf⟩ := List.mem_flatMap.mp hf
  rcases List.mem_pair.mp hf with rfl | rfl
  · obtain ⟨d, -, made⟩ := Catalog.mem_services hs
    exact ⟨s, hs, rfl, File.toList_render _, tables_fullBaseFile built made,
      fields_fullBaseFile built made, calls_fullBaseFile made, locations_fullBaseFile built made⟩
  · cases replaced

/-! ### Witness -/

/-- A client of a contract with quotes, backslashes, tabs and line breaks in its strings. -/
def quotations : Client :=
  { contract :=
      { location := some "it's \"here\"\\\t\u2028"
        classes := [{ name := "Say", entries := [{ name := "who's \"\\\x85", type := "string" },
          { name := "plain", type := "int" }] }]
        services := [{ name := "Talk", functions :=
          [{ name := "say\n'hi'\t", parameters := [{ name := "what", type := "Say" }] }] }] }
    engine := { module := "engines", cls := "Engine" } }

/-- The strings are read back from the base file as they were. -/
theorem literals_of_quotations :
    ∃ p, quotations.generate (.ok { date := ⟨2024, 1, 2⟩ }) = .ok p ∧
      (p.files.filter File.overwrite).map File.name = ["generated/TalkBase.py"] ∧
      ∀ f ∈ p.files, f.overwrite = true →
        f.render.toList = textOf f.pieces ∧
        (textsOf .block f.pieces).filterMap readTable =
          [("_parameter_map", [("who's \"\\\x85", "whos")]),
            ("classmap", [("Say", "Talk.Say")])] ∧
        (textsOf .field f.pieces).map readField =
          [("whos", some "who's \"\\\x85"), ("plain", none)] ∧
        (textsOf .body f.pieces).filterMap readCall = [("say\n'hi'\t", "sayhi")] ∧
        (textsOf .signature f.pieces).filterMap readLocation = ["it's \"here\"\\\t\u2028"] := by
  have facts : (Catalog.build quotations.contract.classes).toOption.any (fun g => decide
      ((g.models.filter fun n => !n.renamed.isEmpty).map (fun n => ("_parameter_map", g.renames n)) =
          [("_parameter_map", [("who's \"\\\x85", "whos")])] ∧
        (g.models.flatMap Model.fields).map
            (fun f => (f.name, if f.isRenamed then some f.rawName else none)) =
          [("whos", some "who's \"\\\x85"), ("plain", none)] ∧
        (g.services quotations.contract.services).map (fun s =>
            (quotations.clientName s, s.groups.map fun group => (group.remoteName, group.name))) =
          [("Talk", [("say\n'hi'\t", "sayhi")])] ∧
        (∀ s ∈ g.services quotations.contract.services, s.name = "Talk" ∧
          (s.operations.flatMap fun o => Catalog.rawTypes o.entries) = ["Say"]) ∧
        g.classMap = [("Say", .classId "Say")])) = true := by decide +kernel
  have generated : (quotations.generate (.ok { date := ⟨2024, 1, 2⟩ })).isOk = true := by
    decide +kernel
  cases made : quotations.generate (.ok { date := ⟨2024, 1, 2⟩ }) with
  | error fault => rw [made] at generated; cases generated
  | ok p =>
      obtain ⟨g, built, files, read⟩ := literals_of_base_files made
      rw [built, Except.toOption, Option.any_some] at facts
      obtain ⟨tables, fields, clients, services, meanings⟩ := of_decide_eq_true facts
      refine ⟨p, rfl, ?_, ?_⟩
      · have paths := congrArg (List.map fun e => Output.baseFile e.1) clients
        rw [List.map_map] at paths
        exact files.trans (paths.trans (by decide))
      · intro f hf replaced
        obtain ⟨s, hs, -, text, blocks, aliases, calls, location⟩ := read f hf replaced
        have client : (quotations.clientName s,
            s.groups.map fun group => (group.remoteName, group.name)) ∈
            [("Talk", [("say\n'hi'\t", "sayhi")])] := clients ▸ List.mem_map_of_mem hs
        obtain ⟨-, groups⟩ := Prod.mk.inj (List.mem_singleton.mp client)
        obtain ⟨name, types⟩ := services s hs
        have pairs : s.classMapPairs = [("Say", "Talk.Say")] := by
          obtain ⟨d, -, made⟩ := Catalog.mem_services hs
          rw [Service.classMapPairs, (Catalog.parts_of_service? made).2.2,
            Catalog.classMapFor_eq_self (by rw [types, meanings]; decide), meanings, name]
          decide
        rw [tables, pairs] at blocks
        exact ⟨text, blocks, aliases.trans fields, calls.trans groups, location⟩

end Client

end ContractClient
