import ContractClient.Proofs.Client.Literals
import ContractClient.Proofs.Text.Docstring

/-!
# Docstrings end where they should

Generated files have docstrings with names of the contract in them, and these names are
arbitrary.  No name ends the literal it stands in before its closing marks, and none carries
it on behind them (`docstrings_of_generated_files`).

It is not the quoting alone that sees to this.  A docstring of one line whose text ends in
three quotation marks would be broken.  No generated docstring is like that: where a name
stands as it is, the docstring has several lines, and a name on a single line is an
identifier or is quoted first.  A quoted name ends in a quotation mark only if it has none
inside (`closes_quoted`).
-/

namespace ContractClient

open Code Text

/-! ## Docstrings where they stand -/

namespace Code

/-- Moves a text so many levels to the right. -/
def indentBy : (levels : Nat) → List Char → List Char
  | 0, cs => cs
  | n + 1, cs => Text.indent (indentBy n cs)

/-- A docstring as it stands in a file, so many levels to the right. -/
def placed (d : Nat × String) : List Char := Text.detab (indentBy d.1 (Text.docstring d.2).toList)

/-- A text that makes a docstring, and one that ends at its closing marks. -/
structure Closes (s : String) : Prop where
  nonempty : s ≠ ""
  closed : Scan.run .ahead (docstringChars s.toList) = .closed

theorem Closes.run_placed {d : Nat × String} (h : Closes d.2) :
    Scan.run .ahead (placed d) = .closed := by
  have moved : ∀ depth, Scan.run .ahead (indentBy depth (docstringChars d.2.toList)) = .closed := by
    intro depth
    induction depth with
    | zero => exact h.closed
    | succ depth ih => rwa [indentBy, Scan.run_indent (Or.inl rfl)]
  rw [placed, Scan.run_detab, Text.docstring, String.toList_ofList, moved]

/-- The docstrings of a class and of its functions. -/
def Class.docstrings (k : Class) : List (Nat × String) :=
  k.docstring.toList.map (1, ·) ++ k.functions.values.flatMap fun f => f.docstring.toList.map (2, ·)

theorem docstringSection_eq {docstring : Option String} (h : docstring ≠ some "") :
    docstringSection docstring = docstring.toList.map Text.docstring := by
  cases docstring with
  | none => rfl
  | some s => rw [docstringSection, if_neg (fun empty => h (congrArg some empty))]; rfl

theorem Class.IsSorted.textsOf_placed {k : Class} (h : k.IsSorted)
    (closes : ∀ d ∈ k.docstrings, Closes d.2) :
    (textsOf .docstring k.pieces).map Text.detab = k.docstrings.map placed := by
  have own : k.docstring ≠ some "" := by
    intro empty
    exact (closes (1, "") (by simp [docstrings, empty])).nonempty rfl
  have functions : ∀ f ∈ k.functions.values, f.docstring ≠ some "" := by
    intro f hf empty
    have there : (2, "") ∈ k.docstrings :=
      List.mem_append_right _ (List.mem_flatMap.mpr ⟨f, hf, by simp [empty]⟩)
    exact (closes _ there).nonempty rfl
  have written : k.functions.values.flatMap (fun f =>
      (docstringSection f.docstring).map fun s => Text.indent (Text.indent s.toList)) =
      k.functions.values.flatMap fun f =>
        f.docstring.toList.map fun s => Text.indent (Text.indent (Text.docstring s).toList) := by
    refine List.flatMap_congr fun f hf => ?_
    rw [docstringSection_eq (functions f hf)]
    simp only [List.map_map, Function.comp_def]
  rw [h.textsOf_docstring, docstringSection_eq own, written, docstrings]
  simp only [List.map_append, List.map_map, List.map_flatMap, Function.comp_def, placed,
    indentBy]

end Code

/-! ## Texts that close -/

section Closes

variable {s : String}

theorem closes_of_lines {first second rest : List Char}
    (h : s.toList = first ++ '\n' :: (second ++ rest)) (hfirst : first.all isBlank = false)
    (hsecond : second.all isBlank = false) : Closes s where
  nonempty := by
    rintro rfl
    simp at h
  closed := by
    rw [h]
    refine run_docstring_of_feed hfirst ?_
    rw [List.all_append, hsecond, Bool.false_and]

theorem closes_of_concat {front : List Char} {c : Char} (h : s.toList = front ++ [c])
    (visible : isBlank c = false) (single : c = '"' → front.getLast? ≠ some '"') : Closes s where
  nonempty := by
    rintro rfl
    simp at h
  closed := by
    rw [h]
    refine run_docstring_of_line ?_ ?_
    · intro d hd
      rw [List.getLast?_concat] at hd
      cases hd
      exact visible
    · rintro ⟨before, marks⟩
      have split : (before ++ ['"']) ++ ['"'] = front ++ [c] := by simpa using marks
      obtain ⟨rfl, same⟩ := List.append_inj' split rfl
      cases same
      exact single rfl (List.getLast?_concat ..)

theorem isIdentifier_concat (h : Identifier.isIdentifier s = true) :
    ∃ front c, s.toList = front ++ [c] ∧ isBlank c = false ∧ c ≠ '"' := by
  rcases List.eq_nil_or_concat s.toList with none | ⟨front, c, chars⟩
  · rw [Identifier.isIdentifier, none] at h
    cases h
  · rw [List.concat_eq_append] at chars
    have continues := Identifier.mem_of_isIdentifierChars h c (by simp [chars])
    refine ⟨front, c, chars, Identifier.isBlank_of_isContinue continues, ?_⟩
    rintro rfl
    have mark : Identifier.isContinue '"' = false := by decide +kernel
    rw [mark] at continues
    cases continues

theorem closes_of_isIdentifier (h : Identifier.isIdentifier s = true) : Closes s := by
  obtain ⟨front, c, chars, visible, mark⟩ := isIdentifier_concat h
  exact closes_of_concat chars visible fun same => absurd same mark

theorem visible_of_isIdentifier (h : Identifier.isIdentifier s = true) :
    s.toList.all isBlank = false := by
  obtain ⟨front, c, chars, visible, -⟩ := isIdentifier_concat h
  simp [chars, visible]

theorem not_mem_hex (width n : Nat) : '"' ∉ hex width n := by
  have digit : ∀ d < 16, hexDigit d ≠ '"' := by decide
  induction width generalizing n with
  | zero => simp [hex]
  | succ width ih => simp [hex, ih, (digit (n % 16) (Nat.mod_lt n (by decide))).symm]

theorem not_mem_quoteChar {c : Char} (h : c ≠ '"') : '"' ∉ quoteChar '"' c := by
  have code : '"' ∉ escapeCode c := by
    rw [escapeCode]
    split
    · simp [not_mem_hex]
    · split <;> simp [not_mem_hex]
  rw [quoteChar]
  repeat' split
  all_goals simp_all [Ne.symm h]

/-- A quoted text that ends in a quotation mark has no other mark beside it. -/
theorem closes_quoted (front raw : String) : Closes (front ++ quote raw) := by
  have text : (front ++ quote raw).toList = (front.toList ++ quoteMark raw.toList ::
      raw.toList.flatMap (quoteChar (quoteMark raw.toList))) ++ [quoteMark raw.toList] := by
    rw [String.toList_append, Client.toList_quote, quoteChars, List.append_assoc]
  by_cases marked : '\'' ∈ raw.toList ∧ '"' ∉ raw.toList
  · have mark : quoteMark raw.toList = '"' := if_pos marked
    rw [mark] at text
    refine closes_of_concat text (by decide) fun _ last => ?_
    -- An apostrophe stands between the marks, and no mark does.
    obtain ⟨before, after, split⟩ := List.append_of_mem marked.1
    have apostrophe : quoteChar '"' '\'' = ['\''] := by decide +kernel
    rw [split, List.flatMap_append, List.flatMap_cons, apostrophe, List.singleton_append,
      ← List.cons_append, ← List.append_assoc, List.getLast?_append_cons] at last
    have inner := List.mem_of_ne_of_mem (by decide) (List.mem_of_getLast? last)
    obtain ⟨d, hd, again⟩ := List.mem_flatMap.mp inner
    refine not_mem_quoteChar (fun same => marked.2 ?_) again
    rw [split, ← same]
    simp [hd]
  · have mark : quoteMark raw.toList = '\'' := if_neg marked
    rw [mark] at text
    exact closes_of_concat text (by decide) fun same => absurd same (by decide)

end Closes

/-! ## The docstrings of a catalog -/

namespace Catalog

variable {g : Catalog} {decls : List ClassDecl} {n : Model}

theorem closes_modelDocstring (h : build decls = .ok g) (hn : n ∈ g.models) :
    Closes (modelDocstring n) := by
  have name := (isClassName_of_mem_names h (List.mem_map_of_mem hn)).identifier
  rw [modelDocstring]
  split
  · rw [String.append_empty]
    exact closes_of_isIdentifier name
  · have text : (n.name ++ ("\n\nWire type: " ++ n.rawName)).toList =
        n.name.toList ++ '\n' :: ("\nWire type: ".toList ++ n.rawName.toList) := by
      rw [String.toList_append, String.toList_append]
      rfl
    exact closes_of_lines text (visible_of_isIdentifier name) (by decide)

theorem closes_of_mem_modelClass (h : build decls = .ok g) (hn : n ∈ g.models) :
    ∀ d ∈ (g.modelClass n).docstrings, Closes d.2 := by
  intro d hd
  rcases List.mem_append.mp hd with own | hd
  · rw [List.mem_singleton.mp own]
    exact closes_modelDocstring h hn
  · obtain ⟨k, hk, hd⟩ := List.mem_flatMap.mp hd
    obtain ⟨f, -, rfl | rfl⟩ := accessor_of_mem_values hk
    · rw [List.mem_singleton.mp hd]
      exact closes_quoted _ _
    · rw [List.mem_singleton.mp hd]
      exact closes_quoted _ _

theorem closes_serviceDocstring (s : Service) (name : String) :
    Closes (serviceDocstring s (Client.baseName name)) := by
  have base : (Client.baseName name).toList = (name.toList ++ ['B', 'a', 's']) ++ ['e'] := by
    rw [Client.baseName, String.toList_append, List.append_assoc]
    rfl
  rw [serviceDocstring]
  split
  · rw [String.append_empty]
    exact closes_of_concat base (by decide) fun same => absurd same (by decide)
  · have text : (Client.baseName name ++ ("\n\nService: " ++ s.rawName)).toList =
        (Client.baseName name).toList ++ '\n' :: ("\nService: ".toList ++ s.rawName.toList) := by
      rw [String.toList_append, String.toList_append]
      rfl
    exact closes_of_lines text (by simp [base, isBlank]) (by decide)

theorem closes_constructorDocstring : Closes constructorDocstring := by
  have opening : "Constructor using wsdl location and options dict\n\nArgs:\n".toList =
      "Constructor using wsdl location and options dict".toList ++ '\n' :: "\nArgs:\n".toList := by
    decide
  obtain ⟨rest, text⟩ : ∃ rest : String, constructorDocstring =
      "Constructor using wsdl location and options dict\n\nArgs:\n" ++ rest :=
    ⟨_, String.append_assoc⟩
  have chars := (congrArg String.toList text).trans String.toList_append
  rw [opening, List.append_assoc, List.cons_append] at chars
  exact closes_of_lines chars (by decide) (by decide)

theorem closes_methodDocstring (g : Catalog) (group : Overload) :
    Closes (g.methodDocstring group) := by
  have opening : ∀ (first second : String) (rest : List String), ∃ more,
      ("\n".intercalate (first :: "" :: second :: rest)).toList =
        first.toList ++ '\n' :: (('\n' :: second.toList) ++ more) := by
    intro first second rest
    cases rest with
    | nil => exact ⟨[], by simp⟩
    | cons third rest => exact ⟨'\n' :: ("\n".intercalate (third :: rest)).toList, by simp⟩
  obtain ⟨more, chars⟩ : ∃ more, (g.methodDocstring group).toList =
      ("Service Call: " ++ group.name).toList ++
        '\n' :: (('\n' :: "Parameter options:".toList) ++ more) := opening _ _ _
  refine closes_of_lines chars ?_ (by decide)
  rw [String.toList_append, List.all_append]
  rfl

end Catalog

namespace Client

variable {c : Client} {g : Catalog} {s : Service} {d : ServiceDecl} {on : Moment}
  {decls : List ClassDecl}

theorem closes_clientDocstring (name : String) (on : Moment) :
    Closes (clientDocstring name on) := by
  have feeds : ".\n\n".toList = ['.', '\n', '\n'] := by decide
  obtain ⟨rest, text⟩ : ∃ rest : String, clientDocstring name on =
      "Implementation class of " ++ (name ++ (".\n\n" ++
        ("You may modify this class for custom logic additions/method overrides.\n" ++ rest))) := by
    delta clientDocstring
    simp only [String.append_assoc]
    exact ⟨_, rfl⟩
  have chars := congrArg String.toList text
  simp only [String.toList_append, feeds, List.cons_append, List.nil_append] at chars
  rw [← List.append_assoc, List.append_cons, ← List.cons_append] at chars
  refine closes_of_lines chars ?_ (by decide)
  simp [isBlank]

/-! ## The docstrings of files -/

/-- The docstrings of the base file of a service: those of the model classes and their
accessors, and then those of the base class, its constructor and its methods. -/
def baseDocstrings (c : Client) (g : Catalog) (s : Service) : List (Nat × String) :=
  g.models.flatMap (fun n => (g.modelClass n).docstrings) ++
    (1, Catalog.serviceDocstring s (baseName (c.clientName s))) :: (2, constructorDocstring) ::
      s.groups.map fun group => (2, g.methodDocstring group)

theorem docstrings_baseClass (made : g.service? d = some s) :
    (c.baseClass g s).docstrings =
      (1, Catalog.serviceDocstring s (baseName (c.clientName s))) :: (2, constructorDocstring) ::
        s.groups.map fun group => (2, g.methodDocstring group) := by
  have own : (c.baseClass g s).docstring =
      some (Catalog.serviceDocstring s (baseName (c.clientName s))) := by
    rw [baseClass_eq]
    exact (congrArg Code.Class.docstring (g.addMethods_frame _ s.groups) :)
  have methods : (s.groups.map g.method).flatMap (fun f => f.docstring.toList.map ((2 : Nat), ·)) =
      s.groups.map fun group => (2, g.methodDocstring group) := by
    rw [List.flatMap_map, List.map_eq_flatMap]
    rfl
  rw [Code.Class.docstrings, own, values_baseClass made, List.flatMap_append, methods]
  rfl

theorem closes_of_mem_baseClass (made : g.service? d = some s) :
    ∀ e ∈ (c.baseClass g s).docstrings, Closes e.2 := by
  intro e he
  rw [docstrings_baseClass made, List.mem_cons, List.mem_cons] at he
  rcases he with rfl | rfl | he
  · exact Catalog.closes_serviceDocstring s (c.clientName s)
  · exact Catalog.closes_constructorDocstring
  · obtain ⟨group, -, rfl⟩ := List.mem_map.mp he
    exact g.closes_methodDocstring group

theorem closes_of_mem_baseDocstrings (built : Catalog.build decls = .ok g)
    (made : g.service? d = some s) : ∀ e ∈ c.baseDocstrings g s, Closes e.2 := by
  intro e he
  rw [baseDocstrings, ← docstrings_baseClass made] at he
  rcases List.mem_append.mp he with he | he
  · obtain ⟨n, hn, he⟩ := List.mem_flatMap.mp he
    exact Catalog.closes_of_mem_modelClass built hn e he
  · exact closes_of_mem_baseClass made e he

theorem textsOf_docstring_fullBaseFile (built : Catalog.build decls = .ok g)
    (made : g.service? d = some s) :
    textsOf .docstring (c.fullBaseFile g s on).pieces = (c.baseDocstrings g s).map placed := by
  have models : ∀ n ∈ g.models,
      (textsOf .docstring (Code.Class.pieces { g.modelClass n with order := 20 })).map Text.detab =
        (g.modelClass n).docstrings.map placed := by
    intro n hn
    exact (g.isSorted_modelClass n 20).textsOf_placed (Catalog.closes_of_mem_modelClass built hn)
  have base := (isSorted_baseClass made).textsOf_placed (closes_of_mem_baseClass (c := c) made)
  rw [textsOf_fullBaseFile rfl, rebuild_of_ne (by decide), List.append_nil, List.map_append, base,
    List.map_flatMap, List.flatMap_congr models, baseDocstrings, ← docstrings_baseClass made,
    List.map_append, List.map_flatMap]

theorem textsOf_docstring_fullClientFile (c : Client) (s : Service) (on : Moment) :
    textsOf .docstring (c.fullClientFile s on).pieces =
      [placed (1, clientDocstring (c.clientName s) on)] := by
  have sections : (c.fullClientFile s on).inOrder =
      [.decl (clientClass (c.clientName s) on)] := by
    rw [File.inOrder, byOrder_of_pairwise]
    · rfl
    · exact List.pairwise_singleton _ _
  have sorted : (clientClass (c.clientName s) on).IsSorted := ⟨.nil, .nil⟩
  have closes : ∀ e ∈ (clientClass (c.clientName s) on).docstrings, Closes e.2 := by
    intro e he
    rw [List.mem_singleton.mp he]
    exact closes_clientDocstring _ _
  have there : Section.decl (clientClass (c.clientName s) on) ∈ (c.fullClientFile s on).inOrder :=
    sections ▸ List.mem_singleton_self _
  rw [File.textsOf_pieces rfl there, sections, List.flatMap_singleton]
  exact sorted.textsOf_placed closes

/-- A file whose docstrings close has each of them end in its place. -/
theorem behindDocstring_of_pieces {f : File} {ds : List (Nat × String)}
    (texts : textsOf .docstring f.pieces = ds.map placed) (closes : ∀ e ∈ ds, Closes e.2)
    {before after : List Piece} {q : Piece} (split : f.pieces = before ++ q :: after)
    (role : q.role = .docstring) :
    behindDocstring (q.text ++ textOf after) = some (textOf after) := by
  have there : q.text ∈ textsOf .docstring f.pieces := by
    refine List.mem_map_of_mem (List.mem_filter.mpr ⟨?_, decide_eq_true role⟩)
    rw [split]
    exact List.mem_append_right _ List.mem_cons_self
  rw [texts] at there
  obtain ⟨e, he, same⟩ := List.mem_map.mp there
  rw [← same]
  exact Scan.behindDocstring_append (closes e he).run_placed _

/-- Whenever code is generated, the docstrings of the files are those of the model classes
and their accessors, of the base class, its constructor and its methods, and of the client
class, in this order for each service, quoted and moved to their places.  Wherever one of
them stands in the text of its file, the literal that is open there ends right behind it. -/
theorem docstrings_of_generated_files {c : Client} {on : Clock} {p : Project}
    (h : c.generate on = .ok p) :
    ∃ g moment, Catalog.build c.contract.classes = .ok g ∧ on = .ok moment ∧
      p.files.map (fun f => textsOf .docstring f.pieces) =
        (g.services c.contract.services).flatMap (fun s =>
          [(g.models.flatMap (fun n => (g.modelClass n).docstrings) ++
              (1, Catalog.serviceDocstring s (baseName (c.clientName s))) ::
              (2, constructorDocstring) ::
              s.groups.map fun group => (2, g.methodDocstring group)).map placed,
            [placed (1, clientDocstring (c.clientName s) moment)]]) ∧
      ∀ f ∈ p.files, f.render.toList = textOf f.pieces ∧
        ∀ before q after, f.pieces = before ++ q :: after → q.role = .docstring →
          behindDocstring (q.text ++ textOf after) = some (textOf after) := by
  obtain ⟨g, moment, built, -, -, ⟨rfl, -⟩, rfl⟩ := generate_eq_ok_iff.mp h
  refine ⟨g, moment, built, rfl, ?_, ?_⟩
  · rw [fullFiles, List.map_flatMap]
    refine List.flatMap_congr fun s hs => ?_
    obtain ⟨d, -, made⟩ := Catalog.mem_services hs
    rw [List.map_cons, List.map_singleton, textsOf_docstring_fullBaseFile built made,
      textsOf_docstring_fullClientFile]
    rfl
  · intro f hf
    refine ⟨File.toList_render f, fun before q after split role => ?_⟩
    obtain ⟨s, hs, hf⟩ := List.mem_flatMap.mp hf
    rcases List.mem_pair.mp hf with rfl | rfl
    · obtain ⟨d, -, made⟩ := Catalog.mem_services hs
      exact behindDocstring_of_pieces (textsOf_docstring_fullBaseFile built made)
        (closes_of_mem_baseDocstrings built made) split role
    · have closes : ∀ e ∈ [(1, clientDocstring (c.clientName s) moment)], Closes e.2 := by
        intro e he
        rw [List.mem_singleton.mp he]
        exact closes_clientDocstring _ _
      exact behindDocstring_of_pieces (c.textsOf_docstring_fullClientFile s moment) closes split role

/-! ### Witness -/

/-- A client of a contract with quotation marks and backslashes in its names. -/
def marks : Client :=
  { contract :=
      { classes := [{ name := "A\"\"\"", entries := [{ name := "it's", type := "string" },
          { name := "\\\"\"\"", type := "int" }] }]
        services := [{ name := "Say\"\"\"\"\t\\", functions :=
          [{ name := "ask\\", parameters := [{ name := "what", type := "A\"\"\"" }] }] }] }
    engine := { module := "engines", cls := "Engine" } }

/-- The name of the class ends in three marks, and the quoted name of its first field ends in
one.  The docstrings with them end in their places, as all others do. -/
theorem docstrings_of_marks :
    ∃ p, marks.generate (.ok { date := ⟨2024, 1, 2⟩ }) = .ok p ∧
      (p.files.map fun f => (textsOf .docstring f.pieces).take 2).head? =
        some ["    \"\"\"A\n\n    Wire type: A\\\"\\\"\\\\\"\n    \"\"\"".toList,
          ("        \"\"\"Provided for getting the non-standard named field " ++
            "\"it's\\\"\"\"\"").toList] ∧
      ∀ f ∈ p.files, ∀ before q after, f.pieces = before ++ q :: after → q.role = .docstring →
        behindDocstring (q.text ++ textOf after) = some (textOf after) := by
  have facts : (Catalog.build marks.contract.classes).toOption.any (fun g => decide
      ((((g.services marks.contract.services).flatMap fun s =>
        [(marks.baseDocstrings g s).map placed,
          [placed (1, clientDocstring (marks.clientName s) { date := ⟨2024, 1, 2⟩ })]]).map
            (List.take 2)).head? =
        some ["    \"\"\"A\n\n    Wire type: A\\\"\\\"\\\\\"\n    \"\"\"".toList,
          ("        \"\"\"Provided for getting the non-standard named field " ++
            "\"it's\\\"\"\"\"").toList])) = true := by
    decide +kernel
  have generated : (marks.generate (.ok { date := ⟨2024, 1, 2⟩ })).isOk = true := by decide +kernel
  cases made : marks.generate (.ok { date := ⟨2024, 1, 2⟩ }) with
  | error fault => rw [made] at generated; cases generated
  | ok p =>
      obtain ⟨g, moment, built, same, texts, ends⟩ := docstrings_of_generated_files made
      cases same
      rw [built, Except.toOption, Option.any_some] at facts
      refine ⟨p, rfl, ?_, fun f hf => (ends f hf).2⟩
      have first := congrArg (fun ts => (ts.map (List.take 2)).head?) texts
      rw [List.map_map] at first
      exact first.trans (of_decide_eq_true facts)

end Client

end ContractClient
