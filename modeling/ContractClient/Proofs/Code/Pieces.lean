import ContractClient.Proofs.Code.Sections

/-!
# The pieces of a text

A file is one long text.  Its pieces are the parts that come from one place of the code
each, such as the signature of a function or a field of a class, and the gaps between them.
Joined, they are the text (`File.toList_render`), so to read a piece is to read the file at
the place of the piece.

A piece stands in the file as it was moved: a body is indented with its function and again
with its class.  Gaps are line feeds, so a text is indented piece by piece (`Laid`).
-/

namespace ContractClient.Code

/-! ## Pieces -/

/-- What a piece of a text is there for. -/
inductive Role where
  | gap
  | header
  | imports
  | heading
  | docstring
  | field
  | block
  | signature
  | body
  | filler
  deriving DecidableEq

/-- A piece of a text. -/
structure Piece where
  role : Role
  text : List Char

/-- A piece with a given text. -/
def Piece.of (r : Role) (s : String) : Piece := { role := r, text := s.toList }

/-- A piece whose text is changed. -/
def Piece.map (change : List Char → List Char) (p : Piece) : Piece :=
  { p with text := change p.text }

/-- The text of some pieces. -/
def textOf (ps : List Piece) : List Char := ps.flatMap Piece.text

/-- The texts of the pieces with a given role, in order. -/
def textsOf (r : Role) (ps : List Piece) : List (List Char) :=
  (ps.filter (·.role = r)).map Piece.text

/-- Pieces that are indented. -/
def indented (ps : List Piece) : List Piece := ps.map (Piece.map Text.indent)

/-- Line feeds between pieces. -/
def gap (count : Nat) : Piece := { role := .gap, text := List.replicate count '\n' }

/-- Parts with line feeds between them. -/
def joined (count : Nat) (parts : List (List Piece)) : List Piece :=
  [gap count].intercalate parts

theorem joined_cons_cons (count : Nat) (ps qs : List Piece) (parts : List (List Piece)) :
    joined count (ps :: qs :: parts) = ps ++ gap count :: joined count (qs :: parts) := by
  rw [joined, List.intercalate_cons_cons, List.append_assoc]
  rfl

theorem joined_singleton (count : Nat) (ps : List Piece) : joined count [ps] = ps :=
  List.intercalate_singleton

theorem textOf_append (ps qs : List Piece) : textOf (ps ++ qs) = textOf ps ++ textOf qs :=
  List.flatMap_append

theorem textOf_singleton (p : Piece) : textOf [p] = p.text := List.flatMap_singleton Piece.text p

theorem textOf_of (r : Role) (s : String) : textOf [.of r s] = s.toList := by
  rw [textOf_singleton, Piece.of]

theorem textOf_joined (count : Nat) (parts : List (List Piece)) :
    textOf (joined count parts) = (List.replicate count '\n').intercalate (parts.map textOf) := by
  induction parts with
  | nil => rfl
  | cons ps parts ih =>
      cases parts with
      | nil => rw [joined_singleton, List.map_singleton, List.intercalate_singleton]
      | cons qs parts =>
          rw [joined_cons_cons, textOf_append]
          simp only [List.map_cons, List.intercalate_cons_cons, List.append_assoc]
          exact congrArg (fun rest => textOf ps ++ (List.replicate count '\n' ++ rest)) ih

/-! ### Pieces of a role -/

section Role

variable {r : Role}

theorem textsOf_append (r : Role) (ps qs : List Piece) :
    textsOf r (ps ++ qs) = textsOf r ps ++ textsOf r qs := by
  rw [textsOf, List.filter_append, List.map_append]
  rfl

theorem textsOf_singleton (r : Role) (p : Piece) :
    textsOf r [p] = if p.role = r then [p.text] else [] := by
  by_cases same : p.role = r <;> simp [textsOf, same]

theorem textsOf_of (r r' : Role) (s : String) :
    textsOf r [.of r' s] = if r' = r then [s.toList] else [] := by
  rw [textsOf_singleton, Piece.of]

theorem textsOf_map (r : Role) (change : List Char → List Char) (ps : List Piece) :
    textsOf r (ps.map (Piece.map change)) = (textsOf r ps).map change := by
  rw [textsOf, textsOf, List.filter_map, List.map_map, List.map_map]
  rfl

theorem textsOf_joined (hr : r ≠ .gap) (count : Nat) (parts : List (List Piece)) :
    textsOf r (joined count parts) = parts.flatMap (textsOf r) := by
  induction parts with
  | nil => rfl
  | cons ps parts ih =>
      cases parts with
      | nil => rw [joined_singleton, List.flatMap_singleton]
      | cons qs parts =>
          have none : textsOf r [gap count] = [] := by
            rw [textsOf_singleton, gap, if_neg hr.symm]
          rw [joined_cons_cons, textsOf_append, ← List.singleton_append, textsOf_append, none, ih]
          rfl

end Role

/-! ## Indentation -/

/-- Pieces with line feeds between them. -/
inductive Laid : List Piece → Prop
  | piece (p : Piece) : Laid [p]
  | joined (count : Nat) {parts : List (List Piece)} (h : ∀ ps ∈ parts, Laid ps) :
      Laid (joined (count + 1) parts)

theorem indented_gap (count : Nat) : (gap (count + 1)).map Text.indent = gap (count + 1) := by
  have moved := Text.indent_append_feeds [] [] count
  have none : Text.indent [] = [] := rfl
  rw [none, List.nil_append, List.append_nil] at moved
  exact congrArg (Piece.mk .gap) moved

theorem indented_joined (count : Nat) (parts : List (List Piece)) :
    indented (joined (count + 1) parts) = joined (count + 1) (parts.map indented) := by
  induction parts with
  | nil => rfl
  | cons ps parts ih =>
      cases parts with
      | nil => rw [joined_singleton, List.map_singleton, joined_singleton]
      | cons qs parts =>
          rw [List.map_cons, List.map_cons, joined_cons_cons, joined_cons_cons, indented,
            List.map_append, List.map_cons, indented_gap]
          exact congrArg (fun rest => indented ps ++ gap (count + 1) :: rest) ih

namespace Laid

variable {ps : List Piece}

theorem indented (h : Laid ps) : Laid (indented ps) := by
  induction h with
  | piece p => exact .piece _
  | joined count h ih =>
      rw [indented_joined]
      refine .joined count fun qs hqs => ?_
      obtain ⟨ps, hps, rfl⟩ := List.mem_map.mp hqs
      exact ih ps hps

/-- Pieces with line feeds between them are indented one by one. -/
theorem indent_textOf (h : Laid ps) : Text.indent (textOf ps) = textOf (Code.indented ps) := by
  induction h with
  | piece p => rw [textOf_singleton, Code.indented, List.map_singleton, textOf_singleton]; rfl
  | @joined count parts h ih =>
      rw [indented_joined, textOf_joined, textOf_joined, Text.indent_intercalate, List.map_map,
        List.map_map]
      exact congrArg _ (List.map_congr_left ih)

end Laid

/-! ## Functions, classes and files -/

def docstringPieces (docstring : Option String) : List (List Piece) :=
  (docstringSection docstring).map fun s => [Piece.of .docstring s]

def Function.pieces (f : Function) : List Piece :=
  joined 1 [[.of .signature (f.signature ++ ":")],
    indented (joined 1 (docstringPieces f.docstring ++ [[.of .body f.code.render]]))]

/-- The sections of a class, in pieces. -/
def Class.parts (c : Class) : List (List Piece) :=
  docstringPieces c.docstring ++
    (if c.parameters.isEmpty then []
     else [joined 1 (byOrder (c.parameters.map fun p => (p.order, [.of .field p.render])))]) ++
    byOrder (c.blocks.map (fun b => (b.order, [.of .block b.render])) ++
      c.functions.values.map fun f => (f.order, f.pieces))

def Class.pieces (c : Class) : List Piece :=
  joined 1 [[.of .heading (c.heading ++ ":")],
    indented (if c.parts.isEmpty then [.of .filler "pass"] else joined 2 c.parts)]

def Section.pieces : Section → List Piece
  | block b => [.of .block b.render]
  | decl k => k.pieces

/-- The sections of a file, in pieces. -/
def File.body (f : File) : List Piece := joined 3 (f.inOrder.map Section.pieces)

def File.pieces (f : File) : List Piece :=
  (joined 3 ([[.of .header ("\n".intercalate f.header)], [.of .imports ("\n".intercalate f.imports)],
    f.body].filter (textOf · ≠ []))).map (Piece.map Text.detab) ++ [gap 1]

/-! ### Texts -/

theorem map_textOf_docstringPieces (docstring : Option String) :
    (docstringPieces docstring).map textOf = (docstringSection docstring).map String.toList := by
  rw [docstringPieces, List.map_map]
  exact List.map_congr_left fun s _ => textOf_of .docstring s

theorem laid_docstringPieces {docstring : Option String} {ps : List Piece}
    (h : ps ∈ docstringPieces docstring) : Laid ps := by
  obtain ⟨s, -, rfl⟩ := List.mem_map.mp h
  exact .piece _

theorem Function.laid_inner (f : Function) :
    Laid (joined 1 (docstringPieces f.docstring ++ [[.of .body f.code.render]])) := by
  refine .joined 0 fun ps hps => ?_
  rcases List.mem_append.mp hps with hps | hps
  · exact laid_docstringPieces hps
  · exact List.mem_singleton.mp hps ▸ .piece _

theorem Function.laid_pieces (f : Function) : Laid f.pieces := by
  refine .joined 0 fun ps hps => ?_
  rcases List.mem_cons.mp hps with rfl | hps
  · exact .piece _
  · exact List.mem_singleton.mp hps ▸ f.laid_inner.indented

theorem toList_intercalate_feed (texts : List String) :
    ("\n".intercalate texts).toList = ['\n'].intercalate (texts.map String.toList) := by
  rw [String.toList_intercalate]
  rfl

/-- A first line and indented pieces below it. -/
theorem textOf_headed {first : Piece} {ps : List Piece} (h : Laid ps) :
    textOf (joined 1 [[first], indented ps]) = first.text ++ '\n' :: Text.indent (textOf ps) := by
  rw [textOf_joined, h.indent_textOf]
  simp [textOf_singleton, List.intercalate_cons_cons]

theorem Function.toList_render (f : Function) : f.render.toList = textOf f.pieces := by
  have inner : textOf (joined 1 (docstringPieces f.docstring ++ [[.of .body f.code.render]])) =
      ("\n".intercalate (docstringSection f.docstring ++ [f.code.render])).toList := by
    rw [textOf_joined, toList_intercalate_feed, List.map_append, List.map_append,
      map_textOf_docstringPieces, List.map_singleton, List.map_singleton, textOf_of]
    rfl
  rw [pieces, textOf_headed f.laid_inner, inner, render, String.toList_append, indent,
    String.toList_ofList]
  simp [Piece.of]

theorem Class.textOf_fields (c : Class) :
    textOf (joined 1 (byOrder (c.parameters.map fun p => (p.order, [Piece.of .field p.render])))) =
      ("\n".intercalate (byOrder (c.parameters.map fun p => (p.order, p.render)))).toList := by
  rw [textOf_joined, toList_intercalate_feed, map_byOrder, map_byOrder, List.map_map, List.map_map]
  simp only [Function.comp_def, textOf_of]
  rfl

theorem Class.map_textOf_members (c : Class) :
    (byOrder (c.blocks.map (fun b => (b.order, [Piece.of .block b.render])) ++
      c.functions.values.map fun f => (f.order, f.pieces))).map textOf =
    (byOrder (c.blocks.map (fun b => (b.order, b.render)) ++
      c.functions.values.map fun f => (f.order, f.render))).map String.toList := by
  rw [map_byOrder, map_byOrder, List.map_append, List.map_append]
  simp only [List.map_map, Function.comp_def, textOf_of, ← Function.toList_render]

theorem Class.map_textOf_parts (c : Class) :
    c.parts.map textOf = c.sections.map String.toList := by
  rw [parts, sections, List.map_append, List.map_append, List.map_append, List.map_append,
    map_textOf_docstringPieces, map_textOf_members]
  congr 2
  split
  · rfl
  · rw [List.map_singleton, List.map_singleton, textOf_fields]

theorem mem_of_mem_byOrder {α : Type} {items : List (Int × α)} {x : α} (h : x ∈ byOrder items) :
    ∃ p ∈ items, p.2 = x := by
  obtain ⟨p, hp, rfl⟩ := List.mem_map.mp h
  exact ⟨p, List.mem_mergeSort.mp hp, rfl⟩

theorem Class.laid_parts (c : Class) {ps : List Piece} (h : ps ∈ c.parts) : Laid ps := by
  rcases List.mem_append.mp h with h | h
  · rcases List.mem_append.mp h with h | h
    · exact laid_docstringPieces h
    · split at h
      · cases h
      · rw [List.mem_singleton.mp h]
        refine .joined 0 fun qs hqs => ?_
        obtain ⟨p, hp, rfl⟩ := mem_of_mem_byOrder hqs
        obtain ⟨field, -, rfl⟩ := List.mem_map.mp hp
        exact .piece _
  · obtain ⟨p, hp, rfl⟩ := mem_of_mem_byOrder h
    rcases List.mem_append.mp hp with hp | hp
    · obtain ⟨b, -, rfl⟩ := List.mem_map.mp hp
      exact .piece _
    · obtain ⟨f, -, rfl⟩ := List.mem_map.mp hp
      exact f.laid_pieces

theorem Class.toList_render (c : Class) : c.render.toList = textOf c.pieces := by
  -- There are parts exactly if there are sections, so both texts are filled in one case.
  have empty : c.parts.isEmpty = c.sections.isEmpty := by
    rw [← List.isEmpty_map (f := textOf), c.map_textOf_parts, List.isEmpty_map]
  have laid : Laid (if c.parts.isEmpty then [.of .filler "pass"] else joined 2 c.parts) := by
    split
    · exact .piece _
    · exact .joined 1 fun ps => c.laid_parts
  have inner : textOf (if c.parts.isEmpty then [.of .filler "pass"] else joined 2 c.parts) =
      (if c.sections.isEmpty then "pass" else "\n\n".intercalate c.sections).toList := by
    rw [empty]
    split
    · exact textOf_of .filler "pass"
    · rw [textOf_joined, c.map_textOf_parts, String.toList_intercalate]
      rfl
  rw [pieces, textOf_headed laid, inner, render, String.toList_append, indent,
    String.toList_ofList]
  simp [Piece.of]

theorem Section.toList_render (s : Section) : s.render.toList = textOf s.pieces := by
  cases s with
  | block b => exact (textOf_of .block b.render).symm
  | decl k => exact k.toList_render

theorem textOf_map_detab (ps : List Piece) :
    textOf (ps.map (Piece.map Text.detab)) = Text.detab (textOf ps) := by
  induction ps with
  | nil => rfl
  | cons p ps ih =>
      show Text.detab p.text ++ textOf (ps.map (Piece.map Text.detab)) = _
      rw [ih, ← Text.detab_append]
      rfl

theorem File.textOf_body (f : File) :
    textOf f.body = ("\n\n\n".intercalate f.sections).toList := by
  rw [body, textOf_joined, sections_eq_map_render, String.toList_intercalate, List.map_map,
    List.map_map]
  exact congrArg _ (List.map_congr_left fun s _ => s.toList_render.symm)

/-- Parts without text leave no gap. -/
theorem map_textOf_filter {parts : List (List Piece)} {texts : List String}
    (h : parts.map textOf = texts.map String.toList) :
    (parts.filter (textOf · ≠ [])).map textOf = (texts.filter (· ≠ "")).map String.toList := by
  have empty : ∀ t : String, decide (t.toList ≠ []) = decide (t ≠ "") :=
    fun t => decide_eq_decide.mpr (not_congr String.toList_eq_nil_iff)
  calc
    _ = (parts.map textOf).filter (· ≠ []) := by
      rw [List.filter_map]
      rfl
    _ = (texts.map String.toList).filter (· ≠ []) := by rw [h]
    _ = _ := by
      rw [List.filter_map]
      exact congrArg _ (List.filter_congr fun t _ => empty t)

/-- A file is written piece by piece. -/
theorem File.toList_render (f : File) : f.render.toList = textOf f.pieces := by
  have parts : [[Piece.of .header ("\n".intercalate f.header)],
      [Piece.of .imports ("\n".intercalate f.imports)], f.body].map textOf =
      ["\n".intercalate f.header, "\n".intercalate f.imports,
        "\n\n\n".intercalate f.sections].map String.toList := by
    simp only [List.map_cons, List.map_nil, textOf_of, f.textOf_body]
  rw [pieces, textOf_append, textOf_map_detab, textOf_joined, map_textOf_filter parts, render,
    String.toList_append, detab, String.toList_ofList, String.toList_intercalate]
  rfl

/-! ### Pieces of a role -/

/-- Whether a piece stands around the docstrings, fields, blocks and functions. -/
def Role.isFrame : Role → Bool
  | .gap | .header | .imports | .heading | .filler => true
  | _ => false

section Role

variable {r : Role}

theorem Role.ne_of_isFrame (h : r.isFrame = false) {r' : Role} (h' : r'.isFrame = true) :
    r' ≠ r := by
  rintro rfl
  rw [h] at h'
  cases h'

theorem Role.ne_gap (h : r.isFrame = false) : r ≠ .gap :=
  (Role.ne_of_isFrame h (show Role.isFrame .gap = true from rfl)).symm

theorem textsOf_frame (h : r.isFrame = false) {p : Piece} (frame : p.role.isFrame = true) :
    textsOf r [p] = [] := by
  rw [textsOf_singleton, if_neg (Role.ne_of_isFrame h frame)]

theorem textsOf_docstringPieces (h : r ≠ .docstring) (docstring : Option String) :
    (docstringPieces docstring).flatMap (textsOf r) = [] := by
  rw [docstringPieces, List.flatMap_map, List.flatMap_eq_nil_iff]
  intro s hs
  rw [textsOf_of, if_neg h.symm]

theorem Function.textsOf_pieces (h : r.isFrame = false) (f : Function) :
    textsOf r f.pieces = textsOf r [.of .signature (f.signature ++ ":")] ++
      ((docstringPieces f.docstring).flatMap (textsOf r) ++
        textsOf r [.of .body f.code.render]).map Text.indent := by
  rw [pieces, textsOf_joined (Role.ne_gap h), List.flatMap_cons, List.flatMap_singleton, indented,
    textsOf_map, textsOf_joined (Role.ne_gap h), List.flatMap_append, List.flatMap_singleton]

theorem Class.textsOf_eq_flatMap_parts (h : r.isFrame = false) (c : Class) :
    textsOf r c.pieces = (c.parts.flatMap (textsOf r)).map Text.indent := by
  have heading : textsOf r [.of .heading (c.heading ++ ":")] = [] := textsOf_frame h rfl
  have inner : textsOf r (if c.parts.isEmpty then [.of .filler "pass"] else joined 2 c.parts) =
      c.parts.flatMap (textsOf r) := by
    split
    next empty =>
      rw [List.isEmpty_iff.mp empty]
      exact textsOf_frame h rfl
    next => exact textsOf_joined (Role.ne_gap h) 2 c.parts
  rw [pieces, textsOf_joined (Role.ne_gap h), List.flatMap_cons, List.flatMap_singleton, heading,
    List.nil_append, indented, textsOf_map, inner]

/-- The fields, blocks and functions of a class are in the order in which they are written. -/
structure Class.IsSorted (c : Class) : Prop where
  fields : c.parameters.Pairwise fun p q => q.order ≤ p.order
  members : (c.blocks.map Block.order ++ c.functions.values.map Function.order).Pairwise
    fun i j => j ≤ i

theorem Class.IsSorted.textsOf_pieces (h : r.isFrame = false) {c : Class} (sorted : c.IsSorted) :
    textsOf r c.pieces =
      ((docstringPieces c.docstring).flatMap (textsOf r) ++
        (c.parameters.flatMap (fun p => textsOf r [.of .field p.render]) ++
          (c.blocks.flatMap (fun b => textsOf r [.of .block b.render]) ++
            c.functions.values.flatMap fun f => textsOf r f.pieces))).map Text.indent := by
  -- What is in order already is not moved.
  have orderedFields : byOrder (c.parameters.map fun p => (p.order, [Piece.of .field p.render])) =
      c.parameters.map fun p => [.of .field p.render] := by
    rw [byOrder_of_pairwise (List.pairwise_map.mpr sorted.fields), List.map_map]
    rfl
  have orderedMembers : byOrder (c.blocks.map (fun b => (b.order, [Piece.of .block b.render])) ++
      c.functions.values.map fun f => (f.order, f.pieces)) =
      c.blocks.map (fun b => [.of .block b.render]) ++ c.functions.values.map Function.pieces := by
    rw [byOrder_of_pairwise, List.map_append, List.map_map, List.map_map]
    · rfl
    · rw [← List.pairwise_map (f := Prod.fst) (R := fun i j => j ≤ i), List.map_append,
        List.map_map, List.map_map]
      exact sorted.members
  rw [textsOf_eq_flatMap_parts h, parts, orderedFields, orderedMembers, List.flatMap_append,
    List.flatMap_append, List.append_assoc, List.flatMap_append, List.flatMap_map, List.flatMap_map]
  congr 3
  split
  next empty => rw [List.isEmpty_iff.mp empty]; rfl
  next => rw [List.flatMap_singleton, textsOf_joined (Role.ne_gap h), List.flatMap_map]

theorem mem_joined {count : Nat} {parts : List (List Piece)} {ps : List Piece} (hps : ps ∈ parts)
    {p : Piece} (hp : p ∈ ps) : p ∈ joined count parts := by
  induction parts with
  | nil => cases hps
  | cons qs parts ih =>
      cases parts with
      | nil => rwa [joined_singleton, ← List.mem_singleton.mp hps]
      | cons next parts =>
          rw [joined_cons_cons]
          rcases List.mem_cons.mp hps with rfl | hps
          · exact List.mem_append_left _ hp
          · exact List.mem_append_right _ (List.mem_cons_of_mem _ (ih hps))

theorem File.textOf_body_ne_nil {f : File} {k : Class} (hk : Section.decl k ∈ f.inOrder) :
    textOf f.body ≠ [] := by
  have heading : Piece.of .heading (k.heading ++ ":") ∈ f.body :=
    mem_joined (List.mem_map_of_mem hk)
      (mem_joined List.mem_cons_self (List.mem_singleton_self _) : _ ∈ k.pieces)
  intro empty
  -- The heading of a class ends in a colon.
  have none := List.flatMap_eq_nil_iff.mp empty _ heading
  simp [Piece.of] at none

/-- A file with a class is written in the order of its sections. -/
theorem File.textsOf_pieces (h : r.isFrame = false) {f : File} {k : Class}
    (hk : Section.decl k ∈ f.inOrder) :
    textsOf r f.pieces = (f.inOrder.flatMap fun s => textsOf r s.pieces).map Text.detab := by
  have header : textsOf r [.of .header ("\n".intercalate f.header)] = [] := textsOf_frame h rfl
  have imports : textsOf r [.of .imports ("\n".intercalate f.imports)] = [] := textsOf_frame h rfl
  have last : textsOf r [gap 1] = [] := textsOf_frame h rfl
  have kept : [f.body].filter (textOf · ≠ []) = [f.body] := by
    simp [textOf_body_ne_nil hk]
  -- The sections stay, and the other two parts do not count.
  have parts : ([[.of .header ("\n".intercalate f.header)],
      [.of .imports ("\n".intercalate f.imports)], f.body].filter (textOf · ≠ [])).flatMap
        (textsOf r) = textsOf r f.body := by
    rw [List.filter_cons, List.filter_cons, kept]
    split
    · split
      · simp only [List.flatMap_cons, List.flatMap_nil, header, imports, List.nil_append,
          List.append_nil]
      · simp only [List.flatMap_cons, List.flatMap_nil, header, List.nil_append, List.append_nil]
    · split
      · simp only [List.flatMap_cons, List.flatMap_nil, imports, List.nil_append, List.append_nil]
      · rw [List.flatMap_singleton]
  rw [pieces, textsOf_append, last, List.append_nil, textsOf_map, textsOf_joined (Role.ne_gap h),
    parts, body, textsOf_joined (Role.ne_gap h), List.flatMap_map]

end Role

theorem flatMap_nil_fun {α β : Type} (xs : List α) : xs.flatMap (fun _ => ([] : List β)) = [] :=
  List.flatMap_eq_nil_iff.mpr fun _ _ => rfl

/-- The docstrings of a section are those of the code. -/
theorem textsOf_docstringPieces_self (docstring : Option String) :
    (docstringPieces docstring).flatMap (textsOf .docstring) =
      (docstringSection docstring).map String.toList := by
  rw [docstringPieces, List.flatMap_map]
  simp only [textsOf_of, if_pos, ← List.map_eq_flatMap]

namespace Class.IsSorted

variable {c : Class} (h : c.IsSorted)
include h

theorem textsOf_docstring :
    textsOf .docstring c.pieces =
      (docstringSection c.docstring).map (fun s => Text.indent s.toList) ++
        c.functions.values.flatMap fun f =>
          (docstringSection f.docstring).map fun s => Text.indent (Text.indent s.toList) := by
  have functions (f : Function) : textsOf .docstring f.pieces =
      (docstringSection f.docstring).map fun s => Text.indent s.toList := by
    rw [f.textsOf_pieces rfl, textsOf_of, textsOf_of, textsOf_docstringPieces_self]
    simp
  rw [h.textsOf_pieces rfl, textsOf_docstringPieces_self]
  simp only [functions, textsOf_of, reduceCtorEq, if_false, flatMap_nil_fun, List.nil_append,
    List.map_append, List.map_map, List.map_flatMap]
  rfl

theorem textsOf_field :
    textsOf .field c.pieces = c.parameters.map fun p => Text.indent p.render.toList := by
  have functions (f : Function) : textsOf .field f.pieces = [] := by
    rw [f.textsOf_pieces rfl, textsOf_of, textsOf_of, textsOf_docstringPieces (by decide)]
    rfl
  rw [h.textsOf_pieces rfl, textsOf_docstringPieces (by decide)]
  simp [functions, textsOf_of, flatMap_nil_fun, ← List.map_eq_flatMap]

theorem textsOf_block :
    textsOf .block c.pieces = c.blocks.map fun b => Text.indent b.render.toList := by
  have functions (f : Function) : textsOf .block f.pieces = [] := by
    rw [f.textsOf_pieces rfl, textsOf_of, textsOf_of, textsOf_docstringPieces (by decide)]
    rfl
  rw [h.textsOf_pieces rfl, textsOf_docstringPieces (by decide)]
  simp [functions, textsOf_of, flatMap_nil_fun, ← List.map_eq_flatMap]

theorem textsOf_signature :
    textsOf .signature c.pieces =
      c.functions.values.map fun f => Text.indent (f.signature ++ ":").toList := by
  have functions (f : Function) : textsOf .signature f.pieces = [(f.signature ++ ":").toList] := by
    rw [f.textsOf_pieces rfl, textsOf_of, textsOf_of, textsOf_docstringPieces (by decide)]
    rfl
  rw [h.textsOf_pieces rfl, textsOf_docstringPieces (by decide)]
  simp [functions, textsOf_of, flatMap_nil_fun, ← List.map_eq_flatMap]

theorem textsOf_body :
    textsOf .body c.pieces =
      c.functions.values.map fun f => Text.indent (Text.indent f.code.render.toList) := by
  have functions (f : Function) : textsOf .body f.pieces = [Text.indent f.code.render.toList] := by
    rw [f.textsOf_pieces rfl, textsOf_of, textsOf_of, textsOf_docstringPieces (by decide)]
    rfl
  rw [h.textsOf_pieces rfl, textsOf_docstringPieces (by decide)]
  simp [functions, textsOf_of, flatMap_nil_fun, ← List.map_eq_flatMap]

end Class.IsSorted

end ContractClient.Code
