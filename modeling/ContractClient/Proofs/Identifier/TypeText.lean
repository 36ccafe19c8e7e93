import ContractClient.Proofs.Identifier.ElementText
import ContractClient.Proofs.Identifier.Roles

/-!
# Readings of a type text

A type text is read in several ways: as the name of a class that is declared, as a
reference to it, with an array marker and without one.

*Declarations and references.*  A reference that is not primitive has the names of the
class that the same text declares, and a marker behind a text makes an array and changes
nothing else (`references_name_declared_classes`).

*Element types.*  The element text of a type text is read once more when it is looked up.
Both readings give the same names and the same kind, unless a schema type is *covered*: it
is parted from its array marker by blanks or by another marker.  What is left of the text
is compared with the schema types as it is, so the text reads as a class, and only its
element text reads as the schema type (`element_readings_agree_iff`).  In the name of a
class neither blanks nor markers count, so references to classes are not concerned.
-/

namespace ContractClient.TypeRef

open Identifier

seal className typeName Primitive.ofToken? counts

variable {raw : String} {k : Primitive}

/-! ## The two kinds of references -/

/-- A text whose last part is a schema type reads as a primitive. -/
theorem parse_of_token (h : Primitive.ofToken? (.ofList (elementPart raw)) = some k) :
    parse raw = ofKind k (hasMarker raw) := by
  rw [parse_eq, h]

/-- Any other text reads as the class that it declares. -/
theorem parse_of_class (h : Primitive.ofToken? (.ofList (elementPart raw)) = none) :
    parse raw =
      { name := className raw
        localName := typeName (localPart raw)
        primitive := none
        isArray := hasMarker raw } := by
  have kind : (parse raw).isPrimitive = false := by rw [isPrimitive, primitive_parse, h]; rfl
  have name := parse_name kind
  have local' := parse_localName kind
  rw [parse_eq, h] at name local' ⊢
  dsimp only at name local'
  rw [name, local']

/-! ## A marker behind a text -/

/-- In front of the local part there is nothing, or a text that ends in a colon. -/
theorem exists_localPart (raw : String) :
    ':' ∉ (localPart raw).toList ∧
      (raw = localPart raw ∨ ∃ front, raw = front ++ ":" ++ localPart raw) := by
  have part : (localPart raw).toList = lastSegment raw.toList := String.toList_ofList
  obtain ⟨apart, whole⟩ := exists_front raw.toList
  rw [← part] at apart whole
  refine ⟨apart, ?_⟩
  rcases whole with whole | ⟨front, whole⟩
  · exact .inl (String.toList_inj.mp whole)
  · refine .inr ⟨.ofList front, String.toList_inj.mp ?_⟩
    simpa using whole

section Marker

variable (visible : ∀ c, raw.toList.getLast? = some c → Text.isBlank c = false)
include visible

/-- A marker behind a visible end stands behind the last part. -/
theorem lastSegment_append_marker :
    lastSegment (Text.trim (raw ++ "[]").toList) =
      lastSegment (Text.trim raw.toList) ++ arraySuffix := by
  have marker : ("[]" : String).toList = arraySuffix := rfl
  have first : ∀ c, arraySuffix.head? = some c → Text.isBlank c = false := by
    rintro c ⟨⟩
    rfl
  have last : ∀ c, arraySuffix.getLast? = some c → Text.isBlank c = false := by
    rintro c ⟨⟩
    rfl
  rw [String.toList_append, marker, Text.trim_append_of_visible visible first last,
    lastSegment_append (by decide)]

theorem hasMarker_append_marker : hasMarker (raw ++ "[]") = true := by
  rw [hasMarker, lastSegment_append_marker visible, cutArray_append]

theorem elementPart_append_marker (unmarked : ¬ arraySuffix <:+ raw.toList) :
    elementPart (raw ++ "[]") = elementPart raw := by
  have bare : ¬ arraySuffix <:+ lastSegment (Text.trim raw.toList) := fun marked =>
    unmarked ((marked.trans (lastSegment_suffix _)).trans (Text.trim_suffix visible))
  rw [elementPart, elementPart, lastSegment_append_marker visible, cutArray_append,
    cutArray_of_not_suffix bare]

/-- A marker makes an array and changes nothing else. -/
theorem parse_append_marker (unmarked : ¬ arraySuffix <:+ raw.toList) :
    parse (raw ++ "[]") = { parse raw with isArray := true } := by
  have part := elementPart_append_marker visible unmarked
  have marked := hasMarker_append_marker visible
  have same : Primitive.ofToken? (.ofList (elementPart (raw ++ "[]"))) =
      Primitive.ofToken? (.ofList (elementPart raw)) := by rw [part]
  cases kind : Primitive.ofToken? (.ofList (elementPart raw)) with
  | some k =>
      calc parse (raw ++ "[]") = ofKind k true := by rw [parse_of_token (same.trans kind), marked]
        _ = { parse raw with isArray := true } := by rw [parse_of_token kind]; rfl
  | none =>
      have name : className (raw ++ "[]") = className raw := by
        apply className_congr
        have counted := filter_cutArray (raw.toList ++ arraySuffix)
        rw [cutArray_append] at counted
        rw [String.toList_append]
        exact counted.symm
      have local' : typeName (localPart (raw ++ "[]")) = typeName (localPart raw) := by
        rw [← typeName_elementPart, part, typeName_elementPart]
      calc parse (raw ++ "[]")
          = { name := className raw
              localName := typeName (localPart raw)
              primitive := none
              isArray := true } := by
            rw [parse_of_class (same.trans kind), name, local', marked]
        _ = { parse raw with isArray := true } := by rw [parse_of_class kind]

end Marker

/-- A reference that is not primitive has the name of the class that its text declares,
and the local name of what stands behind the last colon.  A class name declares itself, and
a marker behind a text that ends visibly and has no marker makes an array. -/
theorem references_name_declared_classes (raw : String) :
    ((parse raw).isPrimitive = false →
      (parse raw).name = className raw ∧ (parse raw).localName = typeName (localPart raw)) ∧
    (':' ∉ (localPart raw).toList ∧
      (raw = localPart raw ∨ ∃ front, raw = front ++ ":" ++ localPart raw)) ∧
    className (className raw) = className raw ∧
    ((∀ c, raw.toList.getLast? = some c → Text.isBlank c = false) →
      ¬ arraySuffix <:+ raw.toList → parse (raw ++ "[]") = { parse raw with isArray := true }) :=
  ⟨fun kind => ⟨parse_name kind, parse_localName kind⟩, exists_localPart raw,
    className_className raw, parse_append_marker⟩

/-- A text with a blank in front, a character that no name holds, and a local name that
generated modules use themselves. -/
theorem references_name_spaced_list :
    (parse " my-ns:List").isPrimitive = false ∧
    (parse " my-ns:List").name = className " my-ns:List" ∧
    (parse " my-ns:List").localName = typeName (localPart " my-ns:List") ∧
    className " my-ns:List" = "myns_List_" ∧ localPart " my-ns:List" = "List" ∧
    parse (" my-ns:List" ++ "[]") = { parse " my-ns:List" with isArray := true } := by
  have kind : (parse " my-ns:List").isPrimitive = false := by decide +kernel
  have last : " my-ns:List".toList.getLast? = some 't' := by decide
  obtain ⟨names, -, -, marked⟩ := references_name_declared_classes " my-ns:List"
  refine ⟨kind, (names kind).1, (names kind).2, by decide +kernel, by decide +kernel, ?_⟩
  apply marked
  · intro c hc
    rw [last] at hc
    cases hc
    rfl
  · decide

/-! ## Covered schema types -/

/-- What parts a schema type from an array marker: blanks, or a marker and perhaps
blanks. -/
inductive IsCover : List Char → Prop where
  | blanks {cs : List Char} (blank : cs.all Text.isBlank = true) (nonempty : cs ≠ []) :
      IsCover cs
  | marker {cs : List Char} (blank : cs.all Text.isBlank = true) : IsCover (arraySuffix ++ cs)

/-- Behind the last colon of a text stands a schema type of a kind, a cover, and an array
marker. -/
def IsCovered (raw : String) (k : Primitive) : Prop :=
  ∃ token cover, Primitive.ofToken? (.ofList token) = some k ∧ IsCover cover ∧
    lastSegment (Text.trim raw.toList) = token ++ cover ++ arraySuffix

theorem IsCover.exists_mem {cover : List Char} (h : IsCover cover) :
    ∃ c ∈ cover, isContinue c = false := by
  cases h with
  | blanks blank nonempty =>
      obtain ⟨c, hc⟩ := List.exists_mem_of_ne_nil cover nonempty
      exact ⟨c, hc, isContinue_of_isBlank (List.all_eq_true.mp blank c hc)⟩
  | marker => exact ⟨'[', List.mem_cons_self, isContinue_of_mem_marks (by decide)⟩

/-- A schema type with a cover is no schema type. -/
theorem ofToken?_append_cover {token cover : List Char} (h : IsCover cover) :
    Primitive.ofToken? (.ofList (token ++ cover)) = none := by
  rw [Option.eq_none_iff_forall_ne_some]
  intro k found
  obtain ⟨c, hc, stops⟩ := h.exists_mem
  have letters := isStart_of_ofToken? found
  rw [String.toList_ofList] at letters
  have starts := isContinue_of_isStart (letters c (List.mem_append_right token hc))
  rw [stops] at starts
  cases starts

/-- Trimming and taking a marker off uncovers a schema type. -/
theorem cutArray_trimRight_cover {token cover : List Char}
    (h : Primitive.ofToken? (.ofList token) = some k) (covers : IsCover cover) :
    (cutArray (Text.trimRight (token ++ cover))).1 = token := by
  cases covers with
  | blanks blank =>
      rw [Text.trimRight_append_of_blank blank, trimRight_token h, cutArray_token h]
  | @marker cs blank =>
      have visible : Text.trimRight (token ++ arraySuffix) = token ++ arraySuffix := by
        apply Text.trimRight_eq_self
        rw [List.getLast?_append]
        rintro c ⟨⟩
        rfl
      rw [← List.append_assoc, Text.trimRight_append_of_blank blank, visible, cutArray_append]

/-- Trimming and taking a marker off leaves a schema type as it is, or uncovers it. -/
theorem eq_or_cover_of_cutArray_trimRight {cs token : List Char}
    (h : (cutArray (Text.trimRight cs)).1 = token) :
    cs = token ∨ ∃ cover, IsCover cover ∧ cs = token ++ cover := by
  obtain ⟨back, split, blank⟩ := Text.exists_trimRight cs
  by_cases marked : arraySuffix <:+ Text.trimRight cs
  · obtain ⟨front, whole⟩ := marked
    rw [← whole, cutArray_append] at h
    refine .inr ⟨arraySuffix ++ back, .marker blank, ?_⟩
    rw [split, ← whole, ← h, List.append_assoc]
  · have uncut : Text.trimRight cs = token := by rw [← h, cutArray_of_not_suffix marked]
    rw [uncut] at split
    cases back with
    | nil => exact .inl (split.trans (List.append_nil token))
    | cons c cs => exact .inr ⟨c :: cs, .blanks blank (List.cons_ne_nil c cs), split⟩

/-! ## Two readings of an element type -/

theorem hasMarker_iff :
    hasMarker raw = true ↔ arraySuffix <:+ lastSegment (Text.trim raw.toList) := by
  constructor
  · intro h
    by_contra bare
    rw [hasMarker, cutArray_of_not_suffix bare] at h
    cases h
  · rintro ⟨front, whole⟩
    rw [hasMarker, ← whole, cutArray_append]

theorem lastSegment_of_hasMarker (h : hasMarker raw = true) :
    lastSegment (Text.trim raw.toList) = elementPart raw ++ arraySuffix := by
  obtain ⟨front, whole⟩ := hasMarker_iff.mp h
  rw [elementPart, ← whole, cutArray_append]

/-- A text without a marker is its own element text. -/
theorem elementPart_elementText_of_unmarked (h : hasMarker raw = false) :
    elementPart (elementText raw) = elementPart raw := by
  have bare : ¬ arraySuffix <:+ lastSegment (Text.trim raw.toList) := fun marked => by
    rw [hasMarker_iff.mpr marked] at h
    cases h
  have part : elementPart raw = lastSegment (Text.trim raw.toList) := by
    rw [elementPart, cutArray_of_not_suffix bare]
  have trimmed : Text.trimRight (Text.trim raw.toList) = Text.trim raw.toList :=
    Text.trimRight_eq_self fun c => Text.getLast?_trimRight
  rw [elementPart_elementText, part, ← lastSegment_trimRight, trimmed,
    cutArray_of_not_suffix bare]

/-- A covered schema type reads as a class in the text, and as a primitive in the element
text. -/
theorem readings_of_covered (h : IsCovered raw k) :
    (parse (elementText raw)).primitive = some k ∧
      parse raw =
        { name := className raw
          localName := typeName (localPart raw)
          primitive := none
          isArray := true } := by
  obtain ⟨token, cover, kind, covers, whole⟩ := h
  have part : elementPart raw = token ++ cover := by rw [elementPart, whole, cutArray_append]
  have marked : hasMarker raw = true := by rw [hasMarker, whole, cutArray_append]
  constructor
  · rw [primitive_parse, elementPart_elementText, part, cutArray_trimRight_cover kind covers, kind]
  · have none : Primitive.ofToken? (.ofList (elementPart raw)) = none := by
      rw [part]
      exact ofToken?_append_cover covers
    rw [parse_of_class none, marked]

/-- An element text that reads as a primitive comes from a text that does, or from a
covered schema type. -/
theorem primitive_or_covered (h : (parse (elementText raw)).primitive = some k) :
    (parse raw).primitive = some k ∨ IsCovered raw k := by
  rw [primitive_parse] at h ⊢
  cases marked : hasMarker raw with
  | false =>
      rw [elementPart_elementText_of_unmarked marked] at h
      exact .inl h
  | true =>
      -- The schema type is what trimming and cutting leave of the part behind the colon.
      rcases eq_or_cover_of_cutArray_trimRight (elementPart_elementText raw).symm with
        same | ⟨cover, covers, whole⟩
      · rw [← same] at h
        exact .inl h
      · refine .inr ⟨_, cover, h, covers, ?_⟩
        rw [← whole, lastSegment_of_hasMarker marked]

/-- Two references have the same names and the same kind. -/
structure Agree (r r' : TypeRef) : Prop where
  name : r.name = r'.name
  localName : r.localName = r'.localName
  primitive : r.primitive = r'.primitive

theorem agree_ofKind (k : Primitive) (isArray isArray' : Bool) :
    Agree (ofKind k isArray) (ofKind k isArray') := ⟨rfl, rfl, rfl⟩

/-- References that agree lead to the same model. -/
theorem Agree.find? {r r' : TypeRef} (h : Agree r r') (g : Catalog) : g.find? r = g.find? r' := by
  rw [Catalog.find?, Catalog.find?, lookUp, lookUp, isPrimitive, isPrimitive, h.name, h.localName,
    h.primitive]

theorem agree_of_not_covered (h : ∀ k, ¬ IsCovered raw k) :
    Agree (parse (elementText raw)) (parse raw) := by
  cases kind : (parse (elementText raw)).primitive with
  | none =>
      have other : (parse (elementText raw)).isPrimitive = false := by rw [isPrimitive, kind]; rfl
      exact ⟨parse_elementText_name other, parse_elementText_localName other,
        kind.trans (primitive_eq_none (isPrimitive_of_elementText other)).symm⟩
  | some k =>
      have same := (primitive_or_covered kind).resolve_right (h k)
      rw [primitive_parse] at kind same
      rw [parse_of_token kind, parse_of_token same]
      exact agree_ofKind k _ _

/-- The element text of a type text reads with the names and the kind of the text exactly
if no schema type in it is covered, and then both lead to the same model of every catalog.
A covered schema type reads as a primitive in the element text, and as an array of the class
that the text declares in the text itself. -/
theorem element_readings_agree_iff (raw : String) :
    (Agree (parse (elementText raw)) (parse raw) ↔ ∀ k, ¬ IsCovered raw k) ∧
    ((∀ k, ¬ IsCovered raw k) →
      ∀ g : Catalog, g.find? (parse (elementText raw)) = g.find? (parse raw)) ∧
    ∀ k, IsCovered raw k →
      (parse (elementText raw)).primitive = some k ∧
      parse raw =
        { name := className raw
          localName := typeName (localPart raw)
          primitive := none
          isArray := true } := by
  refine ⟨⟨fun agree k covered => ?_, agree_of_not_covered⟩,
    fun uncovered => (agree_of_not_covered uncovered).find?, fun k => readings_of_covered⟩
  obtain ⟨kind, reading⟩ := readings_of_covered covered
  have same := agree.primitive
  rw [kind, reading] at same
  cases same

/-- A blank in front of the marker covers the schema type, and so does a second marker.
The element text reads as an integer, and the text as a class.  A blank behind the name of a
class covers nothing. -/
theorem element_readings_of_int :
    (IsCovered "xsd:int []" .integer ∧ IsCovered "int[][]" .integer ∧
      ¬ Agree (parse (elementText "xsd:int []")) (parse "xsd:int []") ∧
      (parse "xsd:int []").name = "xsd_int_" ∧
      ¬ Agree (parse (elementText "int[][]")) (parse "int[][]") ∧
      (parse (elementText "int[][]")).primitive = some .integer ∧
      parse "int[][]" = ⟨"int_", "int_", none, true⟩) ∧
    (∀ k, ¬ IsCovered "tns:Day []" k) ∧
    ∀ g : Catalog, g.find? (parse (elementText "tns:Day []")) = g.find? (parse "tns:Day []") := by
  have kind : Primitive.ofToken? (.ofList ['i', 'n', 't']) = some .integer := by decide +kernel
  have blank : IsCovered "xsd:int []" .integer :=
    ⟨['i', 'n', 't'], [' '], kind, .blanks (by decide) (by decide), by decide +kernel⟩
  have marker : IsCovered "int[][]" .integer :=
    ⟨['i', 'n', 't'], arraySuffix ++ [], kind, .marker rfl, by decide +kernel⟩
  have day : (parse (elementText "tns:Day []")).primitive = none := by decide +kernel
  have uncovered : ∀ k, ¬ IsCovered "tns:Day []" k := fun k covered => by
    rw [(readings_of_covered covered).1] at day
    cases day
  obtain ⟨agree, -, covered⟩ := element_readings_agree_iff "xsd:int []"
  obtain ⟨agree', -, covered'⟩ := element_readings_agree_iff "int[][]"
  refine ⟨⟨blank, marker, fun same => agree.mp same _ blank, ?_,
    fun same => agree'.mp same _ marker, (covered' _ marker).1, ?_⟩, uncovered,
    (element_readings_agree_iff "tns:Day []").2.1 uncovered⟩
  · rw [(covered _ blank).2]
    decide +kernel
  · rw [(covered' _ marker).2]
    decide +kernel

end ContractClient.TypeRef
