import ContractClient.Proofs.Identifier.ClassName
import ContractClient.Proofs.Text.Trim

/-!
# The text of an element type

A type text is read in two ways.  `TypeRef.parse` takes an array marker off behind
the last colon, and `TypeRef.elementText` takes it off the whole text.  What is left
of the two is the same text up to blanks, so a reference keeps its names
(`parse_elementText_name`, `parse_elementText_localName`).

A text that reads as a primitive is left as a primitive too
(`primitive_parse_elementText`).  The converse does not hold: of two markers one is
left, and a blank in front of the marker is trimmed only once the marker is gone.
-/

namespace ContractClient.Identifier

/-! ## The part behind the last colon -/

theorem lastSegment_of_not_mem {cs : List Char} (h : ':' ∉ cs) : lastSegment cs = cs := by
  rw [lastSegment, segments, List.splitOn_eq_singleton h]
  rfl

theorem lastSegment_append_colon (front back : List Char) :
    lastSegment (front ++ ':' :: back) = lastSegment back := by
  rw [lastSegment, lastSegment, segments, segments, List.splitOn_append_cons_self,
    List.getLast?_append, List.getLast?_eq_some_getLast (List.splitOn_ne_nil ':' back),
    Option.some_or]

/-- In front of the last part there is nothing, or a text that ends in a colon. -/
theorem exists_front (cs : List Char) :
    ':' ∉ lastSegment cs ∧
      (cs = lastSegment cs ∨ ∃ front, cs = front ++ ':' :: lastSegment cs) := by
  by_cases colon : ':' ∈ cs
  · obtain ⟨after, before, split, none⟩ :=
      List.eq_append_cons_of_mem (List.mem_reverse.mpr colon)
    have whole : cs = before.reverse ++ ':' :: after.reverse := by
      rw [← List.reverse_reverse cs, split]
      simp
    have apart : ':' ∉ after.reverse := by simpa using none
    have last : lastSegment cs = after.reverse := by
      rw [whole, lastSegment_append_colon, lastSegment_of_not_mem apart]
    rw [last]
    exact ⟨apart, Or.inr ⟨before.reverse, whole⟩⟩
  · rw [lastSegment_of_not_mem colon]
    exact ⟨colon, Or.inl rfl⟩

theorem lastSegment_suffix (cs : List Char) : lastSegment cs <:+ cs := by
  rcases (exists_front cs).2 with whole | ⟨front, whole⟩
  · exact ⟨[], whole.symm⟩
  · exact ⟨front ++ [':'], by rw [List.append_assoc, List.singleton_append, ← whole]⟩

/-- What has no colon is added to the last part. -/
theorem lastSegment_append {ds : List Char} (h : ':' ∉ ds) (cs : List Char) :
    lastSegment (cs ++ ds) = lastSegment cs ++ ds := by
  obtain ⟨apart, whole⟩ := exists_front cs
  have none : ':' ∉ lastSegment cs ++ ds := by simp [apart, h]
  rcases whole with whole | ⟨front, whole⟩
  · rw [← whole] at none ⊢
    exact lastSegment_of_not_mem none
  · have split : cs ++ ds = front ++ ':' :: (lastSegment cs ++ ds) := by
      rw [← List.cons_append, ← List.append_assoc, ← whole]
    rw [split, lastSegment_append_colon, lastSegment_of_not_mem none]

/-- The blanks at the end of a text are those at the end of its last part. -/
theorem lastSegment_trimRight (cs : List Char) :
    lastSegment (Text.trimRight cs) = Text.trimRight (lastSegment cs) := by
  obtain ⟨apart, whole⟩ := exists_front cs
  have none : ':' ∉ Text.trimRight (lastSegment cs) := by
    obtain ⟨back, split, -⟩ := Text.exists_trimRight (lastSegment cs)
    rw [split] at apart
    exact fun colon => apart (List.mem_append_left back colon)
  rcases whole with whole | ⟨front, whole⟩
  · rw [← whole] at none ⊢
    exact lastSegment_of_not_mem none
  · have kept : Text.trimRight (front ++ ':' :: lastSegment cs) =
        front ++ ':' :: Text.trimRight (lastSegment cs) := by
      rw [Text.trimRight_append_of_visible (by rw [List.all_cons]; rfl),
        Text.trimRight_cons (by decide)]
    rw [← whole] at kept
    rw [kept, lastSegment_append_colon, lastSegment_of_not_mem none]

end ContractClient.Identifier

namespace ContractClient.TypeRef

open Identifier

seal className typeName Primitive.ofToken? counts

/-! ## Array markers -/

/-- A marker at the end of a text is one at the end of its last part. -/
theorem cutArray_lastSegment (cs : List Char) :
    (cutArray (lastSegment cs)).1 = lastSegment (cutArray cs).1 := by
  by_cases marked : arraySuffix <:+ cs
  · obtain ⟨front, rfl⟩ := marked
    rw [lastSegment_append (by decide), cutArray_append, cutArray_append]
  · rw [cutArray_of_not_suffix marked,
      cutArray_of_not_suffix fun last => marked (last.trans (lastSegment_suffix cs))]

theorem cutArray_prefix (cs : List Char) : (cutArray cs).1 <+: cs := by
  by_cases marked : arraySuffix <:+ cs
  · obtain ⟨front, rfl⟩ := marked
    rw [cutArray_append]
    exact List.prefix_append _ _
  · rewrite [cutArray_of_not_suffix marked]
    exact List.prefix_refl _

/-! ## Names -/

/-- What counts in a type text counts in its element text. -/
theorem filter_elementText (raw : String) :
    (elementText raw).toList.filter counts = raw.toList.filter counts := by
  rw [elementText, String.toList_ofList, filter_cutArray, filter_trim fun c => counts_of_isBlank]

theorem typeName_localPart_elementText (raw : String) :
    typeName (localPart (elementText raw)) = typeName (localPart raw) := by
  have counted : ∀ s : String, typeName (localPart s) =
      typeName (.ofList (lastSegment (s.toList.filter counts))) := by
    intro s
    rw [filter_lastSegment counts_colon, typeName_filter fun c => counts_of_isContinue]
    rfl
  rw [counted, counted, filter_elementText]

/-! ## Primitives -/

/-- Behind the last colon the element text has what the text has there, with the blanks
in front of the marker trimmed, and a further marker taken off. -/
theorem elementPart_elementText (raw : String) :
    elementPart (elementText raw) = (cutArray (Text.trimRight (elementPart raw))).1 := by
  have part : elementPart raw = lastSegment (cutArray (Text.trim raw.toList)).1 :=
    cutArray_lastSegment _
  have trimmed : Text.trimLeft (cutArray (Text.trim raw.toList)).1 =
      (cutArray (Text.trim raw.toList)).1 := by
    apply Text.dropWhile_isBlank_eq_self
    intro c hc
    obtain ⟨rest, whole⟩ := cutArray_prefix (Text.trim raw.toList)
    have first : (Text.trim raw.toList).head? = some c := by
      rw [← whole, List.head?_append, hc, Option.some_or]
    exact Text.head?_trim first
  rw [part, ← lastSegment_trimRight, elementPart, elementText, String.toList_ofList, Text.trim,
    trimmed]

/-- The name of a schema type has no blank at its end. -/
theorem trimRight_token {token : List Char} {k : Primitive}
    (h : Primitive.ofToken? (.ofList token) = some k) : Text.trimRight token = token := by
  have letters := isStart_of_ofToken? h
  rw [String.toList_ofList] at letters
  apply Text.trimRight_eq_self
  intro c hc
  exact isBlank_of_isContinue (isContinue_of_isStart (letters c (List.mem_of_getLast? hc)))

/-- The name of a schema type has no marker at its end. -/
theorem cutArray_token {token : List Char} {k : Primitive}
    (h : Primitive.ofToken? (.ofList token) = some k) : cutArray token = (token, false) := by
  have letters := isStart_of_ofToken? h
  rw [String.toList_ofList] at letters
  apply cutArray_of_not_suffix
  rintro ⟨front, rfl⟩
  have bracket := isContinue_of_isStart (letters ']' (by simp [arraySuffix]))
  rw [isContinue_of_mem_marks (by decide)] at bracket
  cases bracket

theorem primitive_parse_elementText {raw : String} {k : Primitive}
    (h : (parse raw).primitive = some k) : (parse (elementText raw)).primitive = some k := by
  rw [primitive_parse] at h ⊢
  rw [elementPart_elementText, trimRight_token h, cutArray_token h, h]

theorem isPrimitive_of_elementText {raw : String}
    (h : (parse (elementText raw)).isPrimitive = false) : (parse raw).isPrimitive = false := by
  cases kind : (parse raw).primitive with
  | none => rw [isPrimitive, kind]; rfl
  | some k => rw [isPrimitive, primitive_parse_elementText kind] at h; cases h

/-- A reference to the element type that is not primitive has the names of the
reference itself. -/
theorem parse_elementText_name {raw : String}
    (h : (parse (elementText raw)).isPrimitive = false) :
    (parse (elementText raw)).name = (parse raw).name := by
  rw [parse_name h, parse_name (isPrimitive_of_elementText h)]
  exact className_congr (filter_elementText raw)

theorem parse_elementText_localName {raw : String}
    (h : (parse (elementText raw)).isPrimitive = false) :
    (parse (elementText raw)).localName = (parse raw).localName := by
  rw [parse_localName h, parse_localName (isPrimitive_of_elementText h)]
  exact typeName_localPart_elementText raw

end ContractClient.TypeRef
