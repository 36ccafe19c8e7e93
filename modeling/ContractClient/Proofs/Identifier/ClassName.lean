import ContractClient.Proofs.Identifier.Normal
import ContractClient.TypeRef

/-!
# Class names and references

A class is declared under one text and referred to by another, with an array
marker perhaps, and both are turned into names by separate functions.  Here they
are shown to agree: a reference that is not primitive has the identifier of the
class as its full name (`parse_name`), and the identifier of the part behind the
last colon as its local name (`parse_localName`).

The reason is that a name depends only on the colons of a text and on the
characters that can stand in an identifier (`className_eq`).  Blanks at the ends
and array markers are none of these.

A text that reads as a primitive has an identifier too, so a class may have such
a name (`className_ne_empty_of_primitive`).
-/

namespace ContractClient.Identifier

/-! ## The characters that count -/

/-- The characters on which a class name depends. -/
def counts (c : Char) : Bool := isContinue c || c == ':'

theorem counts_of_isContinue {c : Char} (h : isContinue c = true) : counts c = true := by
  rw [counts, h]
  rfl

theorem counts_colon : counts ':' = true := by
  rw [counts, Bool.or_eq_true]
  exact Or.inr (beq_self_eq_true _)

theorem counts_of_isBlank {c : Char} (h : Text.isBlank c = true) : counts c = false := by
  have differs : (c == ':') = false := by
    cases he : c == ':' with
    | false => rfl
    | true =>
        rw [beq_iff_eq.mp he] at h
        revert h
        decide
  rw [counts, isContinue_of_isBlank h, differs]
  rfl

theorem counts_brackets : counts '[' = false ∧ counts ']' = false := by
  have left : isContinue '[' = false := isContinue_of_mem_marks (by simp [marks])
  have right : isContinue ']' = false := isContinue_of_mem_marks (by simp [marks])
  rw [counts, counts, left, right]
  exact ⟨rfl, rfl⟩

/-! ## Trimming, splitting and joining under a filter -/

theorem filter_dropWhile {p q : Char → Bool} (h : ∀ c, p c = true → q c = false)
    (cs : List Char) : (cs.dropWhile p).filter q = cs.filter q := by
  induction cs with
  | nil => rfl
  | cons c cs ih =>
      cases hc : p c with
      | false => rw [List.dropWhile_cons_of_neg (by simp [hc])]
      | true =>
          rw [List.dropWhile_cons_of_pos hc, ih, List.filter_cons_of_neg (by simp [h c hc])]

/-- Trimming removes nothing that counts. -/
theorem filter_trim {q : Char → Bool} (h : ∀ c, Text.isBlank c = true → q c = false)
    (cs : List Char) : (Text.trim cs).filter q = cs.filter q := by
  rw [Text.trim, Text.trimRight, Text.trimLeft, List.filter_reverse, filter_dropWhile h,
    List.filter_reverse, List.reverse_reverse, filter_dropWhile h]

/-- A filter that keeps colons works part by part. -/
theorem segments_filter {q : Char → Bool} (h : q ':' = true) (cs : List Char) :
    segments (cs.filter q) = (segments cs).map (List.filter q) := by
  rw [segments, segments]
  induction cs with
  | nil => rfl
  | cons c cs ih =>
      rw [List.splitOn_cons_eq_if_modifyHead]
      by_cases hc : c = ':'
      · subst hc
        rw [List.filter_cons_of_pos h, List.splitOn_cons_eq_if_modifyHead, beq_self_eq_true, ih]
        rfl
      · have differs : (c == ':') = false := by simpa using hc
        rw [differs]
        obtain ⟨first, rest, hsplit⟩ := List.exists_cons_of_ne_nil (List.splitOn_ne_nil ':' cs)
        rw [hsplit] at ih ⊢
        cases hq : q c with
        | false =>
            rw [List.filter_cons_of_neg (by simp [hq]), ih]
            simp [hq]
        | true =>
            rw [List.filter_cons_of_pos hq, List.splitOn_cons_eq_if_modifyHead, differs, ih]
            simp [hq]

theorem filter_intercalate {q : Char → Bool} (h : q ':' = true) (parts : List (List Char)) :
    ([':'].intercalate parts).filter q = [':'].intercalate (parts.map (List.filter q)) := by
  induction parts with
  | nil => rfl
  | cons part parts ih =>
      cases parts with
      | nil => simp
      | cons next parts =>
          rw [List.intercalate_cons_cons, List.filter_append, List.filter_append, ih]
          simp [h]

theorem segments_ne_nil (cs : List Char) : segments cs ≠ [] := List.splitOn_ne_nil ':' cs

/-- The part behind the last colon. -/
def lastSegment (cs : List Char) : List Char := (segments cs).getLast?.getD []

theorem dropLast_append_lastSegment (cs : List Char) :
    (segments cs).dropLast ++ [lastSegment cs] = segments cs := by
  have last : lastSegment cs = (segments cs).getLast (segments_ne_nil cs) := by
    rw [lastSegment, List.getLast?_eq_some_getLast (segments_ne_nil cs)]
    rfl
  rw [last, List.dropLast_concat_getLast]

theorem filter_lastSegment {q : Char → Bool} (h : q ':' = true) (cs : List Char) :
    lastSegment (cs.filter q) = (lastSegment cs).filter q := by
  rw [lastSegment, lastSegment, segments_filter h, List.getLast?_map]
  cases (segments cs).getLast? with
  | none => rfl
  | some part => rfl

/-! ## The name of a class -/

theorem typeName_filter {p : Char → Bool} (hp : ∀ c, isContinue c = true → p c = true)
    (cs : List Char) : typeName (.ofList (cs.filter p)) = typeName (.ofList cs) := by
  rw [typeName, typeName, normalize_filter hp]

/-- The name that parts between colons give. -/
def nameOfSegments (parts : List (List Char)) : String :=
  let localName := typeName (.ofList (parts.getLast?.getD []))
  if localName = "" then ""
  else
    let spaces := (parts.dropLast.map fun p => normalize (.ofList p)).filter (· ≠ "")
    typeName ("_".intercalate (spaces ++ [localName]))

theorem nameOfSegments_filter {p : Char → Bool} (hp : ∀ c, isContinue c = true → p c = true)
    (parts : List (List Char)) :
    nameOfSegments (parts.map (List.filter p)) = nameOfSegments parts := by
  have last : typeName (.ofList ((parts.map (List.filter p)).getLast?.getD [])) =
      typeName (.ofList (parts.getLast?.getD [])) := by
    rw [List.getLast?_map]
    cases parts.getLast? with
    | none => rfl
    | some part => exact typeName_filter hp part
  have spaces : (parts.map (List.filter p)).dropLast.map (fun p => normalize (.ofList p)) =
      parts.dropLast.map fun p => normalize (.ofList p) := by
    rw [← List.map_dropLast, List.map_map]
    apply List.map_congr_left
    intro part _
    exact normalize_filter hp part
  rw [nameOfSegments, nameOfSegments, last, spaces]

/-- A class name depends only on the characters that count. -/
theorem className_eq (s : String) :
    className s = nameOfSegments (segments (s.toList.filter counts)) := by
  have name : className s = nameOfSegments (segments (Text.trim s.toList)) := rfl
  rw [name, ← nameOfSegments_filter (p := counts) (fun c => counts_of_isContinue),
    ← segments_filter counts_colon, filter_trim (fun c => counts_of_isBlank)]

theorem className_congr {s t : String} (h : s.toList.filter counts = t.toList.filter counts) :
    className s = className t := by
  rw [className_eq, className_eq, h]

/-- The identifier behind the last colon does not depend on trimming. -/
theorem typeName_lastSegment_trim (cs : List Char) :
    typeName (.ofList (lastSegment (Text.trim cs))) = typeName (.ofList (lastSegment cs)) := by
  have continues : ∀ c, isContinue c = true → counts c = true := fun c => counts_of_isContinue
  rw [← typeName_filter continues, ← filter_lastSegment counts_colon,
    filter_trim (fun c => counts_of_isBlank), filter_lastSegment counts_colon,
    typeName_filter continues]

/-! ## Names that are not empty -/

theorem typeName_eq_empty_iff {s : String} :
    typeName s = "" ↔ ∀ c ∈ s.toList, isStart c = false := by
  rw [← normalize_eq_empty_iff, typeName]
  split
  next taken =>
    constructor
    · intro h
      have chars := congrArg String.toList h
      simp at chars
    · intro h
      rw [h] at taken
      simp [moduleNames] at taken
  next => exact Iff.rfl

/-- A class name without namespaces that is not empty is an identifier. -/
theorem isIdentifier_typeName {s : String} (h : typeName s ≠ "") :
    isIdentifier (typeName s) = true := by
  have normal : normalize s ≠ "" := by
    rw [ne_eq, normalize_eq_empty_iff, ← typeName_eq_empty_iff]
    exact h
  have identifier := isIdentifier_normalize normal
  rw [typeName]
  split
  next => exact isIdentifier_append identifier (by decide)
  next => exact identifier

theorem mem_intercalate_of_mem_last {sep s : String} {c : Char} (h : c ∈ s.toList)
    (front : List String) : c ∈ (sep.intercalate (front ++ [s])).toList := by
  cases front with
  | nil => rwa [List.nil_append, String.intercalate_singleton]
  | cons first front =>
      rw [String.intercalate_append_of_ne_nil (by simp) (by simp), String.intercalate_singleton,
        String.toList_append]
      exact List.mem_append_right _ h

/-- A class has a name exactly if the part behind its last colon has one. -/
theorem nameOfSegments_eq_empty_iff {parts : List (List Char)} :
    nameOfSegments parts = "" ↔ typeName (.ofList (parts.getLast?.getD [])) = "" := by
  rw [nameOfSegments]
  dsimp only
  split
  next h => simp [h]
  next h =>
    constructor
    · intro empty
      -- The name behind the last colon is an identifier, and its first character
      -- is one of those that are joined.
      have identifier := isIdentifier_typeName h
      have nonempty := normalize_ne_empty_of_isIdentifier identifier
      rw [ne_eq, normalize_eq_empty_iff] at nonempty
      rw [typeName_eq_empty_iff] at empty
      exact absurd (fun c hc => empty c (mem_intercalate_of_mem_last hc _)) nonempty
    · intro empty
      exact absurd empty h

theorem className_eq_empty_iff {s : String} :
    className s = "" ↔ typeName (.ofList (lastSegment s.toList)) = "" := by
  have name : className s = nameOfSegments (segments (Text.trim s.toList)) := rfl
  rw [name, nameOfSegments_eq_empty_iff, ← typeName_lastSegment_trim]
  rfl

/-! ## Schema types -/

theorem isStart_of_letter {c : Char}
    (h : 65 ≤ c.toNat ∧ c.toNat ≤ 90 ∨ 97 ≤ c.toNat ∧ c.toNat ≤ 122) :
    isStart c = true := by
  have alpha : c.isAlpha = true := by
    change (decide (65 ≤ c.val ∧ c.val ≤ 90) ||
      (decide (97 ≤ c.val) && decide (c.val ≤ 122))) = true
    simp only [Bool.or_eq_true, Bool.and_eq_true, decide_eq_true_eq, UInt32.le_iff_toNat_le]
    exact h
  rw [isStart, alpha]
  rfl

theorem toNat_ofNat_of_lt {n : Nat} (h : n < 0xD800) : (Char.ofNat n).toNat = n := by
  rw [Char.ofNat, dif_pos (Or.inl h)]
  rfl

/-- Only a letter has a small letter as its lower-case form.  The KELVIN SIGN is one
too. -/
theorem isStart_of_lowerChar {c : Char} (h : 97 ≤ (Text.lowerChar c).toNat)
    (h' : (Text.lowerChar c).toNat ≤ 122) : isStart c = true := by
  by_cases kelvin : c.toNat = 0x212A
  · have sign : isStart (Char.ofNat 0x212A) = true := by decide +kernel
    rw [← kelvin, Char.ofNat_toNat] at sign
    exact sign
  · apply isStart_of_letter
    revert h h'
    simp only [Text.lowerChar]
    split
    next upper => intro _ _; exact Or.inl upper
    next =>
      split
      next cyrillic =>
        rw [toNat_ofNat_of_lt (by omega)]
        omega
      next =>
        split
        next cyrillic =>
          rw [toNat_ofNat_of_lt (by omega)]
          omega
        next => intro h h'; exact Or.inr ⟨h, h'⟩

/-- The name of a schema type consists of letters. -/
theorem isStart_of_ofToken? {s : String} {k : Primitive} (h : Primitive.ofToken? s = some k) :
    ∀ c ∈ s.toList, isStart c = true := by
  have table : ∀ k ∈ Primitive.all, ∀ t ∈ k.tokens,
      t.toList.all (fun c => 97 ≤ c.toNat && c.toNat ≤ 122) = true := by decide +kernel
  have listed : Text.lower s ∈ k.tokens := by simpa using List.find?_some h
  intro c hc
  have small : Text.lowerChar c ∈ (Text.lower s).toList := by
    rw [Text.lower, String.toList_ofList]
    exact List.mem_map_of_mem hc
  have letters := table k (List.mem_of_find?_eq_some h) _ listed
  have within := List.all_eq_true.mp letters _ small
  rw [Bool.and_eq_true, decide_eq_true_eq, decide_eq_true_eq] at within
  exact isStart_of_lowerChar within.1 within.2

theorem toList_ne_nil_of_ofToken? {s : String} {k : Primitive}
    (h : Primitive.ofToken? s = some k) : s.toList ≠ [] := by
  have table : ∀ k ∈ Primitive.all, "" ∉ k.tokens := by decide +kernel
  have listed : Text.lower s ∈ k.tokens := by simpa using List.find?_some h
  intro empty
  rw [Text.lower, empty] at listed
  exact table k (List.mem_of_find?_eq_some h) listed

/-- The name of a schema type gives an identifier too. -/
theorem typeName_ne_empty_of_ofToken? {s : String} {k : Primitive}
    (h : Primitive.ofToken? s = some k) : typeName s ≠ "" := by
  rw [ne_eq, typeName_eq_empty_iff]
  intro none
  obtain ⟨c, hc⟩ := List.exists_mem_of_ne_nil _ (toList_ne_nil_of_ofToken? h)
  have starts := isStart_of_ofToken? h c hc
  rw [none c hc] at starts
  cases starts

end ContractClient.Identifier

namespace ContractClient.TypeRef

open Identifier

/-! ## References -/

-- From here on names are compared as wholes.
seal className typeName Primitive.ofToken? counts

theorem cutArray_append (cs : List Char) : cutArray (cs ++ arraySuffix) = (cs, true) := by
  have cut : (cs ++ arraySuffix).dropLast.dropLast = cs := by
    rw [arraySuffix, show cs ++ ['[', ']'] = (cs ++ ['[']) ++ [']'] by simp,
      List.dropLast_concat, List.dropLast_concat]
  rw [cutArray, if_pos (List.isSuffixOf_iff_suffix.mpr (List.suffix_append _ _)), cut]

theorem cutArray_of_not_suffix {cs : List Char} (h : ¬ arraySuffix <:+ cs) :
    cutArray cs = (cs, false) := by
  rw [cutArray, if_neg fun marked => h (List.isSuffixOf_iff_suffix.mp marked)]

/-- An array marker holds nothing that counts. -/
theorem filter_cutArray (cs : List Char) : (cutArray cs).1.filter counts = cs.filter counts := by
  by_cases marked : arraySuffix <:+ cs
  · obtain ⟨front, rfl⟩ := marked
    have marker : arraySuffix.filter counts = [] := by
      rw [arraySuffix, List.filter_cons_of_neg (by simp [counts_brackets.1]),
        List.filter_cons_of_neg (by simp [counts_brackets.2]), List.filter_nil]
    rw [cutArray_append, List.filter_append, marker, List.append_nil]
  · rw [cutArray_of_not_suffix marked]

/-- The text behind the last colon of a type text, without one array marker. -/
def elementPart (raw : String) : List Char := (cutArray (lastSegment (Text.trim raw.toList))).1

/-- The array marker that was taken off. -/
def hasMarker (raw : String) : Bool := (cutArray (lastSegment (Text.trim raw.toList))).2

theorem parse_eq (raw : String) :
    parse raw =
      match Primitive.ofToken? (.ofList (elementPart raw)) with
      | some k => ofKind k (hasMarker raw)
      | none =>
        { name := className (.ofList ([':'].intercalate
            ((segments (Text.trim raw.toList)).dropLast ++ [elementPart raw])))
          localName := typeName (.ofList (elementPart raw))
          primitive := none
          isArray := hasMarker raw } := rfl

/-- A reference is primitive exactly if its text behind the last colon is a schema
type. -/
theorem primitive_parse (raw : String) :
    (parse raw).primitive = Primitive.ofToken? (.ofList (elementPart raw)) := by
  rw [parse_eq]
  cases Primitive.ofToken? (.ofList (elementPart raw)) with
  | some k => rfl
  | none => rfl

theorem primitive_eq_none {r : TypeRef} (h : r.isPrimitive = false) : r.primitive = none := by
  rw [isPrimitive] at h
  exact Option.not_isSome_iff_eq_none.mp (by simp [h])

theorem ofToken?_of_not_primitive {raw : String} (h : (parse raw).isPrimitive = false) :
    Primitive.ofToken? (.ofList (elementPart raw)) = none := by
  rw [← primitive_parse, primitive_eq_none h]

/-- A reference to a class has the identifier of the class as its full name. -/
theorem parse_name {raw : String} (h : (parse raw).isPrimitive = false) :
    (parse raw).name = className raw := by
  rw [parse_eq, ofToken?_of_not_primitive h]
  apply className_congr
  have last : (elementPart raw).filter counts =
      (lastSegment (Text.trim raw.toList)).filter counts := filter_cutArray _
  calc (String.ofList ([':'].intercalate
          ((segments (Text.trim raw.toList)).dropLast ++ [elementPart raw]))).toList.filter counts
      = [':'].intercalate (((segments (Text.trim raw.toList)).dropLast ++
          [lastSegment (Text.trim raw.toList)]).map (List.filter counts)) := by
        rw [String.toList_ofList, filter_intercalate counts_colon, List.map_append,
          List.map_append, List.map_singleton, List.map_singleton, last]
    _ = ([':'].intercalate (segments (Text.trim raw.toList))).filter counts := by
        rw [dropLast_append_lastSegment, filter_intercalate counts_colon]
    _ = (Text.trim raw.toList).filter counts := by
        rw [segments, List.intercalate_splitOn]
    _ = raw.toList.filter counts := filter_trim (fun c => counts_of_isBlank) _

theorem typeName_elementPart (raw : String) :
    typeName (.ofList (elementPart raw)) = typeName (localPart raw) := by
  have continues : ∀ c, isContinue c = true → counts c = true := fun c => counts_of_isContinue
  have part : localPart raw = .ofList (lastSegment raw.toList) := rfl
  rw [part, ← typeName_lastSegment_trim, ← typeName_filter continues, elementPart,
    filter_cutArray, typeName_filter continues]

/-- Its local name is the identifier of what stands behind the last colon. -/
theorem parse_localName {raw : String} (h : (parse raw).isPrimitive = false) :
    (parse raw).localName = typeName (localPart raw) := by
  rw [parse_eq, ofToken?_of_not_primitive h, ← typeName_elementPart]

/-- A text that reads as a primitive has an identifier as well. -/
theorem className_ne_empty_of_primitive {raw : String} {k : Primitive}
    (h : (parse raw).primitive = some k) : className raw ≠ "" := by
  rw [primitive_parse] at h
  have named := typeName_ne_empty_of_ofToken? h
  rw [typeName_elementPart] at named
  rwa [ne_eq, className_eq_empty_iff]

end ContractClient.TypeRef
