import ContractClient.Catalog.Basic
import ContractClient.Proofs.Identifier.ClassName

/-!
# Names that generated code can use

A name is *legal* if it is an identifier and no reserved word.  The names of
classes, fields and operations are legal, and each role has its own names to stay
clear of: `IsClassName`, `IsFieldName`, `IsOperationName`.  A field and an operation
do not begin with an underscore either.

A name is made in steps, and each step is of one of two kinds.  A step that cuts
characters off in front leaves an identifier or nothing.  A step that appends an
ending cannot bring back a word that an earlier step removed, because no word of the
lists concerned has this ending (`append_not_mem`).
-/

namespace ContractClient.Identifier

/-! ## Endings and beginnings of words -/

/-- None of the words has the ending. -/
def NoneEnds (ending : String) (words : List String) : Prop :=
  ∀ w ∈ words, ending.toList.isSuffixOf w.toList = false

/-- None of the words has the beginning. -/
def NoneBegins (beginning : String) (words : List String) : Prop :=
  ∀ w ∈ words, beginning.toList.isPrefixOf w.toList = false

instance (ending : String) (words : List String) : Decidable (NoneEnds ending words) :=
  inferInstanceAs (Decidable (∀ w ∈ words, _))

instance (beginning : String) (words : List String) : Decidable (NoneBegins beginning words) :=
  inferInstanceAs (Decidable (∀ w ∈ words, _))

theorem append_not_mem {ending : String} {words : List String} (h : NoneEnds ending words)
    (s : String) : s ++ ending ∉ words := by
  intro listed
  have ends : ending.toList.isSuffixOf (s ++ ending).toList = true := by
    rw [List.isSuffixOf_iff_suffix, String.toList_append]
    exact List.suffix_append _ _
  rw [h _ listed] at ends
  cases ends

theorem append_not_mem_of_begins {beginning : String} {words : List String}
    (h : NoneBegins beginning words) (s : String) : beginning ++ s ∉ words := by
  intro listed
  have begins : beginning.toList.isPrefixOf (beginning ++ s).toList = true := by
    rw [List.isPrefixOf_iff_prefix, String.toList_append]
    exact List.prefix_append _ _
  rw [h _ listed] at begins
  cases begins

/-! ## Legal names -/

theorem isKeyword_eq_false_iff {s : String} : isKeyword s = false ↔ s ∉ keywords := by
  simp [isKeyword]

/-- An identifier that is no reserved word. -/
structure IsLegal (s : String) : Prop where
  identifier : isIdentifier s = true
  unreserved : isKeyword s = false

/-- A legal name without an underscore in front. -/
structure IsPublic (s : String) : Prop extends IsLegal s where
  shown : s.toList.head? ≠ some '_'

/-- The endings that are appended to names. -/
def endings : List String := ["_", "_field", "Base"]

theorem noneEnds_keywords : ∀ ending ∈ endings, NoneEnds ending keywords := by decide +kernel

theorem isLegal_append {s ending : String} (h : isIdentifier s = true) (he : ending ∈ endings) :
    IsLegal (s ++ ending) where
  identifier := by
    have continues : ∀ ending ∈ endings, ending.toList.all isContinue = true := by decide
    exact isIdentifier_append h (continues ending he)
  unreserved := isKeyword_eq_false_iff.mpr (append_not_mem (noneEnds_keywords ending he) s)

theorem head?_append_of_isIdentifier {s : String} (h : isIdentifier s = true) (t : String) :
    (s ++ t).toList.head? = s.toList.head? := by
  rw [String.toList_append]
  cases hs : s.toList with
  | nil => rw [isIdentifier, hs] at h; cases h
  | cons c cs => rfl

theorem IsPublic.append {s ending : String} (h : IsPublic s) (he : ending ∈ endings) :
    IsPublic (s ++ ending) where
  toIsLegal := isLegal_append h.identifier he
  shown := by rw [head?_append_of_isIdentifier h.identifier]; exact h.shown

theorem isKeyword_escapeKeyword (s : String) : isKeyword (escapeKeyword s) = false := by
  rw [escapeKeyword]
  split
  next =>
    exact isKeyword_eq_false_iff.mpr (append_not_mem (noneEnds_keywords "_" (by decide)) s)
  next free => simpa using free

theorem isPublic_escapeKeyword {s : String} (h : isIdentifier s = true)
    (shown : s.toList.head? ≠ some '_') : IsPublic (escapeKeyword s) where
  toIsLegal := ⟨isIdentifier_escapeKeyword h, isKeyword_escapeKeyword s⟩
  shown := by
    rw [escapeKeyword]
    split
    next => rw [head?_append_of_isIdentifier h]; exact shown
    next => exact shown

theorem isLegal_normalize {s : String} (h : normalize s ≠ "") : IsLegal (normalize s) :=
  ⟨isIdentifier_normalize h, isKeyword_escapeKeyword _⟩

theorem normalizeChars_of_isIdentifierChars {cs : List Char} (h : isIdentifierChars cs = true) :
    normalizeChars cs = cs := by
  rw [normalizeChars, List.filter_eq_self.mpr (mem_of_isIdentifierChars h)]
  cases cs with
  | nil => rfl
  | cons c cs =>
      rw [isIdentifierChars, Bool.and_eq_true] at h
      exact List.dropWhile_cons_of_neg (by simp [h.1])

/-- A legal name is its own normal form. -/
theorem normalize_of_isLegal {s : String} (h : IsLegal s) : normalize s = s := by
  rw [normalize, normalizeChars_of_isIdentifierChars h.identifier, String.ofList_toList,
    escapeKeyword, h.unreserved]
  rfl

/-! ## Classes -/

/-- A legal name that no generated module uses itself. -/
structure IsClassName (s : String) : Prop extends IsLegal s where
  free : s ∉ moduleNames

theorem isClassName_typeName {s : String} (h : typeName s ≠ "") : IsClassName (typeName s) := by
  have legal : IsLegal (normalize s) := by
    apply isLegal_normalize
    rw [ne_eq, normalize_eq_empty_iff, ← typeName_eq_empty_iff]
    exact h
  rw [typeName]
  split
  next =>
    have noneEnds : NoneEnds "_" moduleNames := by decide +kernel
    exact ⟨isLegal_append legal.identifier (by decide), append_not_mem noneEnds _⟩
  next free => exact ⟨legal, by simpa using free⟩

theorem isClassName_className {s : String} (h : className s ≠ "") : IsClassName (className s) := by
  rw [className] at h ⊢
  dsimp only at h ⊢
  split at h
  next => exact absurd rfl h
  next named => rw [if_neg named]; exact isClassName_typeName h

theorem typeName_of_isClassName {s : String} (h : IsClassName s) : typeName s = s := by
  rw [typeName, normalize_of_isLegal h.toIsLegal]
  exact if_neg (by simpa using h.free)

/-- The name of a class is its own class name. -/
theorem className_of_isClassName {s : String} (h : IsClassName s) : className s = s := by
  have counted : s.toList.filter counts = s.toList :=
    List.filter_eq_self.mpr fun c hc =>
      counts_of_isContinue (mem_of_isIdentifierChars h.identifier c hc)
  have single : segments s.toList = [s.toList] :=
    List.splitOn_eq_singleton (not_mem_of_isIdentifier h.identifier (by decide))
  have named : typeName s ≠ "" := by
    rw [typeName_of_isClassName h]
    rintro rfl
    cases h.identifier
  have alone : nameOfSegments [s.toList] = typeName (typeName s) := by
    rw [nameOfSegments, List.getLast?_singleton, Option.getD_some, String.ofList_toList]
    exact if_neg named
  rw [className_eq, counted, single, alone, typeName_of_isClassName h, typeName_of_isClassName h]

theorem className_className (s : String) : className (className s) = className s := by
  by_cases unnamed : className s = ""
  · rw [unnamed]
    decide
  · exact className_of_isClassName (isClassName_className unnamed)

/-! ## Names without underscores in front -/

theorem isContinue_of_mem_normalize {s : String} {c : Char} (h : c ∈ (normalize s).toList) :
    isContinue c = true := by
  by_cases empty : normalize s = ""
  · rw [empty] at h
    cases h
  · exact mem_of_isIdentifierChars (isLegal_normalize empty).identifier c h

theorem isPublic_publicName {s : String} (h : publicName s ≠ "") : IsPublic (publicName s) := by
  rw [publicName] at h ⊢
  rw [ne_eq, escapeKeyword_eq_empty_iff] at h
  cases rest : dropUntil (fun c => isStart c && c != '_') (normalize s).toList with
  | nil => rw [rest] at h; exact absurd rfl h
  | cons c cs =>
      have first : (isStart c && c != '_') = true := head?_dropUntil (by rw [rest]; rfl)
      rw [Bool.and_eq_true, bne_iff_ne] at first
      have kept : ∀ d ∈ c :: cs, isContinue d = true := by
        intro d hd
        rw [← rest] at hd
        exact isContinue_of_mem_normalize ((dropUntil_sublist _ _).subset hd)
      apply isPublic_escapeKeyword
      · rw [isIdentifier, String.toList_ofList]
        exact isIdentifierChars_cons first.1 fun d hd => kept d (List.mem_cons_of_mem c hd)
      · rw [String.toList_ofList]
        simpa using first.2

/-! ## Fields -/

/-- A public name that is no attribute of a generated model and that no generated
module uses itself. -/
structure IsFieldName (s : String) : Prop extends IsPublic s where
  free : s ∉ reservedFields

theorem isFieldName_append {s : String} (h : IsPublic s) : IsFieldName (s ++ "_field") where
  toIsPublic := h.append (by decide)
  free := append_not_mem (by decide +kernel) s

theorem isFieldName_fieldName {s : String} (h : fieldName s ≠ "") :
    IsFieldName (fieldName s) := by
  rw [fieldName] at h ⊢
  split
  next taken =>
    apply isFieldName_append
    apply isPublic_publicName
    intro empty
    rw [empty] at taken
    revert taken
    decide
  next free =>
    rw [if_neg free] at h
    rw [Bool.or_eq_true, not_or] at free
    exact ⟨isPublic_publicName h, by simpa using free.1⟩

/-! ## Operations -/

/-- A public name that no service class uses itself. -/
structure IsOperationName (s : String) : Prop extends IsPublic s where
  free : s ∉ reservedOperations

theorem isOperationName_operationName {s : String} (h : operationName s ≠ "") :
    IsOperationName (operationName s) := by
  rw [operationName] at h ⊢
  split
  next taken =>
    have named : publicName s ≠ "" := by
      intro empty
      rw [empty] at taken
      revert taken
      decide
    exact ⟨(isPublic_publicName named).append (by decide), append_not_mem (by decide) _⟩
  next free =>
    rw [if_neg free] at h
    exact ⟨isPublic_publicName h, by simpa using free⟩

end ContractClient.Identifier

namespace ContractClient.Field

open Identifier

/-! ## The fields of entries -/

theorem isFieldName_positionalName (position : Nat) : IsFieldName (positionalName position) := by
  have digits : (toString position).toList.all isContinue = true := by
    rw [List.all_eq_true]
    intro c hc
    rw [Nat.toString_eq_repr, Nat.toList_repr] at hc
    rw [isContinue, Nat.isDigit_of_mem_toDigits (by decide) (by decide) hc, Bool.or_true,
      Bool.true_or]
  have field : isIdentifier "field" = true := by decide
  have noKeyword : NoneBegins "field" keywords := by decide +kernel
  have noReserved : NoneBegins "field" reservedFields := by decide +kernel
  rw [positionalName]
  constructor
  · constructor
    · exact ⟨isIdentifier_append field digits,
        isKeyword_eq_false_iff.mpr (append_not_mem_of_begins noKeyword _)⟩
    · rw [head?_append_of_isIdentifier field]
      decide
  · exact append_not_mem_of_begins noReserved _

theorem isFieldName_wantedName {classNames : List String} (h : "" ∉ classNames) {e : Entry}
    (named : wantedName classNames e ≠ "") : IsFieldName (wantedName classNames e) := by
  rw [wantedName] at named ⊢
  split
  next taken =>
    apply isFieldName_append
    apply IsFieldName.toIsPublic
    apply isFieldName_fieldName
    -- An entry without identifier characters cannot be in the way of a class.
    intro empty
    rw [empty] at taken
    exact h (by simpa using taken)
  next free =>
    rw [if_neg free] at named
    exact isFieldName_fieldName named

theorem isFieldName_of_mem_ofEntries {classNames : List String} (h : "" ∉ classNames)
    {entries : List Entry} {f : Field} (hf : f ∈ ofEntries classNames entries) :
    IsFieldName f.name := by
  obtain ⟨position, within, rfl⟩ := List.mem_mapIdx.mp hf
  rw [ofEntry]
  dsimp only
  split
  next => exact isFieldName_positionalName position
  next named => exact isFieldName_wantedName h named

end ContractClient.Field
