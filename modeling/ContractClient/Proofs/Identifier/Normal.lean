import ContractClient.Identifier.Roles
import ContractClient.Text.Blank
import Mathlib.Data.List.TakeWhile

/-!
# The normal form of a name

The normal form of a text depends only on the characters that can stand in an
identifier (`normalize_filter`).  It is empty exactly if no character of the text
can start one (`normalize_eq_empty_iff`), and it is an identifier otherwise
(`isIdentifier_normalize`).

Blanks, brackets, colons, slashes, points and the null character cannot stand in
an identifier.
-/

namespace ContractClient.Identifier

/-! ## Characters that no identifier holds -/

/-- The code points of the blanks. -/
def blankCodes : List Nat :=
  [9, 10, 11, 12, 13, 28, 29, 30, 31, 32, 0x85, 0xA0, 0x1680, 0x2000, 0x2001, 0x2002, 0x2003,
   0x2004, 0x2005, 0x2006, 0x2007, 0x2008, 0x2009, 0x200A, 0x2028, 0x2029, 0x202F, 0x205F, 0x3000]

theorem mem_blankCodes_of_isBlank {c : Char} (h : Text.isBlank c = true) :
    c.toNat ∈ blankCodes := by
  simp only [Text.isBlank, Bool.or_eq_true, Bool.and_eq_true, decide_eq_true_eq, beq_iff_eq] at h
  simp only [blankCodes, List.mem_cons, List.not_mem_nil, or_false]
  omega

theorem isContinue_of_isBlank {c : Char} (h : Text.isBlank c = true) : isContinue c = false := by
  have table : blankCodes.all (fun n => !isContinue (Char.ofNat n)) = true := by decide +kernel
  have found := List.all_eq_true.mp table c.toNat (mem_blankCodes_of_isBlank h)
  rw [Char.ofNat_toNat] at found
  simpa using found

theorem isBlank_of_isContinue {c : Char} (h : isContinue c = true) : Text.isBlank c = false := by
  cases blank : Text.isBlank c with
  | false => rfl
  | true => rw [isContinue_of_isBlank blank] at h; cases h

/-- The marks that divide names: brackets, colons, slashes, points and the null
character. -/
def marks : List Char := ['[', ']', ':', '/', '.', '\x00']

theorem isContinue_of_mem_marks {c : Char} (h : c ∈ marks) : isContinue c = false := by
  have table : marks.all (fun c => !isContinue c) = true := by decide +kernel
  simpa using List.all_eq_true.mp table c h

/-! ## The characters of an identifier -/

theorem mem_of_isIdentifierChars {cs : List Char} (h : isIdentifierChars cs = true) :
    ∀ c ∈ cs, isContinue c = true := by
  cases cs with
  | nil => cases h
  | cons c cs =>
      rw [isIdentifierChars, Bool.and_eq_true, List.all_eq_true] at h
      intro d hd
      cases List.mem_cons.mp hd with
      | inl he => exact he ▸ isContinue_of_isStart h.1
      | inr hd => exact h.2 d hd

/-- No mark stands in an identifier. -/
theorem not_mem_of_isIdentifier {s : String} (h : isIdentifier s = true) {c : Char}
    (hc : c ∈ marks) : c ∉ s.toList := by
  intro hmem
  have continues := mem_of_isIdentifierChars h c hmem
  rw [isContinue_of_mem_marks hc] at continues
  cases continues

/-- An identifier can be continued. -/
theorem isIdentifierChars_append {cs ds : List Char} (h : isIdentifierChars cs = true)
    (hd : ∀ c ∈ ds, isContinue c = true) : isIdentifierChars (cs ++ ds) = true := by
  cases cs with
  | nil => cases h
  | cons c cs =>
      rw [isIdentifierChars, Bool.and_eq_true] at h
      rw [List.cons_append, isIdentifierChars, List.all_append, h.1, h.2,
        List.all_eq_true.mpr hd]
      rfl

theorem isIdentifier_append {s ending : String} (h : isIdentifier s = true)
    (continues : ending.toList.all isContinue = true) : isIdentifier (s ++ ending) = true := by
  rw [isIdentifier, String.toList_append]
  exact isIdentifierChars_append h (List.all_eq_true.mp continues)

theorem isIdentifierChars_cons {c : Char} {cs : List Char} (h : isStart c = true)
    (hcs : ∀ d ∈ cs, isContinue d = true) : isIdentifierChars (c :: cs) = true := by
  rw [isIdentifierChars, h, List.all_eq_true.mpr hcs]
  rfl

theorem dropUntil_sublist (p : Char → Bool) (cs : List Char) : (dropUntil p cs).Sublist cs :=
  List.dropWhile_sublist _

theorem head?_dropUntil {p : Char → Bool} {cs : List Char} {c : Char}
    (h : (dropUntil p cs).head? = some c) : p c = true := by
  have stopped := List.head?_dropWhile_not (fun c => !p c) cs
  rw [dropUntil] at h
  rw [h] at stopped
  simpa using stopped

/-! ## The normal form -/

theorem normalizeChars_filter {p : Char → Bool} (hp : ∀ c, isContinue c = true → p c = true)
    (cs : List Char) : normalizeChars (cs.filter p) = normalizeChars cs := by
  have same : (cs.filter p).filter isContinue = cs.filter isContinue := by
    rw [List.filter_filter]
    apply List.filter_congr
    intro c _
    cases hc : isContinue c with
    | false => rfl
    | true => rw [hp c hc]; rfl
  rw [normalizeChars, normalizeChars, same]

/-- Characters that no identifier holds do not count. -/
theorem normalize_filter {p : Char → Bool} (hp : ∀ c, isContinue c = true → p c = true)
    (cs : List Char) : normalize (.ofList (cs.filter p)) = normalize (.ofList cs) := by
  rw [normalize, normalize, String.toList_ofList, String.toList_ofList, normalizeChars_filter hp]

theorem escapeKeyword_eq_empty_iff {s : String} : escapeKeyword s = "" ↔ s = "" := by
  rw [escapeKeyword]
  split
  next keyword =>
    constructor
    · intro h
      have chars := congrArg String.toList h
      simp at chars
    · rintro rfl
      simp [isKeyword, keywords] at keyword
  next => exact Iff.rfl

theorem normalizeChars_eq_nil_iff {cs : List Char} :
    normalizeChars cs = [] ↔ ∀ c ∈ cs, isStart c = false := by
  rw [normalizeChars, dropUntil, List.dropWhile_eq_nil_iff]
  constructor
  · intro h c hc
    cases hs : isStart c with
    | false => rfl
    | true =>
        have kept : c ∈ cs.filter isContinue :=
          List.mem_filter.mpr ⟨hc, isContinue_of_isStart hs⟩
        have dropped := h c kept
        rw [hs] at dropped
        cases dropped
  · intro h c hc
    rw [h c (List.mem_filter.mp hc).1]
    rfl

theorem normalize_eq_empty_iff {s : String} :
    normalize s = "" ↔ ∀ c ∈ s.toList, isStart c = false := by
  rw [normalize, escapeKeyword_eq_empty_iff, ← normalizeChars_eq_nil_iff]
  constructor
  · intro h
    have chars := congrArg String.toList h
    rwa [String.toList_ofList] at chars
  · intro h
    rw [h]

/-- What is left of a text that is not empty starts like an identifier and goes on
like one. -/
theorem isIdentifierChars_normalizeChars {cs : List Char} (h : normalizeChars cs ≠ []) :
    isIdentifierChars (normalizeChars cs) = true := by
  have sublist : (normalizeChars cs).Sublist (cs.filter isContinue) := dropUntil_sublist _ _
  cases hcs : normalizeChars cs with
  | nil => exact absurd hcs h
  | cons c rest =>
      rw [hcs] at sublist
      have first : (dropUntil isStart (cs.filter isContinue)).head? = some c := by
        rw [← normalizeChars, hcs]
        rfl
      apply isIdentifierChars_cons
      · exact head?_dropUntil first
      · intro d hd
        exact (List.mem_filter.mp (sublist.subset (List.mem_cons_of_mem c hd))).2

theorem isIdentifier_escapeKeyword {s : String} (h : isIdentifier s = true) :
    isIdentifier (escapeKeyword s) = true := by
  rw [escapeKeyword]
  split
  next => exact isIdentifier_append h (by decide)
  next => exact h

/-- A normal form that is not empty is an identifier. -/
theorem isIdentifier_normalize {s : String} (h : normalize s ≠ "") :
    isIdentifier (normalize s) = true := by
  have rest : normalizeChars s.toList ≠ [] := by
    intro hnil
    apply h
    rw [normalize, hnil]
    exact escapeKeyword_eq_empty_iff.mpr rfl
  apply isIdentifier_escapeKeyword
  rw [isIdentifier, String.toList_ofList]
  exact isIdentifierChars_normalizeChars rest

/-- A text that is an identifier has a normal form. -/
theorem normalize_ne_empty_of_isIdentifier {s : String} (h : isIdentifier s = true) :
    normalize s ≠ "" := by
  rw [ne_eq, normalize_eq_empty_iff]
  intro none
  rw [isIdentifier] at h
  cases hs : s.toList with
  | nil => rw [hs] at h; cases h
  | cons c cs =>
      rw [hs, isIdentifierChars, Bool.and_eq_true] at h
      have starts := none c (hs ▸ List.mem_cons_self ..)
      rw [starts] at h
      cases h.1

end ContractClient.Identifier
