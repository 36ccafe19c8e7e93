import ContractClient.Proofs.Text.Docstring
import Mathlib.Data.List.Basic

/-!
# What a docstring says

`readDocstring` reads a literal between triple quotation marks: its text, in which a
backslash stands for the character behind it, and what follows the literal.  An escaped text
is read as the text it comes from (`readOpen_escapeMarks`), if no mark at its end meets one
behind it.

So all depends on the end of the text.  Three marks in a row are escaped as a whole, and a
mark at the very end is escaped after that, once more if it was among the three.  The
backslash before it then takes the new one, and the mark is open again.  This happens exactly
if the number of marks at the end is a multiple of three.  A docstring of several lines reads
with a backslash too much then, and one of a single line ends a mark too early
(`readDocstring_docstring`).
-/

namespace ContractClient.Text

/-! ## The reader -/

/-- Reads a literal that is open.  A backslash stands for the character behind it. -/
def readOpen : List Char → Option (List Char × List Char)
  | [] => none
  | '\\' :: c :: cs => (readOpen cs).map fun r => (c :: r.1, r.2)
  | '"' :: '"' :: '"' :: cs => some ([], cs)
  | c :: cs => (readOpen cs).map fun r => (c :: r.1, r.2)

/-- Reads a literal: its text, and what follows it. -/
def readDocstring : List Char → Option (List Char × List Char)
  | '"' :: '"' :: '"' :: cs => readOpen cs
  | _ => none

theorem readOpen_cons {c : Char} {cs : List Char} (back : c ≠ '\\')
    (marks : c = '"' → ¬ ['"', '"'] <+: cs) :
    readOpen (c :: cs) = (readOpen cs).map fun r => (c :: r.1, r.2) := by
  rw [readOpen]
  · rintro d ds rfl rfl
    exact back rfl
  · rintro ds rfl rfl
    exact marks rfl ⟨ds, rfl⟩

/-! ## Escaped texts -/

theorem head?_escapeMarks_ne {cs : List Char} (h : cs.head? ≠ some '"') :
    (escapeMarks cs).head? ≠ some '"' := by
  cases cs with
  | nil => simp [escapeMarks]
  | cons c cs =>
      have mark : c ≠ '"' := by simpa using h
      by_cases back : c = '\\'
      · subst back
        simp [escapeMarks]
      · rw [escapeMarks_cons (fun same => absurd same mark) back]
        simpa using mark

/-- Behind a mark an escaped text does not begin with the two that are missing to three. -/
theorem not_marks_prefix_escapeMarks {cs rest : List Char} (apart : ¬ ['"', '"'] <+: cs)
    (h : ('"' :: cs).getLast? ≠ some '"' ∨ rest.head? ≠ some '"') :
    ¬ ['"', '"'] <+: escapeMarks cs ++ rest := by
  have first : ∀ {xs ys : List Char}, '"' :: xs <+: ys → ys.head? = some '"' := by
    rintro xs ys ⟨zs, rfl⟩
    rfl
  -- Where the text is at its end, the next mark would be one of the rest.
  have behind : ∀ {ds : List Char}, ds.head? ≠ some '"' → (ds = [] → rest.head? ≠ some '"') →
      (escapeMarks ds ++ rest).head? ≠ some '"' := by
    intro ds mark atEnd
    cases ds with
    | nil => simpa [escapeMarks] using atEnd rfl
    | cons d ds =>
        have nonempty : escapeMarks (d :: ds) ≠ [] :=
          List.ne_nil_of_mem (mem_escapeMarks List.mem_cons_self)
        rw [List.head?_append_of_ne_nil _ nonempty]
        exact head?_escapeMarks_ne mark
  intro marks
  by_cases mark : cs.head? = some '"'
  · obtain ⟨ds, rfl⟩ := List.head?_eq_some_iff.mp mark
    have single : ds.head? ≠ some '"' := by
      intro again
      obtain ⟨es, rfl⟩ := List.head?_eq_some_iff.mp again
      exact apart ⟨es, rfl⟩
    have alone : ¬ ['"', '"'] <+: ds := fun two => single (first two)
    rw [escapeMarks_cons (fun _ => alone) (by simp), List.cons_append,
      List.cons_prefix_cons] at marks
    refine behind single ?_ (first marks.2)
    rintro rfl
    simpa using h
  · refine behind mark ?_ (first marks)
    rintro rfl
    simpa using h

/-- An escaped text is read as the text, unless a mark at its end meets one behind it. -/
theorem readOpen_escapeMarks {cs rest : List Char}
    (h : cs.getLast? ≠ some '"' ∨ rest.head? ≠ some '"') :
    readOpen (escapeMarks cs ++ rest) = (readOpen rest).map fun r => (cs ++ r.1, r.2) := by
  have later : ∀ {c : Char} {cs : List Char},
      (c :: cs).getLast? ≠ some '"' ∨ rest.head? ≠ some '"' →
        cs.getLast? ≠ some '"' ∨ rest.head? ≠ some '"' := by
    intro c cs either
    refine either.imp_left fun last end_ => last ?_
    simp [List.getLast?_cons, end_]
  fun_induction escapeMarks cs with
  | case1 => simp
  | case2 cs ih =>
      simp [escapedTripleQuote, readOpen, ih (later (later (later h))), Function.comp_def]
  | case3 cs _ ih => simp [readOpen, ih (later h), Function.comp_def]
  | case4 c cs single back ih =>
      have apart : c = '"' → ¬ ['"', '"'] <+: escapeMarks cs ++ rest := by
        rintro rfl
        refine not_marks_prefix_escapeMarks ?_ h
        rintro ⟨ds, rfl⟩
        exact single ds rfl rfl
      simp [readOpen_cons back apart, ih (later h), Function.comp_def]

theorem mem_escapeMarks_iff {c : Char} {cs : List Char} (back : c ≠ '\\') :
    c ∈ escapeMarks cs ↔ c ∈ cs := by
  refine ⟨fun h => ?_, mem_escapeMarks⟩
  fun_induction escapeMarks cs with
  | case1 => exact h
  | case2 cs ih =>
      rcases List.mem_append.mp h with h | h
      · have mark : c = '"' := by simpa [escapedTripleQuote, back] using h
        simp [mark]
      · simp [ih h]
  | case3 cs _ ih =>
      have later : c ∈ escapeMarks cs := by simpa [back] using h
      simp [ih later]
  | case4 d cs _ _ ih =>
      rcases List.mem_cons.mp h with rfl | h
      · exact List.mem_cons_self
      · exact List.mem_cons_of_mem d (ih h)

/-! ## Marks at the end -/

/-- The number of marks at the end of a text. -/
def endMarks (cs : List Char) : Nat := (cs.reverse.takeWhile (· == '"')).length

/-- The text ends in marks, and their number is a multiple of three. -/
def EndsInTriples (cs : List Char) : Prop := 0 < endMarks cs ∧ endMarks cs % 3 = 0

instance (cs : List Char) : Decidable (EndsInTriples cs) :=
  inferInstanceAs (Decidable (0 < endMarks cs ∧ endMarks cs % 3 = 0))

theorem exists_endMarks (cs : List Char) :
    ∃ front, cs = front ++ List.replicate (endMarks cs) '"' ∧ front.getLast? ≠ some '"' := by
  refine ⟨(cs.reverse.dropWhile (· == '"')).reverse, ?_, ?_⟩
  · have marks : List.replicate (endMarks cs) '"' = cs.reverse.takeWhile (· == '"') := by
      refine (List.eq_replicate_of_mem fun c hc => ?_).symm
      simpa using List.mem_takeWhile_imp hc
    have reversed : List.replicate (endMarks cs) '"' =
        (cs.reverse.takeWhile (· == '"')).reverse := by
      rw [← marks, List.reverse_replicate]
    rw [reversed, ← List.reverse_append, List.takeWhile_append_dropWhile, List.reverse_reverse]
  · rw [List.getLast?_reverse]
    intro mark
    have stopped := List.head?_dropWhile_not (· == '"') cs.reverse
    rw [mark] at stopped
    cases stopped

theorem escapeMarks_replicate_succ : ∀ k, (k + 1) % 3 ≠ 0 →
    escapeMarks (List.replicate (k + 1) '"') = escapeMarks (List.replicate k '"') ++ ['"']
  | 0, _ => rfl
  | 1, _ => rfl
  | 2, h => absurd rfl h
  | k + 3, h => by
      have fewer := escapeMarks_replicate_succ k (by omega)
      simp only [List.replicate_succ, escapeMarks, List.append_assoc] at fewer ⊢
      rw [fewer]

theorem escapeMarks_replicate_triple : ∀ k, k % 3 = 0 →
    escapeMarks (List.replicate (k + 3) '"') =
      escapeMarks (List.replicate k '"') ++ escapedTripleQuote
  | 0, _ => rfl
  | 1, h => by cases h
  | 2, h => by cases h
  | k + 3, h => by
      have fewer := escapeMarks_replicate_triple k (by omega)
      simp only [List.replicate_succ, escapeMarks, List.append_assoc] at fewer ⊢
      rw [fewer]

/-- How a text may end: in no mark, in a mark that is escaped alone, or in three that are
escaped together. -/
theorem escapeMarks_cases (cs : List Char) :
    (cs.getLast? ≠ some '"' ∧ ¬ EndsInTriples cs) ∨
    (∃ front, cs = front ++ ['"'] ∧ escapeMarks cs = escapeMarks front ++ ['"'] ∧
      ¬ EndsInTriples cs) ∨
    (∃ front, cs = front ++ tripleQuote ∧
      escapeMarks cs = escapeMarks front ++ escapedTripleQuote ∧ EndsInTriples cs) := by
  obtain ⟨front, whole, last⟩ := exists_endMarks cs
  have parts : ∀ k, escapeMarks (front ++ List.replicate k '"') =
      escapeMarks front ++ escapeMarks (List.replicate k '"') :=
    fun k => escapeMarks_append (.inl last)
  rw [EndsInTriples]
  generalize endMarks cs = k at whole
  subst whole
  match k with
  | 0 => exact .inl ⟨by simpa using last, by omega⟩
  | k + 1 =>
      by_cases triple : (k + 1) % 3 = 0
      · obtain ⟨j, rfl⟩ : ∃ j, k = j + 2 := ⟨k - 2, by omega⟩
        refine .inr (.inr ⟨front ++ List.replicate j '"', ?_, ?_, by omega⟩)
        · rw [List.append_assoc, List.append_cancel_left_eq]
          exact (List.replicate_append_replicate (n := j) (m := 3)).symm
        · rw [parts, escapeMarks_replicate_triple j (by omega), parts, List.append_assoc]
      · refine .inr (.inl ⟨front ++ List.replicate k '"', ?_, ?_, by omega⟩)
        · rw [List.append_assoc, List.append_cancel_left_eq, List.replicate_succ']
        · rw [parts, escapeMarks_replicate_succ k triple, parts, List.append_assoc]

/-! ## Docstrings -/

theorem mem_escapeLastQuote_iff {c : Char} {cs : List Char} (mark : c ≠ '"') (back : c ≠ '\\') :
    c ∈ escapeLastQuote cs ↔ c ∈ cs := by
  refine ⟨fun h => ?_, fun h => mem_escapeLastQuote h mark⟩
  rw [escapeLastQuote] at h
  split at h
  · have kept : c ∈ cs.dropLast := by simpa [mark, back] using h
    exact (List.dropLast_sublist cs).subset kept
  · exact h

theorem feed_mem_docstringBody_iff {cs : List Char} :
    '\n' ∈ docstringBody cs ↔ '\n' ∈ trim cs := by
  rw [docstringBody_eq, mem_escapeLastQuote_iff (by decide) (by decide),
    mem_escapeMarks_iff (by decide)]

/-- The line break in front of the closing marks, if a text has several lines. -/
def feedOf (cs : List Char) : List Char := if '\n' ∈ cs then ['\n'] else []

theorem docstringChars_eq (cs : List Char) :
    docstringChars cs = tripleQuote ++
      (escapeLastQuote (escapeMarks (trim cs)) ++ (feedOf (trim cs) ++ tripleQuote)) := by
  simp only [docstringChars, feedOf, feed_mem_docstringBody_iff, List.append_assoc]
  rw [docstringBody_eq]

theorem readOpen_feedOf (cs : List Char) :
    readOpen (feedOf cs ++ tripleQuote) = some (feedOf cs, []) := by
  rw [feedOf]
  split <;> rfl

/-- What is read of a docstring.  If the number of marks at the end of its text is a multiple
of three, there is a backslash in front of the last one.  In a docstring of one line this mark
is the first of those that close it. -/
theorem readDocstring_docstringChars (cs : List Char) :
    readDocstring (docstringChars cs) =
      some (if EndsInTriples (trim cs) then
          if '\n' ∈ trim cs then ((trim cs).dropLast ++ ['\\', '"', '\n'], [])
          else ((trim cs).dropLast ++ ['\\'], ['"'])
        else (trim cs ++ feedOf (trim cs), [])) := by
  rw [docstringChars_eq]
  generalize trim cs = text
  show readOpen (escapeLastQuote (escapeMarks text) ++ (feedOf text ++ tripleQuote)) = _
  rcases escapeMarks_cases text with
    ⟨last, single⟩ | ⟨front, whole, escaped, single⟩ | ⟨front, whole, escaped, triple⟩
  · rw [if_neg single, escapeLastQuote, getLast?_escapeMarks, if_neg last,
      readOpen_escapeMarks (.inl last), readOpen_feedOf]
    rfl
  · have closing : readOpen ('\\' :: '"' :: (feedOf text ++ tripleQuote)) =
        some ('"' :: feedOf text, []) := by
      simp [readOpen, readOpen_feedOf]
    rw [if_neg single, escaped, escapeLastQuote_append, List.append_assoc,
      readOpen_escapeMarks (.inr (by simp))]
    show (readOpen ('\\' :: '"' :: (feedOf text ++ tripleQuote))).map _ = _
    rw [closing, Option.map_some]
    simp [whole]
  · have body : escapeLastQuote (escapeMarks text) =
        escapeMarks front ++ ['\\', '"', '\\', '"', '\\', '\\', '"'] := by
      have cut : escapeMarks front ++ escapedTripleQuote =
          (escapeMarks front ++ ['\\', '"', '\\', '"', '\\']) ++ ['"'] := by
        simp [escapedTripleQuote]
      rw [escaped, cut, escapeLastQuote_append, List.append_assoc]
      rfl
    have init : text.dropLast = front ++ ['"', '"'] := by
      rw [whole, tripleQuote, List.dropLast_append_of_ne_nil (by simp)]
      rfl
    rw [if_pos triple, body, init, List.append_assoc, readOpen_escapeMarks (.inr (by simp)), feedOf]
    split <;> simp [readOpen, tripleQuote]

/-- A docstring ends at its last three marks and says its text, trimmed and with a line break
behind several lines, exactly if the number of marks at the end of the text is none or no
multiple of three.  Otherwise it says another text, and if it has one line it also ends one
mark too early. -/
theorem readDocstring_docstring (s : String) :
    (readDocstring (docstring s).toList =
        some (trim s.toList ++ if '\n' ∈ trim s.toList then ['\n'] else [], []) ↔
      ¬ EndsInTriples (trim s.toList)) ∧
    (EndsInTriples (trim s.toList) →
      readDocstring (docstring s).toList =
        some (if '\n' ∈ trim s.toList then ((trim s.toList).dropLast ++ ['\\', '"', '\n'], [])
          else ((trim s.toList).dropLast ++ ['\\'], ['"']))) := by
  have read := readDocstring_docstringChars s.toList
  rw [docstring, String.toList_ofList, read]
  by_cases triple : EndsInTriples (trim s.toList)
  · simp only [triple, if_true, not_true_eq_false, iff_false, true_imp_iff]
    refine ⟨fun same => ?_, trivial⟩
    -- The text that is read is one character longer, or something is left over.
    have lengths := congrArg (Option.map fun r => r.1.length + r.2.length) same
    split at lengths <;> simp at lengths <;> omega
  · simp [triple, feedOf]

/-- Two marks at the end are read back.  Three are not, in one line or in two. -/
theorem readDocstring_of_marks :
    readDocstring (docstring "a\"\"").toList = some ("a\"\"".toList, []) ∧
      readDocstring (docstring "a\"\"\"").toList = some ("a\"\"\\".toList, ['"']) ∧
      readDocstring (docstring "b\na\"\"\"").toList = some ("b\na\"\"\\\"\n".toList, []) :=
  ⟨(readDocstring_docstring "a\"\"").1.mpr (by decide),
    (readDocstring_docstring "a\"\"\"").2 (by decide),
    (readDocstring_docstring "b\na\"\"\"").2 (by decide)⟩

end ContractClient.Text
