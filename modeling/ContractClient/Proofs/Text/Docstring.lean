import ContractClient.Proofs.Text.Lines
import ContractClient.Proofs.Text.Trim
import ContractClient.Text.Docstring

/-!
# Where a docstring ends

A literal between triple quotation marks ends at the first three marks in a row that no
backslash takes.  `behindDocstring` reads such a literal, behind its indentation, and gives
what follows it.

The reader is followed by a machine that takes one character at a time (`Scan`).  After a
line break the machine is where spaces do not move it, so a text may be indented, and its
tabs may be replaced, without any change to where the literal ends (`run_indent`,
`run_detab`).  What remains is the text of a docstring as it was quoted.

There a backslash is doubled and three marks in a row are escaped, so the marks inside never
close the literal (`within_escapeMarks`).  Only the end of the text needs care.  A docstring of
several lines closes on a line of its own, whatever its text is (`run_docstring_of_feed`).  A
docstring of one line closes in its place unless its text ends in two marks or more
(`run_docstring_of_line`): three marks at the end would be escaped as a whole, and the mark
that is escaped once more after that is not the one which needs it.
-/

namespace ContractClient.Text

/-! ## The reader -/

/-- The text behind a literal that is open.  A backslash takes the next character with it. -/
def behindClosing : List Char → Option (List Char)
  | [] => none
  | '\\' :: _ :: cs => behindClosing cs
  | '"' :: '"' :: '"' :: cs => some cs
  | _ :: cs => behindClosing cs

/-- The text behind a literal with an indentation in front of it. -/
def behindDocstring : List Char → Option (List Char)
  | [] => none
  | '"' :: '"' :: '"' :: cs => behindClosing cs
  | c :: cs => if c = ' ' ∨ c = '\t' then behindDocstring cs else none

theorem behindClosing_cons {c : Char} (cs : List Char) (mark : c ≠ '"') (back : c ≠ '\\') :
    behindClosing (c :: cs) = behindClosing cs := by
  rw [behindClosing]
  · rintro _ _ rfl
    exact absurd rfl back
  · rintro _ rfl
    exact absurd rfl mark

/-! ## The machine -/

/-- How far a literal has been read: up to the indentation in front of it, up to one or two
of its opening marks, up to its text or to one or two marks of it, up to a backslash, or up to
its closing marks.  Nothing may follow those. -/
inductive Scan where
  | ahead
  | first
  | second
  | inside
  | one
  | two
  | escaped
  | closed
  | failed

namespace Scan

/-- The next character of the text. -/
def goOn (marked : Scan) (c : Char) : Scan :=
  if c = '\\' then escaped else if c = '"' then marked else inside

/-- The next character.  Only backslashes and marks are escaped. -/
def step : Scan → Char → Scan
  | ahead, c => if c = '"' then first else if c = ' ' ∨ c = '\t' then ahead else failed
  | first, c => if c = '"' then second else failed
  | second, c => if c = '"' then inside else failed
  | inside, c => goOn one c
  | one, c => goOn two c
  | two, c => goOn closed c
  | escaped, c => if c = '\\' ∨ c = '"' then inside else failed
  | closed, _ => failed
  | failed, _ => failed

def run (st : Scan) (cs : List Char) : Scan := cs.foldl step st

@[simp]
theorem run_nil (st : Scan) : run st [] = st := rfl

@[simp]
theorem run_cons (st : Scan) (c : Char) (cs : List Char) : run st (c :: cs) = run (step st c) cs :=
  rfl

theorem run_append (st : Scan) (as bs : List Char) : run st (as ++ bs) = run (run st as) bs :=
  List.foldl_append

theorem run_failed (cs : List Char) : run failed cs = failed := by
  induction cs with
  | nil => rfl
  | cons c cs ih => simpa [step] using ih

/-! ### The machine follows the reader -/

/-- What the reader gives from here on. -/
def read : Scan → List Char → Option (List Char)
  | ahead, cs => behindDocstring cs
  | first, cs => behindDocstring ('"' :: cs)
  | second, cs => behindDocstring ('"' :: '"' :: cs)
  | inside, cs => behindClosing cs
  | one, cs => behindClosing ('"' :: cs)
  | two, cs => behindClosing ('"' :: '"' :: cs)
  | escaped, cs => behindClosing ('\\' :: cs)
  | closed, cs => some cs
  | failed, _ => none

theorem read_goOn {st marked : Scan} (cs : List Char)
    (mark : st.read ('"' :: cs) = marked.read cs)
    (other : ∀ c ≠ '"', st.read (c :: cs) = behindClosing (c :: cs)) (c : Char) :
    st.read (c :: cs) = (goOn marked c).read cs := by
  rw [goOn]
  split
  next back => rw [other c (by simp [back]), back, read]
  next plain =>
    split
    next same => rw [same, mark]
    next unmarked => rw [other c unmarked, behindClosing_cons cs unmarked plain, read]

theorem read_step {st : Scan} {c : Char} (h : st.step c ≠ failed) (cs : List Char) :
    st.read (c :: cs) = (st.step c).read cs := by
  cases st with
  | ahead =>
      rw [step] at h ⊢
      split
      next mark => rw [mark, read, read]
      next =>
        split
        next blank => rcases blank with rfl | rfl <;> rfl
        next => simp_all
  | first => simp_all [step, read]
  | second =>
      have mark : c = '"' := by simpa [step] using h
      simp [step, mark, read, behindDocstring]
  | inside => exact read_goOn cs rfl (fun _ _ => rfl) c
  | one =>
      refine read_goOn cs rfl (fun d mark => ?_) c
      simp [read, behindClosing, mark]
  | two =>
      refine read_goOn cs (by simp [read, behindClosing]) (fun d mark => ?_) c
      simp [read, behindClosing, mark]
  | escaped =>
      have taken : c = '\\' ∨ c = '"' := by simpa [step, or_iff_not_imp_left] using h
      rw [step, if_pos taken, read, read, behindClosing]
  | closed => simp [step] at h
  | failed => simp [step] at h

theorem read_run {st : Scan} {cs : List Char} (h : st.run cs ≠ failed) (rest : List Char) :
    st.read (cs ++ rest) = (st.run cs).read rest := by
  induction cs generalizing st with
  | nil => rfl
  | cons c cs ih =>
      have next : st.step c ≠ failed := by
        intro stop
        rw [run_cons, stop, run_failed] at h
        exact h rfl
      rw [List.cons_append, read_step next, ih (by simpa using h), run_cons]

/-- A literal on which the machine closes ends where the machine does. -/
theorem behindDocstring_append {cs : List Char} (h : run ahead cs = closed) (rest : List Char) :
    behindDocstring (cs ++ rest) = some rest := by
  have there : run ahead cs ≠ failed := by simp [h]
  have whole := read_run there rest
  rwa [h] at whole

/-! ### Spaces -/

theorem ne_of_isLineBreak {c : Char} (h : isLineBreak c = true) :
    c ≠ '"' ∧ c ≠ '\\' ∧ c ≠ ' ' ∧ c ≠ '\t' := by
  refine ⟨?_, ?_, ?_, ?_⟩ <;> rintro rfl <;> simp [isLineBreak] at h

/-- The machine is where spaces do not move it. -/
def Settled (st : Scan) : Prop := st = ahead ∨ st = inside ∨ st = failed

theorem settled_step {c : Char} (h : isLineBreak c = true) (st : Scan) : (st.step c).Settled := by
  obtain ⟨mark, back, space, tab⟩ := ne_of_isLineBreak h
  cases st <;> simp [step, goOn, Settled, mark, back, space, tab]

theorem run_level {st : Scan} (h : st.Settled) : run st level = st := by
  rcases h with rfl | rfl | rfl <;> rfl

/-- Lines of which all but the first are indented. -/
def hanging : List (List Char) → List Char
  | [] => []
  | l :: ls => l ++ ls.flatMap indentLine

theorem hanging_consFirst (c : Char) (ls : List (List Char)) :
    hanging (consFirst c ls) = c :: hanging ls := by
  cases ls <;> rfl

theorem run_flatMap_indentLine {st : Scan} (h : st.Settled) (ls : List (List Char)) :
    run st (ls.flatMap indentLine) = run st (hanging ls) := by
  cases ls with
  | nil => rfl
  | cons l ls =>
      rw [List.flatMap_cons, hanging, indentLine]
      split
      · rfl
      · rw [List.append_assoc, run_append, run_level h]

theorem run_hanging (st : Scan) (cs : List Char) : run st (hanging (splitLines cs)) = run st cs := by
  -- Behind a break the machine is settled, so the spaces of the next line do not count.
  fun_induction splitLines cs generalizing st with
  | case1 => rfl
  | case2 cs ih =>
      have feed : ((st.step '\r').step '\n').Settled := settled_step (by decide) _
      simp only [hanging, List.cons_append, List.nil_append, run_cons]
      rw [run_flatMap_indentLine feed, ih]
  | case3 c cs _ broken ih =>
      simp only [hanging, List.cons_append, List.nil_append, run_cons]
      rw [run_flatMap_indentLine (settled_step broken st), ih]
  | case4 c cs _ _ ih => rw [hanging_consFirst, run_cons, run_cons, ih]

theorem run_indent {st : Scan} (h : st.Settled) (cs : List Char) :
    run st (indent cs) = run st cs := by
  rw [indent, run_flatMap_indentLine h, run_hanging]

theorem run_detab (st : Scan) (cs : List Char) : run st (detab cs) = run st cs := by
  induction cs generalizing st with
  | nil => rfl
  | cons c cs ih =>
      have split : detab (c :: cs) = (if c = '\t' then level else [c]) ++ detab cs :=
        List.flatMap_cons
      rw [split, run_append, ih, run_cons]
      congr 1
      split
      next tab => cases st <;> simp [tab, step, goOn, level]
      next => rfl

/-! ### Inside the text -/

/-- The machine is behind the opening marks. -/
def Begun (st : Scan) : Prop := st ≠ ahead ∧ st ≠ first ∧ st ≠ second

theorem Begun.step {st : Scan} (h : st.Begun) (c : Char) : (st.step c).Begun := by
  obtain ⟨notAhead, notFirst, notSecond⟩ := h
  have goOn (marked : Scan) (later : marked.Begun) : (goOn marked c).Begun := by
    rw [Scan.goOn]
    split
    · simp [Begun]
    · split
      · exact later
      · simp [Begun]
  cases st with
  | ahead | first | second => contradiction
  | inside | one | two => exact goOn _ (by simp [Begun])
  | escaped => by_cases taken : c = '\\' ∨ c = '"' <;> simp [Scan.step, taken, Begun]
  | closed | failed => simp [Scan.step, Begun]

theorem Begun.run {st : Scan} (h : st.Begun) (cs : List Char) : (st.run cs).Begun := by
  induction cs generalizing st with
  | nil => exact h
  | cons c cs ih => exact ih (h.step c)

/-- The machine is inside the text, and not behind a backslash. -/
def Within (st : Scan) : Prop := st = inside ∨ st = one ∨ st = two

theorem eq_inside_of_within_step {st : Scan} {c : Char} (h : (st.step c).Within) (mark : c ≠ '"') :
    st.step c = inside := by
  by_cases back : c = '\\'
  · cases st <;> simp_all [step, goOn, Within]
  · cases st with
    | ahead => by_cases blank : c = ' ' ∨ c = '\t' <;> simp [step, Within, mark, blank] at h
    | _ => simp_all [step, goOn, Within]

theorem eq_inside_of_getLast? {cs : List Char} (h : (run inside cs).Within)
    (last : cs.getLast? ≠ some '"') : run inside cs = inside := by
  rcases List.eq_nil_or_concat cs with rfl | ⟨cs, c, rfl⟩
  · rfl
  · rw [List.concat_eq_append] at h last ⊢
    rw [run_append] at h ⊢
    exact eq_inside_of_within_step h fun mark => last (by simp [mark])

end Scan

/-! ## The escaped text -/

/-- A text with its backslashes doubled and three marks in a row escaped. -/
def escapeMarks : List Char → List Char
  | [] => []
  | '"' :: '"' :: '"' :: cs => escapedTripleQuote ++ escapeMarks cs
  | c :: cs => if c = '\\' then '\\' :: '\\' :: escapeMarks cs else c :: escapeMarks cs

theorem escapeMarks_cons {c : Char} {cs : List Char} (h : c = '"' → ¬ ['"', '"'] <+: cs)
    (back : c ≠ '\\') : escapeMarks (c :: cs) = c :: escapeMarks cs := by
  rw [escapeMarks, if_neg back]
  rintro rest rfl rfl
  exact h rfl ⟨rest, rfl⟩

/-- Doubling backslashes makes no marks. -/
theorem marks_of_doubled {n : Nat} {cs : List Char}
    (h : List.replicate n '"' <+: cs.flatMap fun c => if c = '\\' then ['\\', '\\'] else [c]) :
    List.replicate n '"' <+: cs := by
  induction n generalizing cs with
  | zero => exact List.nil_prefix
  | succ n ih =>
      cases cs with
      | nil => simp [List.replicate_succ] at h
      | cons c cs =>
          rw [List.flatMap_cons, List.replicate_succ] at h
          split at h
          · simp at h
          · rw [List.singleton_append, List.cons_prefix_cons] at h
            exact List.cons_prefix_cons.mpr ⟨h.1, ih h.2⟩

theorem replace_append {old : List Char} (nonempty : old ≠ []) (new rest : List Char) :
    replace old new (old ++ rest) = new ++ replace old new rest := by
  cases old with
  | nil => exact absurd rfl nonempty
  | cons c old =>
      have there : (c :: old).isPrefixOf (c :: old ++ rest) = true :=
        List.isPrefixOf_iff_prefix.mpr (List.prefix_append _ _)
      rw [List.cons_append] at there ⊢
      rw [replace, there]
      simp

theorem replace_cons {old cs : List Char} {c : Char} (h : ¬ old <+: c :: cs) (new : List Char) :
    replace old new (c :: cs) = c :: replace old new cs := by
  have other : old.isPrefixOf (c :: cs) = false := by
    rw [← Bool.not_eq_true, List.isPrefixOf_iff_prefix]
    exact h
  rw [replace, other]
  rfl

/-- This is how a docstring is escaped. -/
theorem replace_doubled (cs : List Char) :
    replace tripleQuote escapedTripleQuote
      (cs.flatMap fun c => if c = '\\' then ['\\', '\\'] else [c]) = escapeMarks cs := by
  fun_induction escapeMarks cs with
  | case1 => simp [replace]
  | case2 cs ih => exact (replace_append (by decide) _ _).trans (congrArg _ ih)
  | case3 cs _ ih =>
      rw [List.flatMap_cons, if_pos rfl, List.cons_append, List.cons_append, List.nil_append,
        replace_cons (by simp [tripleQuote]), replace_cons (by simp [tripleQuote]), ih]
  | case4 c cs single back ih =>
      rw [List.flatMap_cons, if_neg back, List.singleton_append, replace_cons, ih]
      intro marked
      obtain ⟨mark, others⟩ := List.cons_prefix_cons.mp marked
      obtain ⟨rest, rfl⟩ := marks_of_doubled (n := 2) others
      exact single rest mark.symm rfl

/-! ### Reading it -/

/-- The marks of an escaped text do not close a literal.  Behind marks that are open
already, the text must not have the ones that are missing to three. -/
theorem within_escapeMarks (cs : List Char) :
    (Scan.run .inside (escapeMarks cs)).Within ∧
      (¬ ['"', '"'] <+: cs → (Scan.run .one (escapeMarks cs)).Within) ∧
      (cs.head? ≠ some '"' → (Scan.run .two (escapeMarks cs)).Within) := by
  fun_induction escapeMarks cs with
  | case1 => simp [Scan.Within]
  | case2 cs ih =>
      refine ⟨ih.1, fun apart => absurd ⟨_, rfl⟩ apart, fun other => absurd rfl other⟩
  | case3 cs _ ih => exact ⟨ih.1, fun _ => ih.1, fun _ => ih.1⟩
  | case4 c cs single back ih =>
      by_cases mark : c = '"'
      · subst mark
        have apart : ¬ ['"', '"'] <+: cs := by
          rintro ⟨rest, rfl⟩
          exact single rest rfl rfl
        refine ⟨ih.2.1 apart, fun pair => ih.2.2 ?_, fun other => absurd rfl other⟩
        intro head
        obtain ⟨rest, rfl⟩ := List.head?_eq_some_iff.mp head
        exact pair ⟨rest, rfl⟩
      · have on (marked : Scan) : Scan.goOn marked c = .inside := by
          rw [Scan.goOn, if_neg back, if_neg mark]
        simp only [Scan.run_cons, Scan.step, on]
        exact ⟨ih.1, fun _ => ih.1, fun _ => ih.1⟩

/-! ### Its ends -/

theorem mem_escapeMarks {c : Char} {cs : List Char} (h : c ∈ cs) : c ∈ escapeMarks cs := by
  fun_induction escapeMarks cs with
  | case1 => cases h
  | case2 cs ih =>
      simp only [List.mem_cons] at h
      rcases h with rfl | rfl | rfl | h
      · simp [escapedTripleQuote]
      · simp [escapedTripleQuote]
      · simp [escapedTripleQuote]
      · exact List.mem_append_right _ (ih h)
  | case3 cs _ ih =>
      rcases List.mem_cons.mp h with rfl | h
      · exact List.mem_cons_self
      · simp [ih h]
  | case4 d cs _ _ ih =>
      rcases List.mem_cons.mp h with rfl | h
      · exact List.mem_cons_self
      · simp [ih h]

theorem getLast?_escapeMarks (cs : List Char) : (escapeMarks cs).getLast? = cs.getLast? := by
  fun_induction escapeMarks cs with
  | case1 => rfl
  | case2 cs ih => simp [escapedTripleQuote, List.getLast?_cons, ih]
  | case3 cs _ ih => simp [List.getLast?_cons, ih]
  | case4 c cs _ _ ih => simp [List.getLast?_cons, ih]

/-- Parts are escaped one by one, unless there are marks on both sides of the cut. -/
theorem escapeMarks_append {as bs : List Char}
    (h : as.getLast? ≠ some '"' ∨ bs.head? ≠ some '"') :
    escapeMarks (as ++ bs) = escapeMarks as ++ escapeMarks bs := by
  have later : ∀ {c : Char} {cs : List Char}, (c :: cs).getLast? ≠ some '"' ∨ bs.head? ≠ some '"' →
      cs.getLast? ≠ some '"' ∨ bs.head? ≠ some '"' := by
    intro c cs either
    refine either.imp_left fun last end_ => last ?_
    rw [List.getLast?_cons, end_]
    rfl
  fun_induction escapeMarks as with
  | case1 => rfl
  | case2 as ih =>
      show escapedTripleQuote ++ escapeMarks (as ++ bs) = _
      rw [ih (later (later (later h))), List.append_assoc]
  | case3 as _ ih =>
      rw [List.cons_append, escapeMarks, if_pos rfl, ih (later h)]
      · rfl
      · intro rest mark
        cases mark
  | case4 c as single back ih =>
      rw [List.cons_append, escapeMarks_cons _ back, ih (later h), List.cons_append]
      rintro rfl marks
      -- Three marks with the cut between them need marks on both of its sides.
      cases as with
      | nil =>
          obtain ⟨rest, rfl⟩ := marks
          simp at h
      | cons d as =>
          rw [List.cons_append, List.cons_prefix_cons] at marks
          obtain ⟨rfl, marks⟩ := marks
          cases as with
          | nil =>
              obtain ⟨rest, rfl⟩ := marks
              simp at h
          | cons e as =>
              rw [List.cons_append, List.cons_prefix_cons] at marks
              obtain ⟨rfl, -⟩ := marks
              exact single as rfl rfl

theorem ne_of_isBlank {c : Char} (h : isBlank c = true) : c ≠ '"' ∧ c ≠ '\\' := by
  constructor <;> rintro rfl <;> simp [isBlank] at h

theorem escapeMarks_cons_of_isBlank {c : Char} (h : isBlank c = true) (cs : List Char) :
    escapeMarks (c :: cs) = c :: escapeMarks cs :=
  escapeMarks_cons (fun mark => absurd mark (ne_of_isBlank h).1) (ne_of_isBlank h).2

theorem escapeMarks_of_blank {cs : List Char} (h : cs.all isBlank = true) : escapeMarks cs = cs := by
  induction cs with
  | nil => rfl
  | cons c cs ih =>
      rw [List.all_cons, Bool.and_eq_true] at h
      rw [escapeMarks_cons_of_isBlank h.1, ih h.2]

theorem head?_escapeMarks {c : Char} {cs : List Char} (h : isBlank c = false) :
    ∀ d, (escapeMarks (c :: cs)).head? = some d → isBlank d = false := by
  intro d hd
  rw [escapeMarks.eq_def] at hd
  split at hd
  next none => cases none
  next => cases hd; rfl
  next same =>
    cases same
    split at hd
    · cases hd; rfl
    · cases hd; exact h

/-- Blanks are not escaped, so a text may be trimmed before or after. -/
theorem trim_escapeMarks (cs : List Char) : trim (escapeMarks cs) = escapeMarks (trim cs) := by
  have left : trimLeft (escapeMarks cs) = escapeMarks (trimLeft cs) := by
    induction cs with
    | nil => rfl
    | cons c cs ih =>
        cases blank : isBlank c with
        | true =>
            rw [escapeMarks_cons_of_isBlank blank, trimLeft, trimLeft,
              List.dropWhile_cons_of_pos blank, List.dropWhile_cons_of_pos blank]
            exact ih
        | false =>
            rw [trimLeft, trimLeft, dropWhile_isBlank_eq_self (head?_escapeMarks blank),
              List.dropWhile_cons_of_neg (by simp [blank])]
  obtain ⟨back, whole, blank⟩ := exists_trimRight (trimLeft cs)
  have apart : back.head? ≠ some '"' := by
    intro mark
    exact (ne_of_isBlank (List.all_eq_true.mp blank _ (List.mem_of_head? mark))).1 rfl
  have right : escapeMarks (trimLeft cs) = escapeMarks (trim cs) ++ back := by
    rw [trim, ← escapeMarks_of_blank blank, ← escapeMarks_append (Or.inr apart), ← whole]
  rw [trim, left, right, trimRight_append_of_blank blank, trimRight_eq_self]
  intro c hc
  rw [getLast?_escapeMarks] at hc
  exact getLast?_trimRight hc

/-! ## Docstrings -/

theorem docstringBody_eq (cs : List Char) :
    docstringBody cs = escapeLastQuote (escapeMarks (trim cs)) := by
  rw [docstringBody, replace_doubled, trim_escapeMarks]

theorem run_docstringChars {cs : List Char} (h : (Scan.run .inside (docstringBody cs)).Within)
    (alone : '\n' ∉ docstringBody cs → Scan.run .inside (docstringBody cs) = .inside) :
    Scan.run .ahead (docstringChars cs) = .closed := by
  have feed : ∀ st : Scan, st.Within → st.run ['\n'] = .inside := by
    rintro st (rfl | rfl | rfl) <;> rfl
  have opened : Scan.run .ahead tripleQuote = .inside := rfl
  have closing : Scan.run .inside tripleQuote = .closed := rfl
  rw [docstringChars, Scan.run_append, Scan.run_append, Scan.run_append, opened]
  split
  next => rw [feed _ h, closing]
  next single => rw [alone single, Scan.run_nil, closing]

theorem mem_escapeLastQuote {c : Char} {cs : List Char} (h : c ∈ cs) (other : c ≠ '"') :
    c ∈ escapeLastQuote cs := by
  rw [escapeLastQuote]
  split
  next last =>
    obtain ⟨front, rfl⟩ := List.getLast?_eq_some_iff.mp last
    have kept : c ∈ front := by simpa [other] using h
    simp [kept]
  next => exact h

theorem escapeLastQuote_append (cs : List Char) :
    escapeLastQuote (cs ++ ['"']) = cs ++ ['\\', '"'] := by
  simp [escapeLastQuote]

theorem within_escapeLastQuote {cs : List Char} (h : (Scan.run .inside cs).Within) :
    (Scan.run .inside (escapeLastQuote cs)).Within := by
  by_cases last : cs.getLast? = some '"'
  · obtain ⟨front, rfl⟩ := List.getLast?_eq_some_iff.mp last
    have begun : (Scan.run .inside front).Begun := Scan.Begun.run (by simp [Scan.Begun]) front
    rw [Scan.run_append] at h
    rw [escapeLastQuote_append, Scan.run_append]
    -- The mark may have been escaped already, and then it is open again.
    cases state : Scan.run .inside front <;>
      simp_all [Scan.step, Scan.goOn, Scan.Within, Scan.Begun]
  · rwa [escapeLastQuote, if_neg last]

/-- A docstring of several lines closes on a line of its own. -/
theorem run_docstring_of_feed {as bs : List Char} (has : as.all isBlank = false)
    (hbs : bs.all isBlank = false) :
    Scan.run .ahead (docstringChars (as ++ '\n' :: bs)) = .closed := by
  have feed : '\n' ∈ docstringBody (as ++ '\n' :: bs) := by
    rw [docstringBody_eq]
    exact mem_escapeLastQuote (mem_escapeMarks (mem_trim_of_between has hbs '\n')) (by decide)
  refine run_docstringChars ?_ fun none => absurd feed none
  rw [docstringBody_eq]
  exact within_escapeLastQuote (within_escapeMarks _).1

/-- A docstring of one line closes in its place if its text does not end in two marks. -/
theorem run_docstring_of_line {cs : List Char}
    (last : ∀ c, cs.getLast? = some c → isBlank c = false) (h : ¬ ['"', '"'] <:+ cs) :
    Scan.run .ahead (docstringChars cs) = .closed := by
  have single : ¬ ['"', '"'] <:+ trim cs := fun marks => h (marks.trans (trim_suffix last))
  have inside : Scan.run .inside (docstringBody cs) = .inside := by
    rw [docstringBody_eq]
    by_cases mark : (trim cs).getLast? = some '"'
    · obtain ⟨front, trimmed⟩ := List.getLast?_eq_some_iff.mp mark
      rw [trimmed] at single ⊢
      have apart : front.getLast? ≠ some '"' := by
        intro another
        obtain ⟨front, rfl⟩ := List.getLast?_eq_some_iff.mp another
        exact single ⟨front, by simp⟩
      have before : Scan.run .inside (escapeMarks front) = .inside :=
        Scan.eq_inside_of_getLast? (within_escapeMarks front).1 (by rwa [getLast?_escapeMarks])
      rw [escapeMarks_append (Or.inl apart)]
      show Scan.run .inside (escapeLastQuote (escapeMarks front ++ ['"'])) = .inside
      rw [escapeLastQuote_append, Scan.run_append, before]
      rfl
    · rw [escapeLastQuote, getLast?_escapeMarks, if_neg mark]
      exact Scan.eq_inside_of_getLast? (within_escapeMarks _).1 (by rwa [getLast?_escapeMarks])
  exact run_docstringChars (Or.inl inside) fun _ => inside

end ContractClient.Text
