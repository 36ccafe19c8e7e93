import ContractClient.Text.Lines

/-!
# Moving lines

A text that is built from parts with line feeds between them is indented part by part
(`indent_intercalate`), whatever the parts hold.  A part that is one line gets one level in
front (`indent_of_isLine`), and a longer one gets it in front of its first line
(`exists_indent_append`).  Tabs are replaced part by part in any case.

The first characters of the lines of a text are those of the parts, too, if no part ends in
a break (`map_head?_intercalate`).
-/

namespace ContractClient.Text

/-! ## Lines -/

/-- Whether a text has no line break and no tab. -/
def isPlain (cs : List Char) : Bool := cs.all fun c => !isLineBreak c && c != '\t'

/-- Whether a text is one line without tabs that shows something. -/
def isLine (cs : List Char) : Bool := isPlain cs && !cs.all isBlank

theorem isPlain_append (as bs : List Char) : isPlain (as ++ bs) = (isPlain as && isPlain bs) :=
  List.all_append

theorem isPlain_of_isLine {cs : List Char} (h : isLine cs = true) : isPlain cs = true :=
  (Bool.and_eq_true_iff.mp h).1

theorem isBlank_of_isLine {cs : List Char} (h : isLine cs = true) : cs.all isBlank = false := by
  simpa using (Bool.and_eq_true_iff.mp h).2

theorem ne_nil_of_isLine {cs : List Char} (h : isLine cs = true) : cs ≠ [] := by
  rintro rfl
  cases h

theorem isLine_append {as bs : List Char} (has : isLine as = true) (hbs : isPlain bs = true) :
    isLine (as ++ bs) = true := by
  rw [isLine, isPlain_append, isPlain_of_isLine has, hbs, List.all_append, isBlank_of_isLine has]
  rfl

theorem isLine_append_left {as bs : List Char} (has : isPlain as = true) (hbs : isLine bs = true) :
    isLine (as ++ bs) = true := by
  rw [isLine, isPlain_append, has, isPlain_of_isLine hbs, List.all_append, isBlank_of_isLine hbs,
    Bool.and_false]
  rfl

theorem isPlain_iff {cs : List Char} :
    isPlain cs = true ↔ ∀ c ∈ cs, isLineBreak c = false ∧ c ≠ '\t' := by
  simp [isPlain]

/-! ## Splitting -/

theorem splitLines_cons {c : Char} {cs : List Char} (h : c = '\r' → cs.head? ≠ some '\n') :
    splitLines (c :: cs) =
      if isLineBreak c then [c] :: splitLines cs else consFirst c (splitLines cs) := by
  rw [splitLines]
  rintro rest rfl rfl
  exact h rfl rfl

/-- A line feed ends the line it stands behind.  This line may be empty, and it may end in
a carriage return. -/
theorem splitLines_append_feed (as bs : List Char) :
    ∃ ls l, splitLines (as ++ '\n' :: bs) = ls ++ (l ++ ['\n']) :: splitLines bs ∧
      (splitLines as = ls ++ [l] ∨ splitLines as = ls ∧ l = []) := by
  fun_induction splitLines as with
  | case1 => exact ⟨[], [], splitLines_cons (fun feed => absurd feed (by decide)), Or.inr ⟨rfl, rfl⟩⟩
  | case2 as ih =>
      obtain ⟨ls, l, split, either⟩ := ih
      refine ⟨['\r', '\n'] :: ls, l, congrArg (['\r', '\n'] :: ·) split, ?_⟩
      rcases either with same | ⟨same, empty⟩
      · exact Or.inl (congrArg (['\r', '\n'] :: ·) same)
      · exact Or.inr ⟨congrArg (['\r', '\n'] :: ·) same, empty⟩
  | case3 c as apart broken ih =>
      by_cases pair : c = '\r' ∧ as = []
      · -- The line feed joins the carriage return before it.
        obtain ⟨rfl, rfl⟩ := pair
        exact ⟨[], ['\r'], rfl, Or.inl rfl⟩
      · obtain ⟨ls, l, split, either⟩ := ih
        have ends : splitLines (c :: (as ++ '\n' :: bs)) = [c] :: splitLines (as ++ '\n' :: bs) := by
          rw [splitLines_cons, if_pos broken]
          intro hc
          cases as with
          | nil => exact absurd ⟨hc, rfl⟩ pair
          | cons d as => exact fun head => apart as hc (congrArg (· :: as) (Option.some.inj head))
        refine ⟨[c] :: ls, l, ends.trans (congrArg ([c] :: ·) split), ?_⟩
        rcases either with same | ⟨same, empty⟩
        · exact Or.inl (congrArg ([c] :: ·) same)
        · exact Or.inr ⟨congrArg ([c] :: ·) same, empty⟩
  | case4 c as apart unbroken ih =>
      obtain ⟨ls, l, split, either⟩ := ih
      have continues : splitLines (c :: (as ++ '\n' :: bs)) =
          consFirst c (splitLines (as ++ '\n' :: bs)) := by
        rw [splitLines_cons, if_neg unbroken]
        rintro rfl
        exact absurd rfl unbroken
      rw [List.cons_append, continues, split]
      cases ls with
      | nil =>
          refine ⟨[], c :: l, rfl, Or.inl ?_⟩
          rcases either with same | ⟨same, rfl⟩
          · rw [same]; rfl
          · rw [same]; rfl
      | cons first ls =>
          refine ⟨(c :: first) :: ls, l, rfl, ?_⟩
          rcases either with same | ⟨same, empty⟩
          · exact Or.inl (by rw [same]; rfl)
          · exact Or.inr ⟨by rw [same]; rfl, empty⟩

/-- A text without a break in front belongs to the first line. -/
theorem splitLines_append_of_isPlain {as : List Char} (h : isPlain as = true) (nonempty : as ≠ [])
    (bs : List Char) : ∃ l ls, splitLines (as ++ bs) = (as ++ l) :: ls ∧ (bs = [] → l = [] ∧ ls = []) := by
  induction as with
  | nil => exact absurd rfl nonempty
  | cons c as ih =>
      have unbroken := (isPlain_iff.mp h c List.mem_cons_self).1
      have continues : splitLines (c :: (as ++ bs)) = consFirst c (splitLines (as ++ bs)) := by
        rw [splitLines_cons, unbroken]
        · rfl
        · rintro rfl
          cases unbroken
      rw [List.cons_append, continues]
      cases as with
      | nil =>
          rw [List.nil_append]
          cases split : splitLines bs with
          | nil => exact ⟨[], [], rfl, fun _ => ⟨rfl, rfl⟩⟩
          | cons l ls =>
              refine ⟨l, ls, rfl, ?_⟩
              rintro rfl
              cases split
      | cons d as =>
          obtain ⟨l, ls, split, alone⟩ :=
            ih (Bool.and_eq_true_iff.mp h).2 (List.cons_ne_nil d as)
          rw [split]
          exact ⟨l, ls, rfl, alone⟩

/-! ## First characters -/

theorem map_head?_consFirst (c : Char) (ls : List (List Char)) :
    (consFirst c ls).map List.head? = some c :: (ls.map List.head?).tail := by
  cases ls <;> rfl

/-- A text without a break in front gives its first character to the first line. -/
theorem map_head?_append_of_isPlain {as : List Char} (h : isPlain as = true) (nonempty : as ≠ [])
    (bs : List Char) :
    (splitLines (as ++ bs)).map List.head? = as.head? :: ((splitLines bs).map List.head?).tail := by
  induction as with
  | nil => exact absurd rfl nonempty
  | cons c as ih =>
      have unbroken := (isPlain_iff.mp h c List.mem_cons_self).1
      rw [List.cons_append, splitLines_cons, unbroken]
      · rw [if_neg (by decide), map_head?_consFirst]
        cases as with
        | nil => rfl
        | cons d as => rw [ih (Bool.and_eq_true_iff.mp h).2 (List.cons_ne_nil d as)]; rfl
      · rintro rfl
        cases unbroken

theorem map_head?_of_isPlain {as : List Char} (h : isPlain as = true) (nonempty : as ≠ []) :
    (splitLines as).map List.head? = [as.head?] := by
  have whole := map_head?_append_of_isPlain h nonempty []
  rwa [List.append_nil] at whole

theorem splitLines_ne_nil {cs : List Char} (h : cs ≠ []) : splitLines cs ≠ [] := by
  intro none
  rw [← flatten_splitLines cs, none] at h
  exact h rfl

/-- Behind a text that does not end in a break, a line feed makes no line of its own. -/
theorem map_head?_append_feed {as : List Char} (nonempty : as ≠ [])
    (last : ∀ c, as.getLast? = some c → isLineBreak c = false) (bs : List Char) :
    (splitLines (as ++ '\n' :: bs)).map List.head? =
      (splitLines as).map List.head? ++ (splitLines bs).map List.head? := by
  fun_induction splitLines as with
  | case1 => exact absurd rfl nonempty
  | case2 as ih =>
      cases as with
      | nil => exact absurd (last '\n' rfl) (by decide)
      | cons d as =>
          rw [List.getLast?_cons_cons, List.getLast?_cons_cons] at last
          exact congrArg (some '\r' :: ·) (ih (List.cons_ne_nil d as) last)
  | case3 c as apart broken ih =>
      cases as with
      | nil => exact absurd (last c rfl) (by rw [broken]; decide)
      | cons d as =>
          rw [List.getLast?_cons_cons] at last
          rw [List.cons_append, splitLines_cons, if_pos broken]
          · exact congrArg (some c :: ·) (ih (List.cons_ne_nil d as) last)
          · intro same head
            exact apart as same (congrArg (· :: as) (Option.some.inj head))
  | case4 c as apart unbroken ih =>
      rw [List.cons_append, splitLines_cons, if_neg unbroken, map_head?_consFirst,
        map_head?_consFirst]
      · cases as with
        | nil =>
            rw [List.nil_append, splitLines_cons (fun same => absurd same (by decide))]
            rfl
        | cons d as =>
            have lines := splitLines_ne_nil (List.cons_ne_nil d as)
            rw [List.getLast?_cons_cons] at last
            rw [ih (List.cons_ne_nil d as) last, List.tail_append_of_ne_nil (by simpa using lines)]
            rfl
      · rintro rfl
        exact absurd rfl unbroken

/-- The lines of texts that end visibly, one below the other. -/
theorem map_head?_intercalate {parts : List (List Char)}
    (h : ∀ part ∈ parts, part ≠ [] ∧ ∀ c, part.getLast? = some c → isLineBreak c = false) :
    (splitLines (['\n'].intercalate parts)).map List.head? =
      parts.flatMap fun part => (splitLines part).map List.head? := by
  induction parts with
  | nil => rfl
  | cons part parts ih =>
      cases parts with
      | nil => rw [List.intercalate_singleton, List.flatMap_singleton]
      | cons next parts =>
          obtain ⟨nonempty, last⟩ := h part List.mem_cons_self
          rw [List.intercalate_cons_cons, List.append_assoc, List.singleton_append,
            map_head?_append_feed nonempty last, List.flatMap_cons,
            ih fun part hpart => h part (List.mem_cons_of_mem _ hpart)]

/-! ## Indentation -/

theorem indentLine_append_feed (l : List Char) : indentLine (l ++ ['\n']) = indentLine l ++ ['\n'] := by
  have blank : (l ++ ['\n']).all isBlank = l.all isBlank := by
    rw [List.all_append]
    exact Bool.and_true _
  rw [indentLine, indentLine, blank]
  split
  · rfl
  · rw [List.append_assoc]

/-- A text is indented up to a line feed and behind it. -/
theorem indent_append_feed (as bs : List Char) :
    indent (as ++ '\n' :: bs) = indent as ++ '\n' :: indent bs := by
  obtain ⟨ls, l, split, either⟩ := splitLines_append_feed as bs
  have front : indent as = ls.flatMap indentLine ++ indentLine l := by
    rcases either with same | ⟨same, rfl⟩
    · rw [indent, same, List.flatMap_append, List.flatMap_singleton]
    · rw [indent, same]
      exact (List.append_nil _).symm
  rw [indent, split, List.flatMap_append, List.flatMap_cons, indentLine_append_feed, front,
    List.append_assoc, List.append_assoc]
  rfl

theorem indent_append_feeds (as bs : List Char) (count : Nat) :
    indent (as ++ (List.replicate (count + 1) '\n' ++ bs)) =
      indent as ++ (List.replicate (count + 1) '\n' ++ indent bs) := by
  induction count generalizing as with
  | zero => exact indent_append_feed as bs
  | succ count ih =>
      rw [List.replicate_succ, List.cons_append, indent_append_feed, ← List.nil_append (_ ++ bs), ih]
      rfl

/-- Parts with line feeds between them are indented one by one. -/
theorem indent_intercalate (count : Nat) (parts : List (List Char)) :
    indent ((List.replicate (count + 1) '\n').intercalate parts) =
      (List.replicate (count + 1) '\n').intercalate (parts.map indent) := by
  induction parts with
  | nil => rfl
  | cons part parts ih =>
      cases parts with
      | nil => simp [List.intercalate_singleton]
      | cons next parts =>
          rw [List.intercalate_cons_cons, List.append_assoc, indent_append_feeds, ih]
          simp only [List.map_cons, List.intercalate_cons_cons, List.append_assoc]

/-- A text that starts with a visible front gets a level before it. -/
theorem exists_indent_append {as : List Char} (h : isLine as = true) (bs : List Char) :
    ∃ cs, indent (as ++ bs) = level ++ (as ++ cs) ∧ (bs = [] → cs = []) := by
  obtain ⟨l, ls, split, alone⟩ :=
    splitLines_append_of_isPlain (isPlain_of_isLine h) (ne_nil_of_isLine h) bs
  have visible : (as ++ l).all isBlank = false := by
    rw [List.all_append, isBlank_of_isLine h]
    rfl
  refine ⟨l ++ ls.flatMap indentLine, ?_, ?_⟩
  · rw [indent, split, List.flatMap_cons, indentLine, visible]
    simp
  · intro empty
    obtain ⟨rfl, rfl⟩ := alone empty
    rfl

theorem indent_of_isLine {cs : List Char} (h : isLine cs = true) : indent cs = level ++ cs := by
  obtain ⟨more, moved, alone⟩ := exists_indent_append h []
  rw [List.append_nil, alone rfl, List.append_nil] at moved
  exact moved

theorem mem_of_mem_indent {c : Char} {cs : List Char} (h : c ∈ indent cs) : c = ' ' ∨ c ∈ cs := by
  obtain ⟨line, hline, hc⟩ := List.mem_flatMap.mp h
  have within : c ∈ line → c ∈ cs := by
    intro there
    rw [← flatten_splitLines cs]
    exact List.mem_flatten.mpr ⟨line, hline, there⟩
  rw [indentLine] at hc
  split at hc
  · exact Or.inr (within hc)
  · rcases List.mem_append.mp hc with hc | hc
    · exact Or.inl (List.eq_of_mem_replicate (n := 4) hc)
    · exact Or.inr (within hc)

/-! ## Tabs -/

theorem detab_append (as bs : List Char) : detab (as ++ bs) = detab as ++ detab bs :=
  List.flatMap_append

theorem mem_of_mem_detab {c : Char} {cs : List Char} (h : c ∈ detab cs) : c = ' ' ∨ c ∈ cs := by
  obtain ⟨d, hd, hc⟩ := List.mem_flatMap.mp h
  split at hc
  · exact Or.inl (List.eq_of_mem_replicate (n := 4) hc)
  · exact Or.inr (List.mem_singleton.mp hc ▸ hd)

theorem detab_of_not_mem {cs : List Char} (h : '\t' ∉ cs) : detab cs = cs := by
  induction cs with
  | nil => rfl
  | cons c cs ih =>
      rw [List.mem_cons, not_or] at h
      rw [detab, List.flatMap_cons, if_neg (Ne.symm h.1)]
      exact congrArg (c :: ·) (ih h.2)

theorem detab_of_isPlain {cs : List Char} (h : isPlain cs = true) : detab cs = cs :=
  detab_of_not_mem fun tab => (isPlain_iff.mp h _ tab).2 rfl

end ContractClient.Text
