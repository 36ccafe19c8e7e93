import ContractClient.Code.Printer
import ContractClient.Proofs.Identifier.Normal

/-!
# The names in an annotation

An annotation is a text, and the names in it are read off the text: the longest runs
of identifier characters, reserved words apart.  Quotation marks, brackets, commas and
blanks separate names, so the names of an annotation are those of its parts
(`names_append`, `names_intercalate`).  An annotation is *closed* under a list of
known names if all its names are on the list.
-/

namespace ContractClient.Code

open Identifier

/-! ## Names -/

/-- Whether a run of identifier characters is a name. -/
def isName (w : String) : Bool := w ≠ "" && !isKeyword w

/-- The names in a list of characters. -/
def namesOf (cs : List Char) : List String :=
  ((cs.splitOnP fun c => !isContinue c).map String.ofList).filter isName

/-- The names in a text. -/
def names (s : String) : List String := namesOf s.toList

/-- A text that keeps the names before and behind it apart. -/
def IsSeparator (sep : String) : Prop :=
  sep ≠ "" ∧ sep.toList.all (fun c => !isContinue c) = true

instance (sep : String) : Decidable (IsSeparator sep) := inferInstanceAs (Decidable (_ ∧ _))

theorem namesOf_append_cons {c : Char} (h : isContinue c = false) (cs ds : List Char) :
    namesOf (cs ++ c :: ds) = namesOf cs ++ namesOf ds := by
  rw [namesOf, List.splitOnP_append_cons cs ds (by rw [h]; rfl), List.map_append,
    List.filter_append]
  rfl

theorem namesOf_append {sep : List Char} (h : ∀ c ∈ sep, isContinue c = false)
    (ds : List Char) : namesOf (sep ++ ds) = namesOf ds := by
  induction sep with
  | nil => rfl
  | cons c sep ih =>
      have first := namesOf_append_cons (h c List.mem_cons_self) [] (sep ++ ds)
      exact first.trans (ih fun d hd => h d (List.mem_cons_of_mem c hd))

theorem names_append {sep : String} (h : IsSeparator sep) (s t : String) :
    names (s ++ sep ++ t) = names s ++ names t := by
  obtain ⟨nonempty, separates⟩ := h
  have apart : ∀ c ∈ sep.toList, isContinue c = false := by
    simpa using List.all_eq_true.mp separates
  rw [names, String.toList_append, String.toList_append, List.append_assoc]
  cases chars : sep.toList with
  | nil => exact absurd (String.toList_eq_nil_iff.mp chars) nonempty
  | cons c cs =>
      rw [chars] at apart
      rw [List.cons_append, namesOf_append_cons (apart c List.mem_cons_self),
        namesOf_append fun d hd => apart d (List.mem_cons_of_mem c hd)]
      rfl

theorem names_intercalate {sep : String} (h : IsSeparator sep) (parts : List String) :
    names (sep.intercalate parts) = parts.flatMap names := by
  induction parts with
  | nil => rfl
  | cons s parts ih =>
      cases parts with
      | nil => rw [String.intercalate_singleton, List.flatMap_singleton]
      | cons t parts =>
          rw [String.intercalate_cons_cons, names_append h, ih]
          rfl

/-- An identifier holds no name but itself. -/
theorem eq_of_mem_names {s w : String} (h : isIdentifier s = true) (hw : w ∈ names s) :
    w = s := by
  have whole : s.toList.splitOnP (fun c => !isContinue c) = [s.toList] :=
    List.splitOnP_eq_singleton fun c hc => by rw [mem_of_isIdentifierChars h c hc]; rfl
  rw [names, namesOf, whole, List.map_singleton, String.ofList_toList] at hw
  exact List.mem_singleton.mp (List.mem_filter.mp hw).1

/-! ## Closed annotations -/

/-- Every name in the text is known. -/
def Closed (known : List String) (s : String) : Prop := ∀ w ∈ names s, w ∈ known

variable {known : List String} {s t : String}

theorem Closed.mono {wider : List String} (h : Closed known s) (sub : known ⊆ wider) :
    Closed wider s := fun w hw => sub (h w hw)

theorem closed_append {sep : String} (h : IsSeparator sep) (hs : Closed known s)
    (ht : Closed known t) : Closed known (s ++ sep ++ t) := by
  intro w hw
  rw [names_append h, List.mem_append] at hw
  rcases hw with hw | hw
  · exact hs w hw
  · exact ht w hw

theorem closed_intercalate {sep : String} (h : IsSeparator sep) {parts : List String}
    (closed : ∀ s ∈ parts, Closed known s) : Closed known (sep.intercalate parts) := by
  intro w hw
  rw [names_intercalate h, List.mem_flatMap] at hw
  obtain ⟨s, hs, hw⟩ := hw
  exact closed s hs w hw

theorem closed_empty : Closed known "" := fun _ hw => absurd hw List.not_mem_nil

theorem closed_of_mem (h : isIdentifier s = true) (hs : s ∈ known) : Closed known s := by
  intro w hw
  rw [eq_of_mem_names h hw]
  exact hs

theorem closed_quoted (h : Closed known s) : Closed known ("\"" ++ s ++ "\"") := by
  have mark : IsSeparator "\"" := by decide +kernel
  have opened := closed_append mark closed_empty h
  rw [String.empty_append] at opened
  have shut := closed_append mark opened closed_empty
  rwa [String.append_empty] at shut

theorem closed_bracketed (hs : Closed known s) (ht : Closed known t) :
    Closed known (s ++ "[" ++ t ++ "]") := by
  have opening : IsSeparator "[" := by decide +kernel
  have closing : IsSeparator "]" := by decide +kernel
  have shut := closed_append closing (closed_append opening hs ht) closed_empty
  rwa [String.append_empty] at shut

/-! ## Expressions -/

namespace Expr

theorem closed_single (h : Closed known s) : Closed known (single s).render := by
  rw [single, render, renderAll, renderAll, render, String.intercalate_singleton]
  exact h

/-- A wrapped expression is closed if the wrapper and the expression are, and `Any`,
which stands for an empty one. -/
theorem closed_wrapped {name : String} {e : Expr} (any : Closed known "Any")
    (hname : Closed known name) (h : Closed known e.render) :
    Closed known (wrapped name e).render := by
  rw [wrapped, render, renderAll, renderAll, String.intercalate_singleton]
  split
  · exact any
  · exact closed_bracketed hname h

end Expr

/-! ## Annotated functions -/

/-- A parameter or field that has an annotation, and a closed one. -/
def Parameter.IsAnnotated (known : List String) (p : Parameter) : Prop :=
  ∃ t, p.type = some t ∧ Closed known t.render

/-- A function whose result and whose parameters after the first have annotations, and
closed ones.  The first parameter is the object. -/
structure Function.IsAnnotated (known : List String) (f : Function) : Prop where
  parameters : ∀ p ∈ f.parameters.tail, p.IsAnnotated known
  response : ∃ r, f.response = some r ∧ Closed known r

theorem Parameter.IsAnnotated.mono {wider : List String} {p : Parameter}
    (h : p.IsAnnotated known) (sub : known ⊆ wider) : p.IsAnnotated wider := by
  obtain ⟨t, annotated, closed⟩ := h
  exact ⟨t, annotated, closed.mono sub⟩

theorem Function.IsAnnotated.mono {wider : List String} {f : Function}
    (h : f.IsAnnotated known) (sub : known ⊆ wider) : f.IsAnnotated wider where
  parameters := fun p hp => (h.parameters p hp).mono sub
  response := by
    obtain ⟨r, annotated, closed⟩ := h.response
    exact ⟨r, annotated, closed.mono sub⟩

end ContractClient.Code
