import ContractClient.Code.Printer
import ContractClient.Proofs.Text.Lines

/-!
# The sections of a file in order

A file is written section by section, and a section is a block or a class.
`File.inOrder` keeps the sections as code and not as text, in the order in which they
are written (`sections_eq_map_render`).  The order puts a section of the smallest
order behind all others (`byOrder_cons_of_lt`) and leaves sections alone that are in
order already (`byOrder_of_pairwise`).
-/

namespace ContractClient.Code

/-! ## Order -/

section Order

variable {α β : Type} {items : List (Int × α)}

theorem map_byOrder (f : α → β) (items : List (Int × α)) :
    (byOrder items).map f = byOrder (items.map fun p => (p.1, f p.2)) := by
  have sorted := List.map_mergeSort (l := items) (f := fun p => (p.1, f p.2))
    (r := fun a b => decide (b.1 ≤ a.1)) (s := fun a b => decide (b.1 ≤ a.1))
    (fun a _ b _ => rfl)
  rw [byOrder, byOrder, ← sorted, List.map_map, List.map_map]
  rfl

theorem byOrder_of_pairwise (h : items.Pairwise fun a b => b.1 ≤ a.1) :
    byOrder items = items.map Prod.snd := by
  rw [byOrder, List.mergeSort_of_pairwise (h.imp fun le => decide_eq_true le)]

/-- What has a smaller order than all others comes last. -/
theorem byOrder_cons_of_lt (h : items.Pairwise fun a b => b.1 ≤ a.1) {first : Int × α}
    (lt : ∀ p ∈ items, first.1 < p.1) :
    byOrder (first :: items) = items.map Prod.snd ++ [first.2] := by
  have trans : ∀ a b c : Int × α, decide (b.1 ≤ a.1) = true → decide (c.1 ≤ b.1) = true →
      decide (c.1 ≤ a.1) = true := by
    intro a b c hab hbc
    rw [decide_eq_true_eq] at hab hbc ⊢
    exact Int.le_trans hbc hab
  have total : ∀ a b : Int × α, (decide (b.1 ≤ a.1) || decide (a.1 ≤ b.1)) = true := by
    intro a b
    rw [Bool.or_eq_true, decide_eq_true_eq, decide_eq_true_eq]
    exact Int.le_total _ _
  obtain ⟨front, rest, sorted, others, -⟩ := List.mergeSort_cons trans total first items
  rw [List.mergeSort_of_pairwise (h.imp fun le => decide_eq_true le)] at others
  -- Anything behind the first item would have an order that is not larger.
  have none_behind : rest = [] := by
    have pairwise := List.pairwise_mergeSort trans total (first :: items)
    rw [sorted] at pairwise
    have behind := (List.pairwise_cons.mp (List.pairwise_append.mp pairwise).2.1).1
    rw [List.eq_nil_iff_forall_not_mem]
    intro p hp
    have le := of_decide_eq_true (behind p hp)
    have hitems : p ∈ items := others ▸ List.mem_append_right front hp
    exact absurd (lt p hitems) (Int.not_lt.mpr le)
  rw [none_behind, List.append_nil] at others
  rw [byOrder, sorted, none_behind, others, List.map_append]
  rfl

end Order

/-! ## Sections -/

/-- A block or a class of a file. -/
inductive Section where
  | block (b : Block)
  | decl (k : Class)

namespace Section

/-- The order among its neighbours. -/
def order : Section → Int
  | block b => b.order
  | decl k => k.order

/-- The text. -/
def render : Section → String
  | block b => b.render
  | decl k => k.render

/-- The name of the class that is declared. -/
def declared? : Section → Option String
  | block _ => none
  | decl k => some k.name

end Section

/-- The names of the classes that some sections declare, in order. -/
def declaredNames (sections : List Section) : List String := sections.filterMap Section.declared?

theorem declaredNames_append (ss ts : List Section) :
    declaredNames (ss ++ ts) = declaredNames ss ++ declaredNames ts := List.filterMap_append

theorem declaredNames_map_decl (ks : List Class) :
    declaredNames (ks.map Section.decl) = ks.map Class.name := by
  rw [declaredNames, List.filterMap_map]
  exact congrFun (List.filterMap_eq_map (f := Class.name)) ks

theorem declaredNames_map_block (bs : List Block) :
    declaredNames (bs.map Section.block) = [] := by
  rw [declaredNames, List.filterMap_map, List.filterMap_eq_nil_iff]
  intro b hb
  rfl

/-- Where all classes come before all blocks, a class has classes before it. -/
theorem split_of_decls_blocks {ks : List Class} {bs : List Block} {before after : List Section}
    {k : Class} (h : ks.map Section.decl ++ bs.map Section.block = before ++ .decl k :: after) :
    ∃ front rest, ks = front ++ k :: rest ∧ before = front.map Section.decl := by
  have noBlock : ∀ left right : List Section,
      bs.map Section.block ≠ left ++ .decl k :: right := by
    intro left right same
    have hk : Section.decl k ∈ bs.map Section.block :=
      same ▸ List.mem_append_right left List.mem_cons_self
    obtain ⟨b, -, different⟩ := List.mem_map.mp hk
    cases different
  rcases List.append_eq_append_iff.mp h with ⟨left, -, behind⟩ | ⟨rest, classes, behind⟩
  · exact absurd behind (noBlock left after)
  · cases rest with
    | nil => exact absurd behind.symm (noBlock [] after)
    | cons first rest =>
        cases behind
        obtain ⟨front, back, split, rfl, same⟩ := List.map_eq_append_iff.mp classes
        obtain ⟨k', rest', rfl, first, -⟩ := List.map_eq_cons_iff.mp same
        cases first
        exact ⟨front, rest', split, rfl⟩

namespace File

/-- The blocks and classes of a file, in order of insertion. -/
def allSections (f : File) : List Section :=
  f.blocks.map Section.block ++ f.classes.values.map Section.decl

/-- The blocks and classes of a file in the order in which they are written. -/
def inOrder (f : File) : List Section := byOrder (f.allSections.map fun s => (s.order, s))

theorem sections_eq_map_render (f : File) : f.sections = f.inOrder.map Section.render := by
  rw [inOrder, map_byOrder, sections, allSections]
  simp only [List.map_append, List.map_map]
  rfl

end File

/-! ## Blocks of lines -/

theorem not_mem_intercalate {c : Char} {sep : List Char} {parts : List (List Char)}
    (hsep : c ∉ sep) (h : ∀ p ∈ parts, c ∉ p) : c ∉ sep.intercalate parts := by
  induction parts with
  | nil => exact List.not_mem_nil
  | cons p parts ih =>
      have first := h p List.mem_cons_self
      have others := ih fun q hq => h q (List.mem_cons_of_mem p hq)
      cases parts with
      | nil => rwa [List.intercalate_singleton]
      | cons q parts =>
          rw [List.intercalate_cons_cons]
          simp only [List.mem_append, not_or]
          exact ⟨⟨first, hsep⟩, others⟩

/-- A block made of lines without breaks and tabs is written as these lines. -/
theorem Block.lines_render {b : Block} {lines : List String}
    (h : b.code = "\n".intercalate lines) (nonempty : lines ≠ [])
    (plain : ∀ l ∈ lines, '\n' ∉ l.toList ∧ '\t' ∉ l.toList) :
    b.render.toList.splitOn '\n' = lines.map String.toList := by
  have chars : b.code.toList = ['\n'].intercalate (lines.map String.toList) := by
    rw [h, String.toList_intercalate]
    rfl
  have untabbed : '\t' ∉ b.code.toList := by
    rw [chars]
    refine not_mem_intercalate (by decide) ?_
    intro p hp
    obtain ⟨l, hl, rfl⟩ := List.mem_map.mp hp
    exact (plain l hl).2
  have written : b.render.toList = b.code.toList := by
    rw [Block.render, detab, String.toList_ofList, Text.detab_of_not_mem untabbed]
  rw [written, chars, List.splitOn_intercalate]
  · intro p hp
    obtain ⟨l, hl, rfl⟩ := List.mem_map.mp hp
    exact (plain l hl).1
  · simpa using nonempty

end ContractClient.Code
