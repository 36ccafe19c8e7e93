import ContractClient.Contract.Load
import ContractClient.Proofs.Checked
import ContractClient.Proofs.Text.Trim

/-!
# Documents in markup that stand for a contract

`Encodes` says which trees of elements stand for a contract.  The format is loose: a name
may have any namespace, and between an element and those it holds there may be any number
of other elements around or beside them, as long as these have none of the seven names
that mean something (`IsWrapper`, `Spread`).  Two things have a fixed place.  The base of
a class is an attribute or the text of a direct child, and the parameters and the results
of a function are direct children, in any order.

The reader searches at any depth for the one and among the children for the other.  It
finds the right elements for two reasons.  Each kind of element holds only some of the
names (`Within`), so a search finds nothing of another owner, and wrappers do not disturb
the order of what they hold (`Spread.forall₂`).  So the value that is read has the shape of
a contract, and the contract is the one that was meant (`contract_of_encoding`).  A
document for every contract that has passed the check is given by `elementOf`.
-/

namespace ContractClient

open Markup

/-! ## Elements and all below them -/

namespace Markup.Element

theorem all_eq (e : Element) : e.all = e :: allIn e.children := by
  cases e with
  | mk name attributes text children => rw [all]; rfl

theorem mem_all_self (e : Element) : e ∈ e.all := by
  rw [all_eq]
  exact List.mem_cons_self

theorem allIn_append (es fs : List Element) : allIn (es ++ fs) = allIn es ++ allIn fs := by
  induction es with
  | nil => rfl
  | cons e es ih => rw [List.cons_append, allIn, allIn, ih, List.append_assoc]

theorem mem_allIn {es : List Element} {d : Element} : d ∈ allIn es ↔ ∃ e ∈ es, d ∈ e.all := by
  induction es with
  | nil => simp [allIn]
  | cons e es ih => simp [allIn, ih]

/-- The elements of a local name among some elements and all below them. -/
def named (tag : String) (es : List Element) : List Element :=
  (allIn es).filter (·.name.localName = tag)

theorem named_nil (tag : String) : named tag [] = [] := rfl

theorem named_append (tag : String) (es fs : List Element) :
    named tag (es ++ fs) = named tag es ++ named tag fs := by
  rw [named, allIn_append, List.filter_append]
  rfl

theorem named_cons (tag : String) (e : Element) (es : List Element) :
    named tag (e :: es) = e.descendants tag ++ named tag es := by
  rw [named, allIn, List.filter_append]
  rfl

theorem descendants_of_eq {tag : String} {e : Element} (h : e.name.localName = tag) :
    e.descendants tag = e :: named tag e.children := by
  rw [descendants, all_eq, List.filter_cons_of_pos (by simpa using h)]
  rfl

theorem descendants_of_ne {tag : String} {e : Element} (h : e.name.localName ≠ tag) :
    e.descendants tag = named tag e.children := by
  rw [descendants, all_eq, List.filter_cons_of_neg (by simpa using h)]
  rfl

end Markup.Element

namespace Contract

/-! ## Wrappers -/

/-- The local names that mean something in a contract. -/
def elementNames : List String :=
  ["class", "extends", "entry", "service", "function", "parameters", "returns"]

/-- An element that may stand around or beside others and means nothing. -/
def IsWrapper (e : Element) : Prop := e.name.localName ∉ elementNames

instance (e : Element) : Decidable (IsWrapper e) :=
  inferInstanceAs (Decidable (e.name.localName ∉ elementNames))

/-- Elements hold items in order, wrapped any number of times. -/
inductive Spread {α : Type} (Item : Element → α → Prop) : List Element → List α → Prop where
  /-- Nothing holds nothing. -/
  | nil : Spread Item [] []
  /-- The first element is an item. -/
  | item {e : Element} {a : α} {es : List Element} {as : List α} (first : Item e a)
      (rest : Spread Item es as) : Spread Item (e :: es) (a :: as)
  /-- The first element is a wrapper and holds items. -/
  | wrap {e : Element} {es : List Element} {as bs : List α} (wrapper : IsWrapper e)
      (inner : Spread Item e.children as) (rest : Spread Item es bs) :
      Spread Item (e :: es) (as ++ bs)

/-- Of the names that mean something, an element and all below it have only some. -/
def Within (names : List String) (e : Element) : Prop :=
  ∀ d ∈ e.all, d.name.localName ∈ elementNames → d.name.localName ∈ names

/-! ## Documents -/

/-- An element for an entry.  It may hold wrappers, which mean nothing. -/
structure EncodesEntry (e : Element) (x : Entry) : Prop where
  tag : e.name.localName = "entry"
  name : e.attributeOrEmpty "name" = x.name
  type : e.attributeOrEmpty "type" = x.type
  inner : ∀ c ∈ e.children, Within [] c

/-- The base that a text names.  Blanks around it do not count, and a blank text names
none. -/
def baseNamed (text : String) : Option String :=
  if Text.strip text = "" then none else some (Text.strip text)

/-- The children of an element for a class: entries and wrappers, and at most one child
that names the base. -/
inductive ClassBody : List Element → Option Element → List Entry → Prop where
  /-- No child names the base. -/
  | plain {es : List Element} {xs : List Entry} (entries : Spread EncodesEntry es xs) :
      ClassBody es none xs
  /-- A child names the base. -/
  | based {front back : List Element} {xs ys : List Entry} {b : Element}
      (before : Spread EncodesEntry front xs) (tag : b.name.localName = "extends")
      (inner : ∀ c ∈ b.children, Within [] c) (behind : Spread EncodesEntry back ys) :
      ClassBody (front ++ b :: back) (some b) (xs ++ ys)

/-- An element for a class.  The base is named by an attribute, or else by a child. -/
structure EncodesClass (e : Element) (c : ClassDecl) : Prop where
  tag : e.name.localName = "class"
  name : e.attributeOrEmpty "name" = c.name
  body : ∃ child, ClassBody e.children child c.entries ∧
    ((e.attribute? "extends").or (child.bind Element.text)).bind baseNamed = c.base

/-- The child of a name that holds entries.  It may be left out if there are none. -/
inductive Part (tag : String) : List Element → List Entry → Prop where
  /-- There are no entries, and no child. -/
  | omitted : Part tag [] []
  /-- A child holds the entries. -/
  | given {e : Element} {xs : List Entry} (named : e.name.localName = tag)
      (entries : Spread EncodesEntry e.children xs) : Part tag [e] xs

/-- An element for a function.  Beside its two parts it may hold wrappers, which mean
nothing. -/
structure EncodesFunction (e : Element) (f : FunctionDecl) : Prop where
  tag : e.name.localName = "function"
  name : e.attributeOrEmpty "name" = f.name
  parts : ∃ ps rs ws, Part "parameters" ps f.parameters ∧ Part "returns" rs f.returns ∧
    (∀ w ∈ ws, Within [] w) ∧ e.children.Perm (ps ++ (rs ++ ws))

/-- An element for a service. -/
structure EncodesService (e : Element) (s : ServiceDecl) : Prop where
  tag : e.name.localName = "service"
  name : e.attributeOrEmpty "name" = s.name
  functions : Spread EncodesFunction e.children s.functions

/-- An element for a class or a service. -/
inductive EncodesDecl : Element → ClassDecl ⊕ ServiceDecl → Prop where
  | ofClass {e : Element} {c : ClassDecl} (h : EncodesClass e c) : EncodesDecl e (.inl c)
  | ofService {e : Element} {s : ServiceDecl} (h : EncodesService e s) : EncodesDecl e (.inr s)

/-- A root element for a contract.  Classes and services may stand in any order. -/
structure Encodes (root : Element) (m : Contract) : Prop where
  tag : root.name.localName ∉ ["class", "service"]
  decls : ∃ ds, Spread EncodesDecl root.children ds ∧
    ds.filterMap Sum.getLeft? = m.classes ∧ ds.filterMap Sum.getRight? = m.services

/-! ## What a search finds -/

theorem named_eq_nil {tag : String} {names : List String} {es : List Element}
    (known : tag ∈ elementNames) (other : tag ∉ names) (h : ∀ e ∈ es, Within names e) :
    Element.named tag es = [] := by
  rw [Element.named, List.filter_eq_nil_iff]
  intro d hd
  obtain ⟨e, he, hd⟩ := Element.mem_allIn.mp hd
  simp only [decide_eq_true_eq]
  rintro rfl
  exact other (h e he d hd known)

theorem descendants_eq_nil {tag : String} {names : List String} {e : Element}
    (known : tag ∈ elementNames) (other : tag ∉ names) (h : Within names e) :
    e.descendants tag = [] := by
  have alone : Element.named tag [e] = [] := named_eq_nil known other (by simpa using h)
  rwa [Element.named_cons, Element.named_nil, List.append_nil] at alone

/-- The name of an element and those below it are all there is. -/
theorem within_of_children {tag : String} {names : List String} {e : Element}
    (named : e.name.localName = tag) (inner : ∀ c ∈ e.children, Within names c) :
    Within (tag :: names) e := by
  intro d hd known
  rw [Element.all_eq, List.mem_cons, Element.mem_allIn] at hd
  rcases hd with rfl | ⟨c, hc, hd⟩
  · rw [named]
    exact List.mem_cons_self
  · exact List.mem_cons_of_mem tag (inner c hc d hd known)

/-- An element is the only one of its name if the elements below it have other names. -/
theorem descendants_eq_self {tag : String} {names : List String} {e : Element}
    (named : e.name.localName = tag) (known : tag ∈ elementNames) (other : tag ∉ names)
    (inner : ∀ c ∈ e.children, Within names c) : e.descendants tag = [e] := by
  rw [Element.descendants_of_eq named, named_eq_nil known other inner]

theorem Within.mono {names more : List String} {e : Element} (h : Within names e)
    (sub : names ⊆ more) : Within more e :=
  fun d hd known => sub (h d hd known)

theorem Within.ne {tag : String} {names : List String} {e : Element} (h : Within names e)
    (known : tag ∈ elementNames) (other : tag ∉ names) : e.name.localName ≠ tag := by
  rintro rfl
  exact other (h e e.mem_all_self known)

section Spread

variable {α β : Type} {Item : Element → α → Prop} {es : List Element} {as : List α}

/-- Wrappers add no name. -/
theorem Spread.within {names : List String} (items : ∀ e a, Item e a → Within names e)
    (h : Spread Item es as) : ∀ e ∈ es, Within names e := by
  induction h with
  | nil => intro e he; cases he
  | item first _ ih =>
      intro e he
      rcases List.mem_cons.mp he with rfl | he
      · exact items _ _ first
      · exact ih e he
  | wrap wrapper _ _ inner rest =>
      intro e he
      rcases List.mem_cons.mp he with rfl | he
      · intro d hd known
        rw [Element.all_eq, List.mem_cons, Element.mem_allIn] at hd
        rcases hd with rfl | ⟨c, hc, hd⟩
        · exact absurd known wrapper
        · exact inner c hc d hd known
      · exact rest e he

/-- A search finds what it finds in the items, in their order. -/
theorem Spread.forall₂ {R : Element → β → Prop} (pick : α → Option β) {tag : String}
    (known : tag ∈ elementNames)
    (items : ∀ e a, Item e a → List.Forall₂ R (e.descendants tag) (pick a).toList)
    (h : Spread Item es as) : List.Forall₂ R (Element.named tag es) (as.filterMap pick) := by
  induction h with
  | nil => exact .nil
  | @item e a es as first _ ih =>
      have picked : (a :: as).filterMap pick = (pick a).toList ++ as.filterMap pick := by
        cases found : pick a with
        | none => rw [List.filterMap_cons_none found]; rfl
        | some b => rw [List.filterMap_cons_some found]; rfl
      rw [Element.named_cons, picked]
      exact List.rel_append (items e a first) ih
  | @wrap e es as bs wrapper _ _ inner rest =>
      have other : e.name.localName ≠ tag := fun same => wrapper (same ▸ known)
      rw [Element.named_cons, Element.descendants_of_ne other, List.filterMap_append]
      exact List.rel_append inner rest

/-- If an item is the only element of its name in it, a search for the name finds the
items. -/
theorem Spread.forall₂_items {tag : String} (known : tag ∈ elementNames)
    (items : ∀ e a, Item e a → e.descendants tag = [e]) (h : Spread Item es as) :
    List.Forall₂ Item (Element.named tag es) as := by
  have alone : ∀ e a, Item e a → List.Forall₂ Item (e.descendants tag) (some a).toList := by
    intro e a item
    rw [items e a item]
    exact .cons item .nil
  have found := h.forall₂ some known alone
  rwa [List.filterMap_some] at found

end Spread

/-! ## Entries -/

theorem EncodesEntry.within {e : Element} {x : Entry} (h : EncodesEntry e x) :
    Within ["entry"] e :=
  within_of_children h.tag h.inner

theorem EncodesEntry.descendants {e : Element} {x : Entry} (h : EncodesEntry e x) :
    e.descendants "entry" = [e] :=
  descendants_eq_self h.tag (by decide) List.not_mem_nil h.inner

theorem EncodesEntry.ofValue {e : Element} {x : Entry} (h : EncodesEntry e x) :
    Entry.ofValue (entryOfElement e) = .ok x := by
  rw [entryOfElement, h.name, h.type]
  rfl

/-- Entries in any wrapping are read in their order. -/
theorem entries_ofValue {es : List Element} {xs : List Entry} (h : Spread EncodesEntry es xs) :
    Checked.listOf Entry.ofValue (.list ((Element.named "entry" es).map entryOfElement)) =
      .ok xs := by
  have found := h.forall₂_items (by decide) fun _ _ entry => entry.descendants
  exact Checked.listOf_map_eq_ok_iff.mpr (found.imp fun _ _ entry => entry.ofValue)

theorem within_of_entries {es : List Element} {xs : List Entry}
    (h : Spread EncodesEntry es xs) : ∀ e ∈ es, Within ["entry"] e :=
  h.within fun _ _ entry => entry.within

/-! ## Classes -/

theorem ClassBody.within {es : List Element} {child : Option Element} {xs : List Entry}
    (h : ClassBody es child xs) : ∀ e ∈ es, Within ["extends", "entry"] e := by
  have sub : ["entry"] ⊆ ["extends", "entry"] := by decide
  cases h with
  | plain entries => exact fun e he => (within_of_entries entries e he).mono sub
  | based before tag inner behind =>
      intro e he
      rcases List.mem_append.mp he with he | he
      · exact (within_of_entries before e he).mono sub
      · rcases List.mem_cons.mp he with rfl | he
        · exact (within_of_children tag inner).mono (by decide)
        · exact (within_of_entries behind e he).mono sub

/-- Entries have another name than the child that names the base. -/
theorem find?_extends_of_entries {es : List Element} {xs : List Entry}
    (h : Spread EncodesEntry es xs) : es.find? (·.name.localName = "extends") = none := by
  rw [List.find?_eq_none]
  intro e he
  have other : e.name.localName ≠ "extends" :=
    (within_of_entries h e he).ne (by decide) (by decide)
  simpa using other

theorem ClassBody.find? {es : List Element} {child : Option Element} {xs : List Entry}
    (h : ClassBody es child xs) : es.find? (·.name.localName = "extends") = child := by
  cases h with
  | plain entries => exact find?_extends_of_entries entries
  | based before tag inner behind =>
      rw [List.find?_append, find?_extends_of_entries before, Option.none_or,
        List.find?_cons_of_pos (by simpa using tag)]

theorem ClassBody.ofValue {es : List Element} {child : Option Element} {xs : List Entry}
    (h : ClassBody es child xs) :
    Checked.listOf Entry.ofValue (.list ((Element.named "entry" es).map entryOfElement)) =
      .ok xs := by
  cases h with
  | plain entries => exact entries_ofValue entries
  | @based front back xs ys b before tag inner behind =>
      have none : b.descendants "entry" = [] := by
        rw [Element.descendants_of_ne (by rw [tag]; decide),
          named_eq_nil (by decide) List.not_mem_nil inner]
      have before := entries_ofValue before
      have behind := entries_ofValue behind
      rw [Checked.listOf, Checked.itemsFrom_eq_ok_iff] at before behind ⊢
      rw [Element.named_append, Element.named_cons, none, List.nil_append, List.map_append]
      exact List.rel_append before behind

theorem baseOfValue_ofText? (text : Option String) :
    baseOfValue (.ofText? text) = .ok (text.bind baseNamed) := by
  cases text with
  | none => rfl
  | some s => rfl

theorem EncodesClass.within {e : Element} {c : ClassDecl} (h : EncodesClass e c) :
    Within ["class", "extends", "entry"] e := by
  obtain ⟨child, body, -⟩ := h.body
  exact within_of_children h.tag body.within

theorem EncodesClass.descendants {e : Element} {c : ClassDecl} (h : EncodesClass e c) :
    e.descendants "class" = [e] := by
  obtain ⟨child, body, -⟩ := h.body
  exact descendants_eq_self h.tag (by decide) (by decide) body.within

theorem EncodesClass.ofValue {e : Element} {c : ClassDecl} (h : EncodesClass e c) :
    ClassDecl.ofValue (classOfElement e) = .ok c := by
  obtain ⟨child, body, base⟩ := h.body
  have named : baseOfElement e = (e.attribute? "extends").or (child.bind Element.text) := by
    rw [baseOfElement, Element.child?, body.find?]
    cases e.attribute? "extends" with
    | none => rfl
    | some s => rfl
  have entries := body.ofValue
  have other : e.name.localName ≠ "entry" := by rw [h.tag]; decide
  rw [← Element.descendants_of_ne other] at entries
  have based := baseOfValue_ofText? (baseOfElement e)
  rw [named, base] at based
  simp [ClassDecl.ofValue, classOfElement, entriesOfElement, Checked.record, Checked.required,
    Checked.defaulted, Entries.get?, Checked.text, h.name, named, based, entries]

/-! ## Functions -/

theorem Part.named_of_mem {tag : String} {es : List Element} {xs : List Entry}
    (h : Part tag es xs) : ∀ e ∈ es, e.name.localName = tag := by
  cases h with
  | omitted => intro e he; cases he
  | given named => intro e he; rw [List.mem_singleton.mp he, named]

theorem Part.within {tag : String} {es : List Element} {xs : List Entry} (h : Part tag es xs) :
    ∀ e ∈ es, Within [tag, "entry"] e := by
  cases h with
  | omitted => intro e he; cases he
  | given named entries =>
      intro e he
      rw [List.mem_singleton.mp he]
      exact within_of_children named (within_of_entries entries)

/-- One part of a function and the wrappers beside it do not have the name of the other
part. -/
theorem Part.ne_of_mem {tag wanted : String} {es ws : List Element} {xs : List Entry}
    (h : Part tag es xs) (wrappers : ∀ w ∈ ws, Within [] w) (known : wanted ∈ elementNames)
    (other : tag ≠ wanted) : ∀ c ∈ es ++ ws, c.name.localName ≠ wanted := by
  intro c hc
  rcases List.mem_append.mp hc with hc | hc
  · rwa [h.named_of_mem c hc]
  · exact (wrappers c hc).ne known List.not_mem_nil

/-- The search for one part among the children of a function is not disturbed by the rest. -/
theorem Part.find? {tag : String} {es others children : List Element} {xs : List Entry}
    (h : Part tag es xs) (apart : ∀ e ∈ others, e.name.localName ≠ tag)
    (perm : children.Perm (es ++ others)) :
    children.find? (·.name.localName = tag) = es.head? := by
  have parts := perm.filter (·.name.localName = tag)
  have kept : es.filter (·.name.localName = tag) = es := by
    rw [List.filter_eq_self]
    intro e he
    simpa using h.named_of_mem e he
  have dropped : others.filter (·.name.localName = tag) = [] := by
    rw [List.filter_eq_nil_iff]
    intro e he
    simpa using apart e he
  rw [List.filter_append, kept, dropped, List.append_nil] at parts
  rw [← List.head?_filter]
  cases h with
  | omitted => rw [List.perm_nil.mp parts]
  | given => rw [List.perm_singleton.mp parts]

theorem Part.ofValue {tag : String} {es : List Element} {xs : List Entry} (h : Part tag es xs)
    (other : tag ≠ "entry") {e : Element} (found : e.child? tag = es.head?) :
    Checked.listOf Entry.ofValue (entriesOfChild e tag) = .ok xs := by
  cases h with
  | omitted =>
      rw [entriesOfChild, found]
      rfl
  | @given c xs named entries =>
      rw [entriesOfChild, found]
      show Checked.listOf Entry.ofValue (entriesOfElement c) = _
      rw [entriesOfElement, Element.descendants_of_ne (by rwa [named])]
      exact entries_ofValue entries

theorem EncodesFunction.within {e : Element} {f : FunctionDecl} (h : EncodesFunction e f) :
    Within ["function", "parameters", "returns", "entry"] e ∧
      ∀ c ∈ e.children, Within ["parameters", "returns", "entry"] c := by
  obtain ⟨ps, rs, ws, parameters, returns, wrappers, perm⟩ := h.parts
  have inner : ∀ c ∈ e.children, Within ["parameters", "returns", "entry"] c := by
    intro c hc
    rcases List.mem_append.mp (perm.mem_iff.mp hc) with hc | hc
    · exact (parameters.within c hc).mono (by decide)
    · rcases List.mem_append.mp hc with hc | hc
      · exact (returns.within c hc).mono (by decide)
      · exact (wrappers c hc).mono (List.nil_subset _)
  exact ⟨within_of_children h.tag inner, inner⟩

theorem EncodesFunction.descendants {e : Element} {f : FunctionDecl} (h : EncodesFunction e f) :
    e.descendants "function" = [e] :=
  descendants_eq_self h.tag (by decide) (by decide) h.within.2

theorem EncodesFunction.ofValue {e : Element} {f : FunctionDecl} (h : EncodesFunction e f) :
    FunctionDecl.ofValue (functionOfElement e) = .ok f := by
  obtain ⟨ps, rs, ws, parameters, returns, wrappers, perm⟩ := h.parts
  have noParameters : ∀ c ∈ rs ++ ws, c.name.localName ≠ "parameters" :=
    returns.ne_of_mem wrappers (by decide) (by decide)
  have noReturns : ∀ c ∈ ps ++ ws, c.name.localName ≠ "returns" :=
    parameters.ne_of_mem wrappers (by decide) (by decide)
  have swapped : e.children.Perm (rs ++ (ps ++ ws)) := by
    refine perm.trans ?_
    rw [← List.append_assoc, ← List.append_assoc]
    exact List.perm_append_comm.append_right ws
  have first := parameters.ofValue (by decide) (parameters.find? noParameters perm)
  have second := returns.ofValue (by decide) (returns.find? noReturns swapped)
  simp [FunctionDecl.ofValue, functionOfElement, Checked.record, Checked.required,
    Checked.defaulted, Entries.get?, Checked.text, h.name, first, second]

/-! ## Services -/

theorem functions_within {es : List Element} {fs : List FunctionDecl}
    (h : Spread EncodesFunction es fs) :
    ∀ e ∈ es, Within ["function", "parameters", "returns", "entry"] e :=
  h.within fun _ _ function => function.within.1

theorem EncodesService.within {e : Element} {s : ServiceDecl} (h : EncodesService e s) :
    Within ["service", "function", "parameters", "returns", "entry"] e :=
  within_of_children h.tag (functions_within h.functions)

theorem EncodesService.descendants {e : Element} {s : ServiceDecl} (h : EncodesService e s) :
    e.descendants "service" = [e] :=
  descendants_eq_self h.tag (by decide) (by decide) (functions_within h.functions)

theorem EncodesService.ofValue {e : Element} {s : ServiceDecl} (h : EncodesService e s) :
    ServiceDecl.ofValue (serviceOfElement e) = .ok s := by
  have found := h.functions.forall₂_items (by decide) fun _ _ function => function.descendants
  have other : e.name.localName ≠ "function" := by rw [h.tag]; decide
  rw [← Element.descendants_of_ne other] at found
  have functions : Checked.listOf FunctionDecl.ofValue
      (.list ((e.descendants "function").map functionOfElement)) = .ok s.functions :=
    Checked.listOf_map_eq_ok_iff.mpr (found.imp fun _ _ function => function.ofValue)
  simp [ServiceDecl.ofValue, serviceOfElement, Checked.record, Checked.required,
    Checked.defaulted, Entries.get?, Checked.text, h.name, functions]

/-! ## Contracts -/

/-- A search for classes finds the classes of the contract. -/
theorem Encodes.classes {root : Element} {m : Contract} (h : Encodes root m) :
    List.Forall₂ EncodesClass (root.descendants "class") m.classes := by
  obtain ⟨ds, spread, classes, -⟩ := h.decls
  have other : root.name.localName ≠ "class" := fun same => h.tag (by simp [same])
  rw [Element.descendants_of_ne other, ← classes]
  apply spread.forall₂ _ (by decide)
  intro e d item
  cases item with
  | ofClass h => rw [h.descendants]; exact .cons h .nil
  | ofService h => rw [descendants_eq_nil (by decide) (by decide) h.within]; exact .nil

/-- A search for services finds the services of the contract. -/
theorem Encodes.services {root : Element} {m : Contract} (h : Encodes root m) :
    List.Forall₂ EncodesService (root.descendants "service") m.services := by
  obtain ⟨ds, spread, -, services⟩ := h.decls
  have other : root.name.localName ≠ "service" := fun same => h.tag (by simp [same])
  rw [Element.descendants_of_ne other, ← services]
  apply spread.forall₂ _ (by decide)
  intro e d item
  cases item with
  | ofClass h => rw [descendants_eq_nil (by decide) (by decide) h.within]; exact .nil
  | ofService h => rw [h.descendants]; exact .cons h .nil

theorem interpret_of_encodes {root : Element} {m : Contract} (h : Encodes root m)
    (location : Option String) :
    interpret (valueOfElement root) location = .ok { m with location := given? location } := by
  have classes : Checked.listOf ClassDecl.ofValue
      (.list ((root.descendants "class").map classOfElement)) = .ok m.classes :=
    Checked.listOf_map_eq_ok_iff.mpr (h.classes.imp fun _ _ item => item.ofValue)
  have services : Checked.listOf ServiceDecl.ofValue
      (.list ((root.descendants "service").map serviceOfElement)) = .ok m.services :=
    Checked.listOf_map_eq_ok_iff.mpr (h.services.imp fun _ _ item => item.ofValue)
  rw [valueOfElement, interpret]
  cases given? location with
  | none =>
      simp [withLocation, ofValue, Checked.record, Checked.defaulted, Entries.get?, classes,
        services]
  | some l =>
      simp [withLocation, ofValue, Checked.record, Checked.defaulted, Checked.optional,
        Checked.text, Checked.map, Entries.get?, Entries.put, classes, services]

/-! ## A document for every contract -/

/-- An element without a namespace and without a text. -/
def plainElement (tag : String) (attributes : List (String × String)) (children : List Element) :
    Element :=
  .mk { localName := tag } (attributes.map fun a => ({ localName := a.1 }, a.2)) none children

/-- The plain element for an entry. -/
def elementOfEntry (x : Entry) : Element :=
  plainElement "entry" [("name", x.name), ("type", x.type)] []

/-- The plain element for a class. -/
def elementOfClass (c : ClassDecl) : Element :=
  plainElement "class" (("name", c.name) :: (c.base.map ("extends", ·)).toList)
    (c.entries.map elementOfEntry)

/-- The plain element for a function. -/
def elementOfFunction (f : FunctionDecl) : Element :=
  plainElement "function" [("name", f.name)]
    [plainElement "parameters" [] (f.parameters.map elementOfEntry),
      plainElement "returns" [] (f.returns.map elementOfEntry)]

/-- The plain element for a service. -/
def elementOfService (s : ServiceDecl) : Element :=
  plainElement "service" [("name", s.name)] (s.functions.map elementOfFunction)

/-- The plain root element for a contract. -/
def elementOf (m : Contract) : Element :=
  plainElement "contract" []
    ((m.classes.map Sum.inl ++ m.services.map Sum.inr).map
      (Sum.elim elementOfClass elementOfService))

/-- One element per item is a spread without wrappers. -/
theorem spread_map {α : Type} {Item : Element → α → Prop} {f : α → Element} {as : List α}
    (items : ∀ a ∈ as, Item (f a) a) : Spread Item (as.map f) as := by
  induction as with
  | nil => exact .nil
  | cons a as ih =>
      exact .item (items a List.mem_cons_self) (ih fun b hb => items b (List.mem_cons_of_mem a hb))

theorem encodesEntry_elementOfEntry (x : Entry) : EncodesEntry (elementOfEntry x) x where
  tag := rfl
  name := rfl
  type := rfl
  inner := fun _ h => by cases h

theorem spread_elementOfEntry (xs : List Entry) :
    Spread EncodesEntry (xs.map elementOfEntry) xs :=
  spread_map fun x _ => encodesEntry_elementOfEntry x

/-- A base is written as it stands, so it must be the name that is read from it. -/
theorem encodesClass_elementOfClass {c : ClassDecl} (trimmed : c.base.bind baseNamed = c.base) :
    EncodesClass (elementOfClass c) c where
  tag := rfl
  name := rfl
  body := by
    refine ⟨none, .plain (spread_elementOfEntry c.entries), ?_⟩
    have written : (elementOfClass c).attribute? "extends" = c.base := by
      cases base : c.base with
      | none => simp [elementOfClass, plainElement, Element.attribute?, Element.attributes, base]
      | some b => simp [elementOfClass, plainElement, Element.attribute?, Element.attributes, base]
    rw [written, Option.bind_none, Option.or_none, trimmed]

theorem encodesFunction_elementOfFunction (f : FunctionDecl) :
    EncodesFunction (elementOfFunction f) f where
  tag := rfl
  name := rfl
  parts := by
    refine ⟨[_], [_], [], .given ?_ ?_, .given ?_ ?_, ?_, List.Perm.refl _⟩
    · rfl
    · exact spread_elementOfEntry f.parameters
    · rfl
    · exact spread_elementOfEntry f.returns
    · intro w hw
      cases hw

theorem encodesService_elementOfService (s : ServiceDecl) :
    EncodesService (elementOfService s) s where
  tag := rfl
  name := rfl
  functions := spread_map fun f _ => encodesFunction_elementOfFunction f

theorem encodes_elementOf {m : Contract}
    (trimmed : ∀ c ∈ m.classes, c.base.bind baseNamed = c.base) : Encodes (elementOf m) m where
  tag := by
    show "contract" ∉ ["class", "service"]
    decide
  decls := by
    refine ⟨m.classes.map Sum.inl ++ m.services.map Sum.inr, ?_, ?_, ?_⟩
    · apply spread_map
      intro d hd
      rcases List.mem_append.mp hd with hd | hd
      · obtain ⟨c, hc, rfl⟩ := List.mem_map.mp hd
        exact .ofClass (encodesClass_elementOfClass (trimmed c hc))
      · obtain ⟨s, -, rfl⟩ := List.mem_map.mp hd
        exact .ofService (encodesService_elementOfService s)
    · simp [List.filterMap_map, Function.comp_def]
    · simp [List.filterMap_map, Function.comp_def]

/-! ## Contracts that have passed the check -/

/-- A base that has passed the check has no blanks around it and is not blank. -/
theorem baseNamed_of_ofValue {v : Value} {base : Option String} (h : baseOfValue v = .ok base) :
    base.bind baseNamed = base := by
  cases v with
  | text s =>
      cases h
      by_cases blank : Text.strip s = ""
      · rw [if_pos blank]
        rfl
      · have again : Text.strip (Text.strip s) = Text.strip s := by
          rw [Text.strip, Text.strip, String.toList_ofList, Text.trim_trim]
        rw [if_neg blank, Option.bind_some, baseNamed, again, if_neg blank]
  | null => cases h; rfl
  | _ => cases h

theorem trimmed_of_classOfValue {v : Value} {c : ClassDecl} (h : ClassDecl.ofValue v = .ok c) :
    c.base.bind baseNamed = c.base := by
  obtain ⟨es, -, record⟩ := Checked.record_eq_ok_iff.mp h
  obtain ⟨_, entries, front, -, rfl⟩ := Checked.seq_eq_ok_iff.mp record
  obtain ⟨_, base, first, read, rfl⟩ := Checked.seq_eq_ok_iff.mp front
  obtain ⟨name, -, rfl⟩ := Checked.map_eq_ok_iff.mp first
  rcases Checked.defaulted_eq_ok read with ⟨w, -, read⟩ | ⟨-, rfl⟩
  · exact baseNamed_of_ofValue read
  · rfl

theorem trimmed_of_ofValue {v : Value} {m : Contract} (h : ofValue v = .ok m) :
    ∀ c ∈ m.classes, c.base.bind baseNamed = c.base := by
  obtain ⟨es, -, record⟩ := Checked.record_eq_ok_iff.mp h
  obtain ⟨_, services, front, -, rfl⟩ := Checked.seq_eq_ok_iff.mp record
  obtain ⟨_, classes, first, read, rfl⟩ := Checked.seq_eq_ok_iff.mp front
  obtain ⟨location, -, rfl⟩ := Checked.map_eq_ok_iff.mp first
  intro c hc
  rcases Checked.defaulted_eq_ok read with ⟨w, -, read⟩ | ⟨-, rfl⟩
  · obtain ⟨v, item⟩ := Checked.exists_of_mem_of_listOf read hc
    exact trimmed_of_classOfValue item
  · cases hc

/-! ## The contract that was meant -/

/-- A contract that has passed the check stands in some document, and it is read back from
every document that stands for it.  A file or an address that holds such a document is
loaded to it.  Only the location is that of the document. -/
theorem contract_of_encoding {v : Value} {m : Contract} (validated : ofValue v = .ok m) :
    Encodes (elementOf m) m ∧
      ∀ root, Encodes root m →
        (∀ location, interpret (valueOfElement root) location =
          .ok { m with location := given? location }) ∧
        ∀ world path text location, fetch world path = .ok text →
          (Text.stripLeft text).startsWith "<" = true →
          Markup.parse? (Text.stripLeft text) = some root →
          load world (.place path) none location =
            .ok { m with location := given? (some ((given? location).getD path)) } := by
  refine ⟨encodes_elementOf (trimmed_of_ofValue validated), fun root h =>
    ⟨interpret_of_encodes h, ?_⟩⟩
  intro world path text location fetched markup parsed
  rw [load, fetched]
  show ofText world none text _ = _
  simp only [ofText, Document.parse, markup, if_pos, Document.ofMarkup, parsed]
  exact interpret_of_encodes h _

/-- Two classes and a service. -/
def quays : Contract where
  classes := [⟨"Berth", none, [⟨"depth", "int"⟩]⟩,
    ⟨"Dock", some "Berth", [⟨"crane", "string"⟩, ⟨"slots", "int[]"⟩]⟩]
  services := [⟨"Harbour", [⟨"moor", [⟨"dock", "Dock"⟩], [⟨"slot", "int"⟩]⟩]⟩]

/-- A document for them, with namespaces and wrappers.  The service stands between the
classes, a base is a child with blanks around its text, and the results stand before the
parameters. -/
def quaysRoot : Element :=
  plainElement "schema" []
    [plainElement "types" []
      [.mk ⟨"urn:quays", "class"⟩ [(⟨none, "name"⟩, "Berth")] none
        [plainElement "fields" [] [elementOfEntry ⟨"depth", "int"⟩]]],
    plainElement "service" [("name", "Harbour")]
      [plainElement "function" [("name", "moor")]
        [plainElement "returns" [] [elementOfEntry ⟨"slot", "int"⟩],
          .mk ⟨"urn:quays", "parameters"⟩ [] none
            [plainElement "group" [] [elementOfEntry ⟨"dock", "Dock"⟩]]]],
    plainElement "class" [("name", "Dock")]
      [elementOfEntry ⟨"crane", "string"⟩,
        .mk ⟨"urn:quays", "extends"⟩ [] (some " Berth ") [],
        plainElement "fields" [] [elementOfEntry ⟨"slots", "int[]"⟩]]]

theorem Spread.wrapped {α : Type} {Item : Element → α → Prop} {e : Element} {as : List α}
    (wrapper : IsWrapper e) (inner : Spread Item e.children as) : Spread Item [e] as := by
  have wrapped := Spread.wrap wrapper inner .nil
  rwa [List.append_nil] at wrapped

theorem encodes_quaysRoot : Encodes quaysRoot quays where
  tag := by decide
  decls := by
    have entry (x : Entry) : Spread EncodesEntry [elementOfEntry x] [x] :=
      spread_elementOfEntry [x]
    refine ⟨[.inl _] ++ [.inr _, .inl _], .wrap (by decide) (.item (.ofClass ?berth) .nil)
      (.item (.ofService ?harbour) (.item (.ofClass ?dock) .nil)), rfl, rfl⟩
    case berth => exact ⟨rfl, rfl, none, .plain (.wrapped (by decide) (entry _)), rfl⟩
    case harbour =>
      refine ⟨rfl, rfl, .item ⟨rfl, rfl, [_], [_], [], ?_, ?_, ?_, .swap _ _ []⟩ .nil⟩
      · exact .given rfl (.wrapped (by decide) (entry _))
      · exact .given rfl (entry _)
      · intro w hw
        cases hw
    case dock =>
      refine ⟨rfl, rfl, some (.mk ⟨"urn:quays", "extends"⟩ [] (some " Berth ") []), ?_, rfl⟩
      refine @ClassBody.based [_] [_] [_] [_] _ (entry _) rfl ?_ (.wrapped (by decide) (entry _))
      intro w hw
      cases hw

/-- The document is not the plain one, and the contract is read back from it. -/
theorem quays_of_quaysRoot :
    ofValue (valueOfElement quaysRoot) = .ok quays ∧ Encodes quaysRoot quays ∧
      interpret (valueOfElement quaysRoot) (some "quays.xml") =
        .ok { quays with location := some "quays.xml" } := by
  have validated : ofValue (valueOfElement quaysRoot) = .ok quays := rfl
  exact ⟨validated, encodes_quaysRoot,
    ((contract_of_encoding validated).2 quaysRoot encodes_quaysRoot).1 (some "quays.xml")⟩

end Contract

end ContractClient
