import ContractClient.FileTree.Path
import Mathlib.Data.List.Basic
import Mathlib.Data.List.TakeWhile

/-!
# The names of a joined path

A path is read from left to right, so the names of `join path n` are those of
`path` followed by those of `n` (`settle_parts_join`).  If `n` is the name of
something, and not one of the words for "here" and "above", the path leads to the
place of that name right below the place of `path` (`absoluteNames_join`).

A path is its parent and its last name, up to the slashes between them
(`mem_parent_or_name_iff`).
-/

namespace ContractClient.Path

/-! ## Dividing a path -/

/-- A name that something in a directory can have. -/
structure IsName (n : String) : Prop where
  ne_empty : n ≠ ""
  ne_here : n ≠ "."
  ne_above : n ≠ ".."
  no_slash : '/' ∉ n.toList

theorem parts_of_no_slash {s : String} (h : '/' ∉ s.toList) : parts s = [s] := by
  rw [parts, List.splitOn_eq_singleton h, List.map_singleton, String.ofList_toList]

theorem IsName.parts {n : String} (h : IsName n) : parts n = [n] := parts_of_no_slash h.no_slash

theorem IsName.not_isAbsolute {n : String} (h : IsName n) : isAbsolute n = false := by
  rw [isAbsolute, decide_eq_false_iff_not]
  intro starts
  exact h.no_slash (List.mem_of_head? starts)

theorem parts_append_slash (a b : String) : parts (a ++ "/" ++ b) = parts a ++ parts b := by
  have chars : (a ++ "/" ++ b).toList = a.toList ++ '/' :: b.toList := by simp
  rw [parts, chars, List.splitOn,
    List.splitOnP_append_cons (p := fun c => c == '/') _ _ (beq_self_eq_true '/'), List.map_append]
  rfl

/-- A text that ends with a slash, without it. -/
theorem exists_append_slash {s : String} (h : s.toList.getLast? = some '/') :
    ∃ front, s = front ++ "/" := by
  obtain ⟨front, hs⟩ := List.getLast?_eq_some_iff.mp h
  refine ⟨.ofList front, String.toList_inj.mp ?_⟩
  simp [hs]

/-! ## Working off points -/

theorem settle_append (before ns ms : List String) :
    settle before (ns ++ ms) = settle (settle before ns).reverse ms := by
  fun_induction settle before ns with
  | case1 before => rw [List.nil_append, List.reverse_reverse]
  | case2 before n ns skipped ih => rw [List.cons_append, settle, if_pos skipped, ih]
  | case3 before ns skipped ih =>
      rw [List.cons_append, settle, if_neg skipped, if_pos rfl, ih]
  | case4 before n ns named up ih =>
      rw [List.cons_append, settle, if_neg named, if_neg up, ih]

theorem settle_name {n : String} (h : IsName n) (before : List String) :
    settle before [n] = before.reverse ++ [n] := by
  have named : ¬ (n = "" ∨ n = ".") := fun hn => hn.elim h.ne_empty h.ne_here
  rw [settle, if_neg named, if_neg h.ne_above, settle, List.reverse_cons]

/-- Empty names lead nowhere. -/
theorem settle_filter (before ns : List String) :
    settle before (ns.filter (· != "")) = settle before ns := by
  induction ns generalizing before with
  | nil => rfl
  | cons n ns ih =>
      by_cases h : n = ""
      · subst h
        rw [List.filter_cons_of_neg (by simp), ih, settle, if_pos (.inl rfl)]
      · rw [List.filter_cons_of_pos (by simpa using h)]
        simp only [settle, ih]

/-! ## Joining -/

theorem join_name_of_ne {path n : String} (hn : IsName n)
    (h : ¬ (path = "" ∨ path.toList.getLast? = some '/')) : join path n = path ++ "/" ++ n := by
  rw [join, hn.not_isAbsolute, if_neg Bool.false_ne_true, if_neg h]

theorem join_name_of_eq {path n : String} (hn : IsName n)
    (h : path = "" ∨ path.toList.getLast? = some '/') : join path n = path ++ n := by
  rw [join, hn.not_isAbsolute, if_neg Bool.false_ne_true, if_pos h]

/-- A name is followed from where the path before it leads. -/
theorem settle_parts_join {n : String} (hn : IsName n) (before : List String) (path : String) :
    settle before (parts (join path n)) = settle before (parts path) ++ [n] := by
  by_cases h : path = "" ∨ path.toList.getLast? = some '/'
  · rw [join_name_of_eq hn h]
    cases h with
    | inl empty =>
        subst empty
        rw [String.empty_append, hn.parts, settle_name hn]
        rfl
    | inr ends =>
        -- The empty name after the last slash is replaced by `n`.
        obtain ⟨front, rfl⟩ := exists_append_slash ends
        have whole : parts (front ++ "/") = parts front ++ [""] := by
          have divided := parts_append_slash front ""
          rwa [String.append_empty, parts_of_no_slash (s := "") List.not_mem_nil] at divided
        have kept : settle (settle before (parts front)).reverse [""] =
            settle before (parts front) := by
          rw [settle, if_pos (.inl rfl), settle, List.reverse_reverse]
        rw [parts_append_slash, hn.parts, whole, settle_append, settle_append, kept,
          settle_name hn, List.reverse_reverse]
  · rw [join_name_of_ne hn h, parts_append_slash, hn.parts, settle_append, settle_name hn,
      List.reverse_reverse]

theorem isAbsolute_join {path n : String} (hn : IsName n) :
    isAbsolute (join path n) = isAbsolute path := by
  by_cases empty : path = ""
  · subst empty
    rw [join_name_of_eq hn (.inl rfl), String.empty_append, hn.not_isAbsolute]
    rfl
  · have front : path.toList ≠ [] := fun h => empty (String.toList_inj.mp h)
    have head : ∀ rest : List Char, (path.toList ++ rest).head? = path.toList.head? :=
      fun rest => List.head?_append_of_ne_nil _ front
    by_cases h : path = "" ∨ path.toList.getLast? = some '/'
    · rw [join_name_of_eq hn h, isAbsolute, isAbsolute, String.toList_append, head]
    · rw [join_name_of_ne hn h, isAbsolute, isAbsolute, String.toList_append,
        String.toList_append, List.append_assoc, head]

/-- A name leads to the place of that name below the place of the path. -/
theorem absoluteNames_join {n : String} (hn : IsName n) (directory : List String) (path : String) :
    absoluteNames directory (join path n) = absoluteNames directory path ++ [n] := by
  rw [absoluteNames, absoluteNames, isAbsolute_join hn]
  split
  · exact settle_parts_join hn [] path
  · exact settle_parts_join hn directory.reverse path

theorem mem_join_iff {n : String} (hn : IsName n) {c : Char} (hc : c ≠ '/') (path : String) :
    c ∈ (join path n).toList ↔ c ∈ path.toList ∨ c ∈ n.toList := by
  by_cases h : path = "" ∨ path.toList.getLast? = some '/'
  · rw [join_name_of_eq hn h, String.toList_append, List.mem_append]
  · rw [join_name_of_ne hn h]
    simp [hc]

/-! ## The parent and the last name -/

theorem beforeName_append_name (path : String) :
    beforeName path ++ (name path).toList = path.toList := by
  rw [beforeName, name, String.toList_ofList, ← List.reverse_append,
    List.takeWhile_append_dropWhile, List.reverse_reverse]

theorem toList_parent_sublist (path : String) : (parent path).toList.Sublist (beforeName path) := by
  rw [parent]
  split
  · rw [String.toList_ofList]
  · rw [String.toList_ofList, ← List.reverse_sublist, List.reverse_reverse]
    exact List.dropWhile_sublist _

/-- Only slashes are cut off the end of what stands in front of the last name. -/
theorem mem_parent_of_mem_beforeName {path : String} {c : Char} (hc : c ≠ '/')
    (h : c ∈ beforeName path) : c ∈ (parent path).toList := by
  rw [parent]
  split
  · rwa [String.toList_ofList]
  · rw [String.toList_ofList, List.mem_reverse]
    have divided : c ∈ (beforeName path).reverse.takeWhile (· == '/') ++
        (beforeName path).reverse.dropWhile (· == '/') := by
      rwa [List.takeWhile_append_dropWhile, List.mem_reverse]
    cases List.mem_append.mp divided with
    | inl taken => exact absurd (by simpa using List.mem_takeWhile_imp taken) hc
    | inr dropped => exact dropped

theorem mem_parent_or_name_iff {path : String} {c : Char} (hc : c ≠ '/') :
    c ∈ (parent path).toList ∨ c ∈ (name path).toList ↔ c ∈ path.toList := by
  rw [← beforeName_append_name path, List.mem_append]
  exact or_congr_left
    ⟨fun h => (toList_parent_sublist path).subset h, mem_parent_of_mem_beforeName hc⟩

/-- The last name of a joined path is the one that was joined. -/
theorem name_join {n : String} (hn : IsName n) (path : String) : name (join path n) = n := by
  have noSlash : ∀ c ∈ n.toList.reverse, (c != '/') = true := by
    intro c hc
    rw [bne_iff_ne]
    rintro rfl
    exact hn.no_slash (List.mem_reverse.mp hc)
  have cut : ∀ front : List Char, front = [] ∨ front.getLast? = some '/' →
      (front ++ n.toList).reverse.takeWhile (· != '/') = n.toList.reverse := by
    intro front h
    rw [List.reverse_append, List.takeWhile_append_of_pos noSlash]
    cases h with
    | inl empty => rw [empty]; simp
    | inr slash =>
        obtain ⟨before, rfl⟩ := List.getLast?_eq_some_iff.mp slash
        simp
  by_cases h : path = "" ∨ path.toList.getLast? = some '/'
  · rw [join_name_of_eq hn h, name, String.toList_append, cut, List.reverse_reverse,
      String.ofList_toList]
    exact h.imp_left fun empty => by rw [empty]; rfl
  · rw [join_name_of_ne hn h, name, String.toList_append, cut, List.reverse_reverse,
      String.ofList_toList]
    exact .inr (by simp)

theorem length_parent_add_length_name (path : String) :
    (parent path).length + (name path).length ≤ path.length := by
  have whole := congrArg List.length (beforeName_append_name path)
  have shorter := (toList_parent_sublist path).length_le
  rw [List.length_append] at whole
  simp only [String.length_toList] at whole shorter
  omega

end ContractClient.Path
