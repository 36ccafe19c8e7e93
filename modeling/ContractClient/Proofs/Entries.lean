import ContractClient.Entries
import Mathlib.Data.List.Nodup

/-!
# Laws of insertion-ordered tables

What writing does to the keys of a table and to what is found under them.  A
write keeps every other key (`get?_put`) and adds its own key at the end if it
is new (`keys_put`), so the keys of a table that was built by writes are
distinct.

Two ways of building a table occur.  `ofPairs` writes pairs one after the other:
its keys are the distinct first components, and the last pair of a key counts
(`get?_ofPairs`).  `addNew` writes only where nothing is there: the first pair of
a key counts, after what the table held before (`get?_addNew`).
-/

namespace ContractClient

/-! ## Distinct items -/

theorem nodup_distinct {α : Type u} [DecidableEq α] (xs : List α) : (distinct xs).Nodup := by
  induction xs with
  | nil => exact List.nodup_nil
  | cons x xs ih =>
      rw [distinct, List.nodup_cons]
      constructor
      · simp
      · exact ih.filter _

namespace Entries

variable {β : Type u}

/-! ## Keys and what is found under them -/

@[simp]
theorem get?_nil (key : String) : get? ([] : Entries β) key = none := rfl

theorem get?_cons (k : String) (v : β) (es : Entries β) (key : String) :
    get? ((k, v) :: es) key = if k = key then some v else get? es key := rfl

theorem get?_eq_none_iff {es : Entries β} {key : String} :
    es.get? key = none ↔ key ∉ es.keys := by
  induction es with
  | nil => simp [keys]
  | cons e es ih =>
      obtain ⟨k, v⟩ := e
      rw [get?_cons]
      by_cases h : k = key
      · simp [keys, h]
      · have h' : ¬ key = k := fun e => h e.symm
        rw [if_neg h, ih]
        simp [keys, h']

theorem has_iff {es : Entries β} {key : String} : es.has key = true ↔ key ∈ es.keys := by
  rw [has, Option.isSome_iff_ne_none, ne_eq, get?_eq_none_iff, Decidable.not_not]

theorem mem_keys_iff {es : Entries β} {key : String} :
    key ∈ es.keys ↔ ∃ b, es.get? key = some b := by
  rw [← has_iff, has, Option.isSome_iff_exists]

/-- Under distinct keys every pair is found. -/
theorem get?_of_mem {es : Entries β} (nodup : es.keys.Nodup) {key : String} {b : β}
    (h : (key, b) ∈ es) : es.get? key = some b := by
  induction es with
  | nil => cases h
  | cons e es ih =>
      obtain ⟨k, v⟩ := e
      obtain ⟨fresh, rest⟩ := List.nodup_cons.mp nodup
      rw [get?_cons]
      cases List.mem_cons.mp h with
      | inl he =>
          cases he
          rw [if_pos rfl]
      | inr hes =>
          have differs : ¬ k = key := by
            rintro rfl
            exact fresh (List.mem_map.mpr ⟨_, hes, rfl⟩)
          rw [if_neg differs, ih rest hes]

theorem get?_eq_some_iff {es : Entries β} (nodup : es.keys.Nodup) {key : String} {b : β} :
    es.get? key = some b ↔ (key, b) ∈ es :=
  ⟨mem_of_get?, get?_of_mem nodup⟩

/-- Under distinct keys the values are what is found under the keys, in order. -/
theorem values_eq_filterMap {es : Entries β} (nodup : es.keys.Nodup) :
    es.values = es.keys.filterMap es.get? := by
  have found : ∀ e ∈ es, es.get? e.1 = some e.2 := fun e he => get?_of_mem nodup he
  rw [keys, List.filterMap_map, values]
  exact (List.filterMap_eq_map_iff_forall_eq_some.mpr found).symm

/-! ## One write -/

theorem get?_put (es : Entries β) (key : String) (b : β) (k : String) :
    (es.put key b).get? k = if key = k then some b else es.get? k := by
  induction es with
  | nil => rfl
  | cons e es ih =>
      obtain ⟨k', v⟩ := e
      by_cases h : k' = key
      · subst h
        by_cases hk : k' = k
        · simp [put, get?_cons, hk]
        · simp [put, get?_cons, hk]
      · rw [put, if_neg h, get?_cons, get?_cons, ih]
        by_cases hk : k' = k
        · subst hk
          rw [if_pos rfl, if_pos rfl, if_neg (fun e => h e.symm)]
        · rw [if_neg hk, if_neg hk]

theorem keys_put (es : Entries β) (key : String) (b : β) :
    (es.put key b).keys = if key ∈ es.keys then es.keys else es.keys ++ [key] := by
  induction es with
  | nil => simp [put, keys]
  | cons e es ih =>
      obtain ⟨k, v⟩ := e
      by_cases h : k = key
      · simp [put, keys, h]
      · have h' : ¬ key = k := fun e => h e.symm
        have ih' : (put es key b).map Prod.fst = _ := ih
        rw [put, if_neg h, keys, List.map_cons, ih']
        by_cases hmem : key ∈ keys es
        · simp [keys] at hmem ⊢
          simp [hmem]
        · simp [keys] at hmem ⊢
          simp [hmem, h']

/-- A new key comes last. -/
theorem put_of_not_mem {es : Entries β} {key : String} (h : key ∉ es.keys) (b : β) :
    es.put key b = es ++ [(key, b)] := by
  induction es with
  | nil => rfl
  | cons e es ih =>
      obtain ⟨k, v⟩ := e
      have parts : ¬ key = k ∧ key ∉ keys es := by simpa [keys] using h
      rw [put, if_neg fun same => parts.1 same.symm, ih parts.2, List.cons_append]

theorem nodup_keys_put {es : Entries β} (nodup : es.keys.Nodup) (key : String) (b : β) :
    (es.put key b).keys.Nodup := by
  rw [keys_put]
  split
  next => exact nodup
  next fresh =>
    rw [List.nodup_append]
    refine ⟨nodup, by simp, ?_⟩
    intro k hk k' hk'
    rw [List.mem_singleton] at hk'
    rintro rfl
    exact fresh (hk' ▸ hk)

/-- What a write puts into a table was there before or is what was written. -/
theorem mem_put {es : Entries β} {key : String} {b : β} {e : String × β}
    (h : e ∈ es.put key b) : e ∈ es ∨ e = (key, b) := by
  induction es with
  | nil => exact Or.inr (List.mem_singleton.mp h)
  | cons e' es ih =>
      obtain ⟨k, v⟩ := e'
      by_cases hk : k = key
      · subst hk
        rw [put, if_pos rfl] at h
        cases List.mem_cons.mp h with
        | inl he => exact Or.inr he
        | inr he => exact Or.inl (List.mem_cons_of_mem _ he)
      · rw [put, if_neg hk] at h
        cases List.mem_cons.mp h with
        | inl he => exact Or.inl (he ▸ List.mem_cons_self ..)
        | inr he =>
            cases ih he with
            | inl hes => exact Or.inl (List.mem_cons_of_mem _ hes)
            | inr heq => exact Or.inr heq

theorem get?_putNew (es : Entries β) (key : String) (b : β) (k : String) :
    (es.putNew key b).get? k = (es.get? k).or (if key = k then some b else none) := by
  rw [putNew]
  split
  next there =>
    by_cases hk : key = k
    · subst hk
      obtain ⟨v, hv⟩ := Option.isSome_iff_exists.mp there
      rw [hv, Option.some_or]
    · rw [if_neg hk, Option.or_none]
  next fresh =>
    rw [get?_put]
    by_cases hk : key = k
    · subst hk
      have absent : es.get? key = none := by
        simpa [has] using fresh
      rw [if_pos rfl, if_pos rfl, absent, Option.none_or]
    · rw [if_neg hk, if_neg hk, Option.or_none]

theorem nodup_keys_putNew {es : Entries β} (nodup : es.keys.Nodup) (key : String) (b : β) :
    (es.putNew key b).keys.Nodup := by
  rw [putNew]
  split
  next => exact nodup
  next => exact nodup_keys_put nodup key b

/-! ## Writing pairs one after the other -/

theorem override_cons (es : Entries β) (p : String × β) (pairs : List (String × β)) :
    es.override (p :: pairs) = (es.put p.1 p.2).override pairs := rfl

theorem ofPairs_eq_override (pairs : List (String × β)) : ofPairs pairs = override [] pairs := rfl

/-- The old keys come first, then the new ones in order of first occurrence. -/
theorem keys_override (es : Entries β) (pairs : List (String × β)) :
    (es.override pairs).keys =
      es.keys ++ (distinct (pairs.map Prod.fst)).filter (· ∉ es.keys) := by
  induction pairs generalizing es with
  | nil => simp [override, distinct]
  | cons p pairs ih =>
      rw [override_cons, ih, keys_put]
      split
      next there =>
        have same : ∀ k ∈ distinct (pairs.map Prod.fst),
            decide (k ∉ es.keys) = (decide (k ∉ es.keys) && decide (k ≠ p.1)) := by
          intro k _
          by_cases hk : k ∈ es.keys
          · simp [hk]
          · have differs : k ≠ p.1 := fun e => hk (e ▸ there)
            simp [hk, differs]
        simp only [List.map_cons, distinct]
        rw [List.filter_cons_of_neg (by simpa using there), List.filter_filter,
          List.filter_congr same]
      next fresh =>
        simp only [List.map_cons, distinct]
        rw [List.filter_cons_of_pos (by simpa using fresh), List.filter_filter,
          List.append_assoc, List.singleton_append]
        congr 2
        apply List.filter_congr
        intro k _
        by_cases hk : k ∈ es.keys
        · simp [hk]
        · simp [hk]

/-- The last pair of a key counts. -/
theorem get?_override (es : Entries β) (pairs : List (String × β)) (key : String) :
    (es.override pairs).get? key =
      ((pairs.reverse.find? (·.1 = key)).map Prod.snd).or (es.get? key) := by
  induction pairs generalizing es with
  | nil => rfl
  | cons p pairs ih =>
      rw [override_cons, ih, get?_put, List.reverse_cons, List.find?_append, Option.map_or,
        Option.or_assoc]
      congr 1
      by_cases h : p.1 = key
      · simp [h]
      · simp [h]

theorem keys_ofPairs (pairs : List (String × β)) :
    (ofPairs pairs).keys = distinct (pairs.map Prod.fst) := by
  rw [ofPairs_eq_override, keys_override]
  simp [keys]

theorem nodup_keys_ofPairs (pairs : List (String × β)) : (ofPairs pairs).keys.Nodup := by
  rw [keys_ofPairs]
  exact nodup_distinct _

theorem get?_ofPairs (pairs : List (String × β)) (key : String) :
    (ofPairs pairs).get? key = (pairs.reverse.find? (·.1 = key)).map Prod.snd := by
  rw [ofPairs_eq_override, get?_override, get?_nil, Option.or_none]

/-- New and distinct keys come behind the old ones, as they are written. -/
theorem override_eq_append {es : Entries β} {pairs : List (String × β)}
    (nodup : (es.keys ++ pairs.map Prod.fst).Nodup) : es.override pairs = es ++ pairs := by
  induction pairs generalizing es with
  | nil => exact (List.append_nil es).symm
  | cons p pairs ih =>
      have fresh : p.1 ∉ es.keys := fun there =>
        (List.nodup_append.mp nodup).2.2 p.1 there p.1 List.mem_cons_self rfl
      have appended : es.put p.1 p.2 = es ++ [p] := put_of_not_mem fresh p.2
      rw [override_cons, appended, ih]
      · rw [List.append_assoc, List.singleton_append]
      · rw [keys, List.map_append, List.append_assoc]
        exact nodup

theorem ofPairs_eq_self {pairs : List (String × β)} (nodup : (pairs.map Prod.fst).Nodup) :
    ofPairs pairs = pairs := by
  rw [ofPairs_eq_override]
  exact override_eq_append nodup

/-- Every pair of the table is one of those that were written. -/
theorem mem_of_mem_override {es : Entries β} {pairs : List (String × β)} {e : String × β}
    (h : e ∈ es.override pairs) : e ∈ es ∨ e ∈ pairs := by
  induction pairs generalizing es with
  | nil => exact Or.inl h
  | cons p pairs ih =>
      rw [override_cons] at h
      rcases ih h with hput | hpairs
      · rcases mem_put hput with hes | rfl
        · exact Or.inl hes
        · exact Or.inr (List.mem_cons_self ..)
      · exact Or.inr (List.mem_cons_of_mem _ hpairs)

theorem mem_of_mem_ofPairs {pairs : List (String × β)} {e : String × β}
    (h : e ∈ ofPairs pairs) : e ∈ pairs := by
  rw [ofPairs_eq_override] at h
  exact (mem_of_mem_override h).resolve_left List.not_mem_nil

/-! ## Writing pairs where nothing is there -/

/-- The table with pairs written one after the other, each unless its key is
there. -/
def addNew (es : Entries β) (pairs : List (String × β)) : Entries β :=
  pairs.foldl (fun es p => es.putNew p.1 p.2) es

/-- The first pair of a key counts, after what the table held before. -/
theorem get?_addNew (es : Entries β) (pairs : List (String × β)) (key : String) :
    (es.addNew pairs).get? key =
      (es.get? key).or ((pairs.find? (·.1 = key)).map Prod.snd) := by
  induction pairs generalizing es with
  | nil => rw [List.find?_nil, Option.map_none, Option.or_none]; rfl
  | cons p pairs ih =>
      have first : (es.addNew (p :: pairs)) = (es.putNew p.1 p.2).addNew pairs := rfl
      rw [first, ih, get?_putNew, Option.or_assoc]
      congr 1
      by_cases h : p.1 = key
      · simp [h]
      · simp [h]

theorem nodup_keys_addNew {es : Entries β} (nodup : es.keys.Nodup)
    (pairs : List (String × β)) : (es.addNew pairs).keys.Nodup := by
  induction pairs generalizing es with
  | nil => exact nodup
  | cons p pairs ih =>
      have first : (es.addNew (p :: pairs)) = (es.putNew p.1 p.2).addNew pairs := rfl
      rw [first]
      exact ih (nodup_keys_putNew nodup p.1 p.2)

theorem mem_keys_addNew {es : Entries β} {pairs : List (String × β)} {key : String} :
    key ∈ (es.addNew pairs).keys ↔ key ∈ es.keys ∨ key ∈ pairs.map Prod.fst := by
  rw [← has_iff, has, get?_addNew, Option.isSome_or, Bool.or_eq_true, Option.isSome_map]
  refine or_congr has_iff ?_
  rw [List.find?_isSome]
  simp

end Entries

end ContractClient
