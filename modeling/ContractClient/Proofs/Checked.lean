import ContractClient.Checked
import Mathlib.Data.List.Forall2

/-!
# Checks that succeed

A check gives faults or a result.  These lemmas say when it gives a result, and what the
result comes from, so that no proof has to unfold a check.  A list is accepted exactly if
each of its items is (`listOf_eq_ok_iff`).
-/

namespace ContractClient.Checked

variable {α β : Type}

@[simp]
theorem map_ok (f : α → β) (a : α) : f <$> (ok a : Checked α) = ok (f a) := rfl

@[simp]
theorem seq_ok (f : α → β) (a : α) : (ok f : Checked (α → β)) <*> ok a = ok (f a) := rfl

@[simp]
theorem under_ok (s : Step) (a : α) : (ok a : Checked α).under s = ok a := rfl

theorem map_eq_ok_iff {f : α → β} {x : Checked α} {b : β} :
    f <$> x = ok b ↔ ∃ a, x = ok a ∧ f a = b := by
  cases x with
  | ok a => simp
  | faults fs =>
      constructor
      · intro h; cases h
      · rintro ⟨_, h, _⟩; cases h

theorem seq_eq_ok_iff {f : Checked (α → β)} {x : Checked α} {b : β} :
    f <*> x = ok b ↔ ∃ k a, f = ok k ∧ x = ok a ∧ k a = b := by
  cases f with
  | ok k =>
      cases x with
      | ok a => simp
      | faults fs =>
          constructor
          · intro h; cases h
          · rintro ⟨_, _, _, h, _⟩; cases h
  | faults fs =>
      constructor
      · intro h; cases x <;> cases h
      · rintro ⟨_, _, h, _⟩; cases h

theorem under_eq_ok_iff {s : Step} {x : Checked α} {a : α} : x.under s = ok a ↔ x = ok a := by
  cases x with
  | ok b => simp
  | faults fs =>
      constructor
      · intro h; cases h
      · intro h; cases h

theorem record_eq_ok_iff {check : Entries Value → Checked α} {v : Value} {a : α} :
    record check v = ok a ↔ ∃ es, v = .table es ∧ check es = ok a := by
  constructor
  · intro h
    cases v with
    | table es => exact ⟨es, rfl, h⟩
    | _ => cases h
  · rintro ⟨es, rfl, h⟩
    exact h

/-- A field with a default is what its value gives, or the default. -/
theorem defaulted_eq_ok {es : Entries Value} {name : String} {check : Value → Checked α}
    {default a : α} (h : defaulted es name check default = ok a) :
    (∃ v, es.get? name = some v ∧ check v = ok a) ∨ es.get? name = none ∧ a = default := by
  rw [defaulted] at h
  cases found : es.get? name with
  | none =>
      rw [found] at h
      cases h
      exact Or.inr ⟨rfl, rfl⟩
  | some v =>
      rw [found] at h
      exact Or.inl ⟨v, rfl, under_eq_ok_iff.mp h⟩

theorem itemsFrom_eq_ok_iff {check : Value → Checked α} {i : Nat} {vs : List Value} {as : List α} :
    itemsFrom check i vs = ok as ↔ List.Forall₂ (fun v a => check v = ok a) vs as := by
  induction vs generalizing i as with
  | nil =>
      rw [itemsFrom, List.forall₂_nil_left_iff]
      constructor
      · intro h; cases h; rfl
      · rintro rfl; rfl
  | cons v vs ih =>
      rw [itemsFrom, seq_eq_ok_iff, List.forall₂_cons_left_iff]
      simp only [map_eq_ok_iff, under_eq_ok_iff, ih]
      constructor
      · rintro ⟨_, rest, ⟨a, first, rfl⟩, items, rfl⟩
        exact ⟨a, rest, first, items, rfl⟩
      · rintro ⟨a, rest, first, items, rfl⟩
        exact ⟨_, rest, ⟨a, first, rfl⟩, items, rfl⟩

theorem listOf_eq_ok_iff {check : Value → Checked α} {v : Value} {as : List α} :
    listOf check v = ok as ↔
      ∃ vs, v = .list vs ∧ List.Forall₂ (fun v a => check v = ok a) vs as := by
  constructor
  · intro h
    cases v with
    | list vs => exact ⟨vs, rfl, itemsFrom_eq_ok_iff.mp h⟩
    | _ => cases h
  · rintro ⟨vs, rfl, h⟩
    exact itemsFrom_eq_ok_iff.mpr h

theorem listOf_map_eq_ok_iff {γ : Type} {check : Value → Checked α} {f : γ → Value} {xs : List γ}
    {as : List α} :
    listOf check (.list (xs.map f)) = ok as ↔
      List.Forall₂ (fun x a => check (f x) = ok a) xs as := by
  rw [listOf, itemsFrom_eq_ok_iff, List.forall₂_map_left_iff]

/-- Whatever is in a list that was accepted has passed the check of the items. -/
theorem exists_of_mem_of_listOf {check : Value → Checked α} {v : Value} {as : List α} {a : α}
    (h : listOf check v = ok as) (ha : a ∈ as) : ∃ w, check w = ok a := by
  obtain ⟨vs, -, items⟩ := listOf_eq_ok_iff.mp h
  clear h
  induction items with
  | nil => cases ha
  | @cons w _ _ _ first _ ih =>
      rcases List.mem_cons.mp ha with rfl | ha
      · exact ⟨w, first⟩
      · exact ih ha

end ContractClient.Checked
