import ContractClient.Proofs.Catalog.ClassMap
import ContractClient.Proofs.Catalog.Passes

/-!
# Adding a class that nothing refers to

A new class enters a catalog in five ways.  Its identifier moves fields of the same
name, it is registered, it is found by its local name, it takes part in the scans, and
its raw name goes into the class map, in front of the bases.  `Unrelated` says of a class
at the end of the contract that none of the first three matters for what is there: it has
an identifier of its own, no field is called like it, and no reference bears one of its
names.

Then the old classes give the same models (`registered_append`), and every reference of
theirs leads where it led (`resolveIn_append`).  The new model has no base, so it is taken
at the end of the first scan and nothing else moves (`exists_models_append`), and its raw
name is no raw base, so one entry is put into the class map and nothing else changes
(`exists_meanings_append`).  `grows_of_unrelated` puts this together.
-/

namespace ContractClient

open Identifier (className typeName localPart fieldName)

seal Identifier.className Identifier.typeName Identifier.fieldName TypeRef.parse

/-- A reference bears no name under which a class could be found. -/
def TypeRef.Avoids (r : TypeRef) (d : ClassDecl) : Prop :=
  r.name ≠ className d.name ∧ r.localName ≠ className d.name ∧
    r.localName ≠ typeName (localPart d.name)

instance (r : TypeRef) (d : ClassDecl) : Decidable (r.Avoids d) := inferInstanceAs (Decidable (_ ∧ _))

/-- One more class name moves only the fields that are called like it. -/
theorem Field.ofEntries_append {names : List String} {name : String} {entries : List Entry}
    (h : ∀ e ∈ entries, fieldName e.name ≠ name) :
    ofEntries (names ++ [name]) entries = ofEntries names entries := by
  rw [ofEntries, ofEntries, List.mapIdx_eq_mapIdx_iff]
  intro position within
  have other : fieldName entries[position].name ≠ name := h _ (List.getElem_mem within)
  rw [ofEntry, ofEntry, wantedName, wantedName]
  simp [other]

theorem distinct_append_of_not_mem {xs : List String} {x : String} (h : x ∉ xs) :
    distinct (xs ++ [x]) = distinct xs ++ [x] := by
  induction xs with
  | nil => rfl
  | cons y ys ih =>
      have parts : x ≠ y ∧ x ∉ ys := by simpa using h
      rw [List.cons_append, distinct, ih parts.2, List.filter_append, distinct, List.cons_append]
      simp [parts.1]

/-- A pair in the middle of a table whose key is not written stays where it is, and does
not touch the others. -/
theorem Entries.exists_addNew_insert {β : Type} {x : String × β} {pairs : List (String × β)}
    (other : ∀ p ∈ pairs, p.1 ≠ x.1) (front back : Entries β) :
    ∃ back', Entries.addNew (front ++ back) pairs = front ++ back' ∧
      Entries.addNew (front ++ x :: back) pairs = front ++ x :: back' := by
  induction pairs generalizing back with
  | nil => exact ⟨back, rfl, rfl⟩
  | cons p pairs ih =>
      have rest := ih fun q hq => other q (List.mem_cons_of_mem _ hq)
      have differs := other p List.mem_cons_self
      have keys : p.1 ∈ Entries.keys (front ++ x :: back) ↔ p.1 ∈ Entries.keys (front ++ back) := by
        simp [Entries.keys, differs]
      have step : ∀ es : Entries β, es.addNew (p :: pairs) = (es.putNew p.1 p.2).addNew pairs :=
        fun _ => rfl
      rw [step, step, Entries.putNew, Entries.putNew]
      by_cases there : p.1 ∈ Entries.keys (front ++ back)
      · rw [if_pos (Entries.has_iff.mpr there), if_pos (Entries.has_iff.mpr (keys.mpr there))]
        exact rest back
      · rw [if_neg (fun h => there (Entries.has_iff.mp h)),
          if_neg (fun h => there (keys.mp (Entries.has_iff.mp h))),
          Entries.put_of_not_mem there, Entries.put_of_not_mem (fun h => there (keys.mp h)),
          List.append_assoc, List.append_assoc, List.cons_append]
        exact rest (back ++ [(p.1, p.2)])

namespace Catalog

variable {g : Catalog} {decls : List ClassDecl} {d : ClassDecl}

/-! ## Unrelated classes -/

/-- The references in the models of a catalog: their bases and the types of their
fields. -/
def references (g : Catalog) : List TypeRef :=
  g.models.flatMap fun n => n.baseType.toList ++ n.fields.map Field.type

/-- A class that has nothing to do with the classes of a catalog. -/
structure Unrelated (g : Catalog) (d : ClassDecl) : Prop where
  /-- It has no base. -/
  base : d.base = none
  /-- It has an identifier. -/
  named : className d.name ≠ ""
  /-- Its name does not read as a primitive. -/
  proper : (TypeRef.parse d.name).isPrimitive = false
  /-- No class has its identifier. -/
  name : className d.name ∉ g.names
  /-- No field is called like it. -/
  field : ∀ n ∈ g.models, ∀ f ∈ n.fields, fieldName f.rawName ≠ className d.name
  /-- No reference bears one of its names. -/
  avoided : ∀ r ∈ g.references, r.Avoids d

/-- The model of a class at the end of a contract. -/
def addedModel (decls : List ClassDecl) (d : ClassDecl) : Model :=
  modelOf (classNames (decls ++ [d])) d

section Added

theorem base_mem_references {n : Model} (hn : n ∈ g.models) {r : TypeRef}
    (h : n.baseType = some r) : r ∈ g.references :=
  List.mem_flatMap.mpr ⟨n, hn, List.mem_append_left _ (by simp [h])⟩

theorem field_mem_references {n : Model} (hn : n ∈ g.models) {f : Field} (h : f ∈ n.fields) :
    f.type ∈ g.references :=
  List.mem_flatMap.mpr ⟨n, hn, List.mem_append_right _ (List.mem_map_of_mem h)⟩

/-! ## Registration -/

theorem classNames_append (decls : List ClassDecl) (named : className d.name ≠ "") :
    classNames (decls ++ [d]) = classNames decls ++ [className d.name] := by
  rw [classNames, classNames, List.map_append, List.filter_append]
  simp [named]

variable (h : build decls = .ok g) (unrelated : Unrelated g d)
include h unrelated

theorem name_not_mem_classNames : className d.name ∉ classNames decls := by
  intro listed
  apply unrelated.name
  rw [← mem_distinct, ← registered_names] at listed
  exact ((models_perm_of_build h).map Model.name).mem_iff.mpr listed

/-- The old classes give the same models as before. -/
theorem registered_append :
    registered (decls ++ [d]) = registered decls ++ [addedModel decls d] := by
  have fresh := name_not_mem_classNames h unrelated
  have names := classNames_append decls unrelated.named
  have last : lastDecl? (decls ++ [d]) (className d.name) = some d := by simp [lastDecl?]
  have old : ∀ name ∈ distinct (classNames decls),
      (lastDecl? (decls ++ [d]) name).map (modelOf (classNames (decls ++ [d]))) =
        (lastDecl? decls name).map (modelOf (classNames decls)) := by
    intro name hname
    have differs : className d.name ≠ name := by
      rintro rfl
      exact fresh (mem_distinct.mp hname)
    have skipped : lastDecl? (decls ++ [d]) name = lastDecl? decls name := by
      simp [lastDecl?, differs]
    rw [skipped]
    cases found : lastDecl? decls name with
    | none => rfl
    | some c =>
        have model : modelOf (classNames decls) c ∈ g.models := by
          rw [(models_perm_of_build h).mem_iff]
          exact List.mem_filterMap.mpr ⟨name, hname, by rw [found]; rfl⟩
        have fields : ∀ e ∈ c.entries, fieldName e.name ≠ className d.name := by
          intro e he
          obtain ⟨position, within, rfl⟩ := List.mem_iff_getElem.mp he
          exact unrelated.field _ model _ (List.mem_mapIdx.mpr ⟨position, within, rfl⟩)
        rw [Option.map_some, Option.map_some, modelOf, modelOf, names,
          Field.ofEntries_append fields]
  rw [registered, names, distinct_append_of_not_mem fresh, List.filterMap_append, ← names,
    List.filterMap_congr old, List.filterMap_cons_some (by rw [last, Option.map_some])]
  rfl

/-! ## References and chains -/

omit h unrelated in
/-- A reference that bears no name of a class leads where it led without it. -/
theorem resolveIn_append {models : List Model} {n : Model} {r : TypeRef} (avoids : r.Avoids d)
    (name : n.name = className d.name) (localName : n.localName = typeName (localPart d.name)) :
    resolveIn (models ++ [n]) r = resolveIn models r := by
  have byName : ∀ key, key ≠ className d.name →
      (models ++ [n]).find? (·.name = key) = models.find? (·.name = key) := by
    intro key other
    rw [List.find?_append, List.find?_singleton, name, decide_eq_false (Ne.symm other)]
    exact Option.or_none
  have byLocal : ∀ key, key ≠ typeName (localPart d.name) →
      (models ++ [n]).find? (·.localName = key) = models.find? (·.localName = key) := by
    intro key other
    rw [List.find?_append, List.find?_singleton, localName, decide_eq_false (Ne.symm other)]
    exact Option.or_none
  rw [resolveIn, resolveIn, lookUp, lookUp, byName _ avoids.1, byName _ avoids.2.1,
    byLocal _ avoids.2.2]

theorem resolveIn_registered_append {r : TypeRef} (avoids : r.Avoids d) :
    resolveIn (registered (decls ++ [d])) r = resolveIn (registered decls) r := by
  rw [registered_append h unrelated]
  exact resolveIn_append avoids rfl rfl

theorem baseIn_registered_append {n : Model} (hn : n ∈ registered decls) :
    baseIn (registered (decls ++ [d])) n = baseIn (registered decls) n := by
  rw [baseIn, baseIn]
  cases base : n.baseType with
  | none => rfl
  | some r =>
      have model := (models_perm_of_build h).mem_iff.mpr hn
      have avoids := unrelated.avoided r (base_mem_references model base)
      rw [Option.bind_some, Option.bind_some, resolveIn_registered_append h unrelated avoids]

omit h in
theorem isRoot_addedModel : (addedModel decls d).IsRoot := by
  intro r base
  have none : (addedModel decls d).baseType = none := by
    rw [addedModel, modelOf, unrelated.base]
    rfl
  rw [none] at base
  cases base

/-- The old models are taken in the same scans as before. -/
theorem pass_append {n : Model} {k : Nat} (hn : n ∈ registered decls)
    (pass : Pass (registered decls) n k) : Pass (registered (decls ++ [d])) n k := by
  have place : ∀ m ∈ registered decls,
      (registered (decls ++ [d])).idxOf m = (registered decls).idxOf m := by
    intro m hm
    rw [registered_append h unrelated, List.idxOf_append_of_mem hm]
  induction pass with
  | root isRoot => exact .root isRoot
  | @step n b k base _ ih =>
      have hb := mem_of_baseIn base
      have step := Pass.step (baseIn_registered_append h unrelated hn ▸ base) (ih hb)
      rwa [place n hn, place b hb] at step

theorem exists_pass_append :
    ∀ n ∈ registered (decls ++ [d]), ∃ k, Pass (registered (decls ++ [d])) n k := by
  intro n hn
  rw [registered_append h unrelated, List.mem_append, List.mem_singleton] at hn
  rcases hn with old | rfl
  · obtain ⟨k, pass⟩ := ((exists_build_iff decls).mp ⟨g, h⟩ n old).exists_pass
    exact ⟨k, pass_append h unrelated old pass⟩
  · exact ⟨0, .root (isRoot_addedModel unrelated)⟩

/-! ## The order of the models -/

omit h unrelated in
/-- A model of the first scan at the end of the list is taken behind the others of this
scan. -/
theorem exists_takenBefore_append {models : List Model} {n : Model} {pass : Model → Nat}
    (first : pass n = 0) (k : Nat) :
    ∃ front back, takenBefore models pass (k + 1) = front ++ back ∧
      takenBefore (models ++ [n]) pass (k + 1) = front ++ n :: back := by
  induction k with
  | zero =>
      refine ⟨takenBefore models pass 1, [], by simp, ?_⟩
      rw [takenBefore_succ, takenBefore_succ, List.filter_append]
      simp [takenBefore, first]
  | succ k ih =>
      obtain ⟨front, back, old, new⟩ := ih
      have unchanged : [n].filter (pass · = k + 1) = [] := by simp [first]
      refine ⟨front, back ++ models.filter (pass · = k + 1), ?_, ?_⟩
      · rw [takenBefore_succ, old, List.append_assoc]
      · rw [takenBefore_succ, new, List.filter_append, unchanged, List.append_nil,
          List.append_assoc, List.cons_append]

/-- The new model is put in between, and the old ones keep their order. -/
theorem exists_models_append {g' : Catalog} (h' : build (decls ++ [d]) = .ok g') :
    ∃ front back, g.models = front ++ back ∧ g'.models = front ++ addedModel decls d :: back := by
  have extended := registered_append h unrelated
  obtain ⟨pass, passes⟩ := exists_pass_of_build h'
  have added : addedModel decls d ∈ registered (decls ++ [d]) := by simp [extended]
  have first : pass (addedModel decls d) = 0 :=
    (passes _ added).unique (.root (isRoot_addedModel unrelated))
  have old : ∀ n ∈ registered decls, Pass (registered decls) n (pass n) := by
    intro n hn
    obtain ⟨k, number⟩ := ((exists_build_iff decls).mp ⟨g, h⟩ n hn).exists_pass
    have listed : n ∈ registered (decls ++ [d]) := extended ▸ List.mem_append_left _ hn
    rwa [(passes n listed).unique (pass_append h unrelated hn number)]
  obtain ⟨last, models, all⟩ := models_eq_takenBefore h old
  obtain ⟨last', models', all'⟩ := models_eq_takenBefore h' passes
  -- Both lists are taken in the same number of scans, some of which may be empty.
  have enough : g.models = takenBefore (registered decls) pass (last + last' + 1) := by
    rw [models, Nat.add_assoc, takenBefore_add all]
  have enough' : g'.models =
      takenBefore (registered decls ++ [addedModel decls d]) pass (last + last' + 1) := by
    rw [← extended, models', Nat.add_comm last, Nat.add_assoc, takenBefore_add all']
  rw [enough, enough']
  exact exists_takenBefore_append first _

/-! ## The class map -/

theorem declaredMeanings_append :
    declaredMeanings (decls ++ [d]) =
      declaredMeanings decls ++ [(d.name, .classId (className d.name))] := by
  have absent : d.name ∉ (declaredMeanings decls).keys := by
    intro there
    obtain ⟨c, hc, named, same⟩ := mem_keys_declaredMeanings.mp there
    exact name_not_mem_classNames h unrelated
      (mem_classNames.mpr ⟨unrelated.named, c, hc, congrArg className same⟩)
  rw [← Entries.put_of_not_mem absent, declaredMeanings, declaredMeanings, List.foldl_append,
    List.foldl_cons, List.foldl_nil, if_neg unrelated.named]

/-- No model has the raw name of the new class as its raw base. -/
theorem rawBase_ne {n : Model} (hn : n ∈ registered decls) (base : n.rawBase = some d.name) :
    False := by
  have nonempty : d.name ≠ "" := by
    intro empty
    apply unrelated.named
    rw [empty]
    decide +kernel
  have type : n.baseType = some (TypeRef.parse d.name) := by
    rw [baseType_of_mem_registered hn, base]
    simp [nonempty]
  have model := (models_perm_of_build h).mem_iff.mpr hn
  exact (unrelated.avoided _ (base_mem_references model type)).1
    (TypeRef.parse_name unrelated.proper)

theorem baseEntries_append :
    (registered (decls ++ [d])).filterMap (baseEntry (register (decls ++ [d]))) =
      (registered decls).filterMap (baseEntry (register decls)) := by
  have old : ∀ n ∈ registered decls,
      baseEntry (register (decls ++ [d])) n = baseEntry (register decls) n := by
    intro n hn
    rw [baseEntry, baseEntry, baseMeaning, baseMeaning, registeredBase_eq, registeredBase_eq,
      baseIn_registered_append h unrelated hn]
  have new : baseEntry (register (decls ++ [d])) (addedModel decls d) = none := by
    rw [baseEntry, addedModel, modelOf, unrelated.base]
    rfl
  rw [registered_append h unrelated, List.filterMap_append, List.filterMap_congr old,
    List.filterMap_cons_none new, List.filterMap_nil, List.append_nil]

/-- One entry is put into the class map, and the others keep their order. -/
theorem exists_meanings_append :
    ∃ front back, meanings decls = front ++ back ∧
      meanings (decls ++ [d]) = front ++ (d.name, .classId (className d.name)) :: back := by
  have other : ∀ p ∈ (registered decls).filterMap (baseEntry (register decls)),
      p.1 ≠ d.name := by
    rintro ⟨raw, m⟩ hp rfl
    obtain ⟨n, hn, entry⟩ := List.mem_filterMap.mp hp
    exact rawBase_ne h unrelated hn ((baseEntry_eq_some_iff hn).mp entry).1
  obtain ⟨back, old, new⟩ := Entries.exists_addNew_insert
    (x := (d.name, Meaning.classId (className d.name))) other (declaredMeanings decls) []
  refine ⟨declaredMeanings decls, back, ?_, ?_⟩
  · rw [meanings_eq, ← old, List.append_nil]
  · rw [meanings_eq, baseEntries_append h unrelated, declaredMeanings_append h unrelated, new]

/-! ## The catalog -/

/-- A catalog with one more model and one more raw name, in which everything else is as
it was. -/
structure Grows (g g' : Catalog) (d : ClassDecl) (n : Model) : Prop where
  models : ∃ front back, g.models = front ++ back ∧ g'.models = front ++ n :: back
  classMap : ∃ front back, g.classMap = front ++ back ∧
    g'.classMap = front ++ (d.name, .classId (className d.name)) :: back
  find : ∀ r : TypeRef, r.Avoids d → g'.find? r = g.find? r

theorem grows_of_unrelated :
    ∃ g', build (decls ++ [d]) = .ok g' ∧ Grows g g' d (addedModel decls d) := by
  have rooted : ∀ n ∈ registered (decls ++ [d]), Rooted (registered (decls ++ [d])) n := by
    intro n hn
    obtain ⟨k, pass⟩ := exists_pass_append h unrelated n hn
    exact pass.rooted
  obtain ⟨g', h'⟩ := (exists_build_iff _).mpr rooted
  refine ⟨g', h', exists_models_append h unrelated h', ?_, ?_⟩
  · rw [(progress_of_build h).2.1, (progress_of_build h').2.1]
    exact exists_meanings_append h unrelated
  · intro r avoids
    rw [find?_of_build h, find?_of_build h', resolveIn_registered_append h unrelated avoids]

end Added

end Catalog

end ContractClient
