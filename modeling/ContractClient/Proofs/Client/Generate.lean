import ContractClient.Proofs.Catalog.Order
import ContractClient.Proofs.Client.Files

/-!
# When code is generated

Whether code is generated is decided in steps, and each step has one reason to fail:
there is no catalog, there is no service, a name is taken, or there is no moment
(`generate_of_build`).  Names that pass the check are free of the names of model
classes, so building the files cannot fail after it (`files_of_checkNames`).
-/

namespace ContractClient.Client

variable {c : Client} {g : Catalog} {on : Clock}

/-! ## The check of names -/

theorem keys_subset_put (taken : Entries String) (key holder : String) :
    taken.keys ⊆ (taken.put key holder).keys := by
  rw [Entries.keys_put]
  split
  · exact List.Subset.refl _
  · exact List.subset_append_left _ _

/-- Names that pass the check were not taken. -/
theorem baseName_not_mem_of_checkNamesFrom {taken : Entries String} {ss : List Service}
    (h : c.checkNamesFrom taken ss = .ok ()) :
    ∀ s ∈ ss, baseName (c.clientName s) ∉ taken.keys := by
  induction ss generalizing taken with
  | nil => intro s hs; cases hs
  | cons s ss ih =>
      rw [checkNamesFrom] at h
      split at h
      next => cases h
      next => cases h
      next freeName freeBase =>
        intro r hr
        cases List.mem_cons.mp hr with
        | inl same => rw [same]; exact Entries.get?_eq_none_iff.mp freeBase
        | inr hr =>
            intro there
            exact ih h r hr (keys_subset_put _ _ _ (keys_subset_put _ _ _ there))

theorem nameCollision_of_checkNamesFrom {taken : Entries String} {ss : List Service} {f : Failure}
    (h : c.checkNamesFrom taken ss = .error f) : ∃ name holder, f = .nameCollision name holder := by
  induction ss generalizing taken with
  | nil => cases h
  | cons s ss ih =>
      rw [checkNamesFrom] at h
      split at h
      next => cases h; exact ⟨_, _, rfl⟩
      next => cases h; exact ⟨_, _, rfl⟩
      next => exact ih h

theorem mem_keys_classHolders {g : Catalog} {name : String} (h : name ∈ g.names) :
    name ∈ (classHolders g).keys := by
  rw [classHolders, Entries.keys_ofPairs, mem_distinct, List.map_map]
  exact List.mem_map.mpr ⟨name, h, rfl⟩

/-- After the check of names every file can be built. -/
theorem files_of_checkNames {ss : List Service} (nodup : g.names.Nodup)
    (h : c.checkNames g ss = .ok ()) (moment : Moment) :
    c.files g moment ss = .ok (c.fullFiles g moment ss) := by
  refine files_eq_ok_iff.mpr ⟨?_, rfl⟩
  intro s hs
  have free : baseName (c.clientName s) ∉ g.names := fun taken =>
    baseName_not_mem_of_checkNamesFrom h s hs (mem_keys_classHolders taken)
  rw [baseFileNames, List.nodup_append]
  refine ⟨nodup, by simp, ?_⟩
  intro name hname other hother same
  rw [List.mem_singleton.mp hother] at same
  exact free (same ▸ hname)

/-! ## The steps -/

/-- The name of the project of a client. -/
def projectName (c : Client) : String := if c.location = "" then defaultName else c.location

theorem generate_of_build_error {names : List String}
    (h : Catalog.build c.contract.classes = .error names) (on : Clock) :
    c.generate on = .error (.failure (.unrootedClasses names)) := by
  have unbuilt : c.catalog = .error (.unrootedClasses names) := by rw [catalog, h]; rfl
  rw [generate, ready, someServices, services, unbuilt]
  rfl

theorem someServices_of_build (h : Catalog.build c.contract.classes = .ok g) :
    c.someServices =
      if (g.services c.contract.services).isEmpty then .error .noServices
      else .ok (g.services c.contract.services) := by
  rw [someServices, services, catalog, h]
  rfl

/-- What comes of generating, if there is a catalog. -/
theorem generate_of_build (h : Catalog.build c.contract.classes = .ok g) (on : Clock) :
    c.generate on =
      if (g.services c.contract.services).isEmpty then .error (.failure .noServices)
      else match c.checkNames g (g.services c.contract.services), momentOf on with
        | .error f, _ => .error (.failure f)
        | .ok (), .error f => .error (.moment f)
        | .ok (), .ok moment =>
          .ok { name := c.projectName
                files := c.fullFiles g moment (g.services c.contract.services) } := by
  have built : c.catalog = .ok g := by rw [catalog, h]; rfl
  cases empty : (g.services c.contract.services).isEmpty with
  | true =>
      rw [generate, ready, someServices_of_build h, empty]
      rfl
  | false =>
      have steps : c.ready on =
          ((c.checkNames g (g.services c.contract.services)).mapError .failure >>= fun _ =>
            (momentOf on).mapError .moment >>= fun moment =>
              .ok (g, g.services c.contract.services, moment)) := by
        rw [ready, someServices_of_build h, built, empty]
        rfl
      rw [generate, steps]
      cases checked : c.checkNames g (g.services c.contract.services) with
      | error f => rfl
      | ok =>
          cases momentOf on with
          | error f => rfl
          | ok moment =>
              have made := files_of_checkNames (Catalog.nodup_names_of_build h) checked moment
              exact bind_eq_ok_iff.mpr ⟨_, rfl, bind_eq_ok_iff.mpr ⟨_, made, rfl⟩⟩

/-- The clock shows a moment that has a zone. -/
def Shows (on : Clock) (moment : Moment) : Prop :=
  on = .ok moment ∧ ∃ zoned, moment.zoned = .ok zoned

theorem stamp_of_zoned {moment zoned : Moment} (h : moment.zoned = .ok zoned) :
    zoned.stamp = moment.stamp := by
  rw [Moment.zoned] at h
  split at h
  · cases h; rfl
  next unzoned =>
    split at h
    · cases h
    · cases h
      rw [Moment.stamp, Moment.stamp, unzoned]
      rfl

theorem momentOf_eq_ok_iff {zoned : Moment} :
    momentOf on = .ok zoned ↔ ∃ moment, on = .ok moment ∧ moment.zoned = .ok zoned :=
  bind_eq_ok_iff

/-- Code is generated exactly if there is a catalog, a service and a moment, and if
no name is taken. -/
theorem generate_eq_ok_iff {p : Code.Project} :
    c.generate on = .ok p ↔ ∃ g moment, Catalog.build c.contract.classes = .ok g ∧
      g.services c.contract.services ≠ [] ∧
      c.checkNames g (g.services c.contract.services) = .ok () ∧ Shows on moment ∧
      p = { name := c.projectName
            files := c.fullFiles g moment (g.services c.contract.services) } := by
  constructor
  · intro h
    cases built : Catalog.build c.contract.classes with
    | error names => rw [generate_of_build_error built] at h; cases h
    | ok g =>
        rw [generate_of_build built] at h
        split at h
        · cases h
        next nonempty =>
          cases checked : c.checkNames g (g.services c.contract.services) with
          | error f => rw [checked] at h; cases h
          | ok =>
              cases now : momentOf on with
              | error f => rw [checked, now] at h; cases h
              | ok zoned =>
                  rw [checked, now] at h
                  cases h
                  obtain ⟨moment, shown, inZone⟩ := momentOf_eq_ok_iff.mp now
                  refine ⟨g, moment, rfl, fun none => nonempty (none ▸ rfl), checked,
                    ⟨shown, zoned, inZone⟩, ?_⟩
                  rw [fullFiles_of_stamp (stamp_of_zoned inZone)]
  · rintro ⟨g, moment, built, nonempty, checked, ⟨shown, zoned, inZone⟩, rfl⟩
    have now : momentOf on = .ok zoned := momentOf_eq_ok_iff.mpr ⟨moment, shown, inZone⟩
    rw [generate_of_build built, checked, now, if_neg (by simpa using nonempty),
      ← fullFiles_of_stamp (stamp_of_zoned inZone)]

end ContractClient.Client
