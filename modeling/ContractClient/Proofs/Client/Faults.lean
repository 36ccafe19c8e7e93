import ContractClient.Proofs.Client.Delivery

/-!
# Why no client is written

`Refused` lists the reasons for which no code is generated, in the order in which
they are looked at.  There are no others (`generate_eq_error_iff`): no file declares a
class twice, no table names a field that is not there, and no group of operations is
empty.

Code that was generated may still not be written.  Then a directory cannot be created
or a file cannot be written, and the user is told its path
(`faults_of_generate_and_deliver`).  There is one exception: on an output directory
with the null character the system is not asked, so there is no fault of the system to
tell.
-/

namespace ContractClient.Client

/-! ## Generating -/

/-- The reasons for which no code is generated, each after those before it did not
hold. -/
inductive Refused (c : Client) (on : Clock) : GenerationFault → Prop
  /-- The classes cannot be put in order. -/
  | unrooted {names} (unbuilt : Catalog.build c.contract.classes = .error names) :
      Refused c on (.failure (.unrootedClasses names))
  /-- No service has a name. -/
  | noServices {g} (built : Catalog.build c.contract.classes = .ok g)
      (unnamed : ∀ d ∈ c.contract.services, Identifier.normalize d.name = "") :
      Refused c on (.failure .noServices)
  /-- A name of a client is taken. -/
  | nameCollision {g name holder} (built : Catalog.build c.contract.classes = .ok g)
      (named : ∃ d ∈ c.contract.services, Identifier.normalize d.name ≠ "")
      (taken : c.checkNames g (g.services c.contract.services) =
        .error (.nameCollision name holder)) :
      Refused c on (.failure (.nameCollision name holder))
  /-- There is no moment, or it has no zone. -/
  | noMoment {g f} (built : Catalog.build c.contract.classes = .ok g)
      (named : ∃ d ∈ c.contract.services, Identifier.normalize d.name ≠ "")
      (free : c.checkNames g (g.services c.contract.services) = .ok ())
      (timeless : momentOf on = .error f) : Refused c on (.moment f)

variable {c : Client} {on : Clock}

theorem services_isEmpty_iff {g : Catalog} :
    (g.services c.contract.services).isEmpty = true ↔
      ∀ d ∈ c.contract.services, Identifier.normalize d.name = "" := by
  rw [List.isEmpty_iff, Catalog.services_eq_nil_iff]

theorem services_not_isEmpty_iff {g : Catalog} :
    ¬ (g.services c.contract.services).isEmpty = true ↔
      ∃ d ∈ c.contract.services, Identifier.normalize d.name ≠ "" := by
  rw [services_isEmpty_iff]
  simp

/-- No code is generated for the listed reasons, and for no other. -/
theorem generate_eq_error_iff {fault : GenerationFault} :
    c.generate on = .error fault ↔ Refused c on fault := by
  constructor
  · intro h
    cases built : Catalog.build c.contract.classes with
    | error names =>
        rw [generate_of_build_error built] at h
        cases h
        exact .unrooted built
    | ok g =>
        rw [generate_of_build built] at h
        split at h
        next empty => cases h; exact .noServices built (services_isEmpty_iff.mp empty)
        next nonempty =>
          have named := services_not_isEmpty_iff.mp nonempty
          cases checked : c.checkNames g (g.services c.contract.services) with
          | error f =>
              rw [checked] at h
              cases h
              obtain ⟨name, holder, rfl⟩ := nameCollision_of_checkNamesFrom checked
              exact .nameCollision built named checked
          | ok =>
              cases now : momentOf on with
              | error f => rw [checked, now] at h; cases h; exact .noMoment built named checked now
              | ok moment => rw [checked, now] at h; cases h
  · intro refused
    cases refused with
    | unrooted unbuilt => exact generate_of_build_error unbuilt on
    | noServices built unnamed =>
        rw [generate_of_build built, if_pos (services_isEmpty_iff.mpr unnamed)]
    | nameCollision built named taken =>
        rw [generate_of_build built, if_neg (services_not_isEmpty_iff.mpr named), taken]
    | noMoment built named free timeless =>
        rw [generate_of_build built, if_neg (services_not_isEmpty_iff.mpr named), free, timeless]

/-! ## Writing -/

section Writing

variable {t : FileTree} {directory : String}

theorem outcome_deliver_of_error {fault : GenerationFault} (h : c.generate on = .error fault) :
    (c.deliver t directory on).outcome = .error (.generation fault) := by
  rw [deliver, h]

/-- A project starts with a base file, which is replaced if it is there.  So something
is written, or there is a fault. -/
theorem outcome_deliver_of_ok {p : Code.Project} (h : c.generate on = .ok p) :
    (c.deliver t directory on).outcome =
      (Output.writeAll t directory p.files).outcome.mapError .write := by
  obtain ⟨g, moment, _, nonempty, _, _, rfl⟩ := generate_eq_ok_iff.mp h
  obtain ⟨s, ss, services⟩ := List.exists_cons_of_ne_nil nonempty
  have first : c.fullFiles g moment (g.services c.contract.services) =
      c.fullBaseFile g s moment :: c.fullClientFile s moment :: c.fullFiles g moment ss := by
    rw [services]
    rfl
  rw [deliver, h]
  exact congrArg (Except.mapError DeliveryFault.write)
    (Output.outcome_writeProject first rfl t directory)

theorem null_not_mem_append {name ending : String} (valid : Identifier.isIdentifier name = true)
    (h : '\x00' ∉ ending.toList) : '\x00' ∉ (name ++ ending).toList := by
  rw [String.toList_append, List.mem_append]
  exact fun null => null.elim (Identifier.not_mem_of_isIdentifier valid (by decide)) h

/-- Only the output directory can bring the null character into the path of a file. -/
theorem null_mem_directory (reached : Reached c) {g : Catalog} {moment : Moment}
    {f : Code.File} (member : f ∈ c.fullFiles g moment (g.services c.contract.services))
    (null : '\x00' ∈ (Output.path directory f.name).toList) : '\x00' ∈ directory.toList := by
  obtain ⟨s, hs, hf⟩ := List.mem_flatMap.mp member
  have valid := isIdentifier_clientName reached hs
  simp only [List.mem_cons, List.not_mem_nil, or_false] at hf
  rcases hf with rfl | rfl
  · rw [fullBaseFile, Output.path_baseFile valid,
      Path.mem_join_iff (Output.isName_baseFile valid) (by decide),
      Path.mem_join_iff Output.isName_generated (by decide)] at null
    have inPath := null.resolve_right (null_not_mem_append valid (by decide))
    exact inPath.resolve_right (by decide)
  · rw [fullClientFile, Output.path_clientFile valid,
      Path.mem_join_iff (Output.isName_clientFile valid) (by decide)] at null
    exact null.resolve_right (null_not_mem_append valid (by decide))

theorem isReported_or_null_of_deliver_error (reached : Reached c) {fault : Output.WriteFault}
    (h : (c.deliver t directory on).outcome = .error (.write fault)) :
    fault.IsReported ∨ fault.failure? = none ∧ '\x00' ∈ directory.toList := by
  cases generated : c.generate on with
  | error early => rw [outcome_deliver_of_error generated] at h; cases h
  | ok p =>
      rw [outcome_deliver_of_ok generated] at h
      obtain ⟨w, failed, same⟩ := mapError_eq_error_iff.mp h
      cases same
      obtain ⟨g, moment, _, _, _, _, rfl⟩ := generate_eq_ok_iff.mp generated
      obtain ⟨f, member, u, one⟩ := Output.exists_of_writeAll_error failed
      refine (Output.isReported_or_null_of_writeOne_error one).imp_right ?_
      exact fun ⟨untold, null⟩ => ⟨untold, null_mem_directory reached member null⟩

/-- Into a directory with the null character nothing is written. -/
theorem deliver_error_of_null (reached : Reached c) {p : Code.Project}
    (generated : c.generate on = .ok p) (null : '\x00' ∈ directory.toList) :
    ∃ place fault,
      (c.deliver t directory on).outcome = .error (.write (.directory place fault)) := by
  rw [outcome_deliver_of_ok generated]
  obtain ⟨g, moment, _, nonempty, _, _, rfl⟩ := generate_eq_ok_iff.mp generated
  obtain ⟨s, ss, services⟩ := List.exists_cons_of_ne_nil nonempty
  have valid := isIdentifier_clientName reached (services ▸ List.mem_cons_self : s ∈ _)
  -- The first file is a base file, and its directory already has the null character.
  have inDirectory : '\x00' ∈ (Output.directoryOf
      (Output.path directory (c.fullBaseFile g s moment).name)).toList := by
    rw [fullBaseFile, Output.path_baseFile valid]
    refine Output.mem_directoryOf_join (Output.isName_baseFile valid) (by decide) ?_
      (null_not_mem_append valid (by decide))
    exact (Path.mem_join_iff Output.isName_generated (by decide) directory).mpr (.inl null)
  obtain ⟨place, fault, failed⟩ := Output.writeOne_of_null (t := t) inDirectory
  refine ⟨place, fault, mapError_eq_error_iff.mpr ⟨_, ?_, rfl⟩⟩
  rw [services]
  exact (Output.writeAll_cons_of_error failed).1

end Writing

/-- Code is not generated for the listed reasons only, and then no file changes.  No
group of operations is empty.  What is generated may not be written, and then the
user is told of a directory or of a file with its path.  The exception is an output
directory with the null character, into which nothing is written. -/
theorem faults_of_generate_and_deliver (reached : Reached c) (on : Clock) (t : FileTree)
    (directory : String) :
    (∀ fault, c.generate on = .error fault ↔ Refused c on fault) ∧
    (∀ g, Catalog.build c.contract.classes = .ok g → ∀ s ∈ g.services c.contract.services,
      s.groups.map Overload.name = distinct (s.operations.map Operation.name)) ∧
    (∀ fault, (c.deliver t directory on).outcome = .error (.generation fault) ↔
      Refused c on fault) ∧
    (∀ fault, Refused c on fault → (c.deliver t directory on).files = t) ∧
    (∀ fault, (c.deliver t directory on).outcome = .error (.write fault) →
      fault.IsReported ∨ fault.failure? = none ∧ '\x00' ∈ directory.toList) ∧
    ('\x00' ∈ directory.toList → (∀ fault, ¬ Refused c on fault) → ∃ place fault,
      (c.deliver t directory on).outcome = .error (.write (.directory place fault))) := by
  refine ⟨fun _ => generate_eq_error_iff, fun g _ s hs => Catalog.names_of_groups hs, ?_, ?_,
    fun _ => isReported_or_null_of_deliver_error reached, ?_⟩
  · intro fault
    rw [← generate_eq_error_iff]
    constructor
    · intro h
      cases generated : c.generate on with
      | error early => rw [outcome_deliver_of_error generated] at h; cases h; rfl
      | ok p =>
          rw [outcome_deliver_of_ok generated] at h
          obtain ⟨w, _, other⟩ := mapError_eq_error_iff.mp h
          cases other
    · exact outcome_deliver_of_error
  · intro fault refused
    exact files_deliver_of_error (generate_eq_error_iff.mpr refused)
  · intro null allowed
    cases generated : c.generate on with
    | error fault => exact absurd (generate_eq_error_iff.mp generated) (allowed fault)
    | ok p => exact deliver_error_of_null reached generated null

/-- The weather client is not written into a directory with the null character, and
the fault is none that the user is told as one of a directory. -/
theorem faults_of_null_directory :
    Reached weather ∧ ∃ place fault,
      (weather.deliver weatherFiles "a\x00b" (.ok { date := ⟨2024, 1, 2⟩ })).outcome =
          .error (.write (.directory place fault)) ∧
        Output.WriteFault.failure? (.directory place fault) = none := by
  obtain ⟨refused, -, -, -, -, null⟩ := faults_of_generate_and_deliver reached_weather
    (.ok { date := ⟨2024, 1, 2⟩ }) weatherFiles "a\x00b"
  have generated : (weather.generate (.ok { date := ⟨2024, 1, 2⟩ })).isOk = true := by
    decide +kernel
  have allowed : ∀ fault, ¬ Refused weather (.ok { date := ⟨2024, 1, 2⟩ }) fault := by
    intro fault because
    rw [(refused fault).mpr because] at generated
    cases generated
  obtain ⟨place, fault, failed⟩ := null (by decide) allowed
  have untold : (match (weather.deliver weatherFiles "a\x00b"
      (.ok { date := ⟨2024, 1, 2⟩ })).outcome with
    | .error (.write w) => w.failure?.isNone
    | _ => false) = true := by decide +kernel
  rw [failed] at untold
  exact ⟨reached_weather, place, fault, failed, Option.isNone_iff_eq_none.mp untold⟩

end ContractClient.Client
