import ContractClient.Proofs.Client.Generate
import ContractClient.Proofs.Client.Names
import ContractClient.Proofs.Output

/-!
# Files of the user survive

Writing the files of clients again and again, for whatever contracts, names and
moments, replaces base files only.  Every other file keeps its content, also if a
call fails midway (`extends_deliver`).  A client file is never where a base file is,
so once it is there it stays as it is (`user_files_survive`).
-/

namespace ContractClient.Client

open FileTree (Extends)

/-- The names of the clients of a contract. -/
def clientNames (c : Client) : List String :=
  match c.services with
  | .ok ss => ss.map c.clientName
  | .error _ => []

/-- The files after calls that write clients into one directory. -/
def filesAfter (directory : String) (t : FileTree) (calls : List (Client × Clock)) : FileTree :=
  calls.foldl (fun t call => (call.1.deliver t directory call.2).files) t

variable {c : Client} {on : Clock} {t : FileTree} {directory : String}

/-! ## One call -/

theorem clientNames_of_build {g : Catalog} (h : Catalog.build c.contract.classes = .ok g) :
    c.clientNames = (g.services c.contract.services).map c.clientName := by
  rw [clientNames, services, catalog, h]
  rfl

/-- The files of a project that are replaced are base files. -/
theorem place_of_isReplaced (reached : Reached c) {g : Catalog} {moment : Moment}
    {f : Code.File} {current p : Place} (built : Catalog.build c.contract.classes = .ok g)
    (member : f ∈ c.fullFiles g moment (g.services c.contract.services))
    (replaced : Output.IsReplaced current directory f p) :
    ∃ name ∈ c.clientNames, p = Output.basePlace current directory name := by
  obtain ⟨s, hs, hf⟩ := List.mem_flatMap.mp member
  obtain ⟨overwrite, place⟩ := replaced
  simp only [List.mem_cons, List.not_mem_nil, or_false] at hf
  cases hf with
  | inl base =>
      subst base
      refine ⟨c.clientName s, ?_, ?_⟩
      · rw [clientNames_of_build built]
        exact List.mem_map_of_mem hs
      · rw [place]
        exact Output.place_baseFile (isIdentifier_clientName reached hs) current directory
  | inr own => subst own; cases overwrite

theorem files_deliver_of_error {fault : GenerationFault} (h : c.generate on = .error fault) :
    (c.deliver t directory on).files = t := by
  rw [deliver, h]

theorem files_deliver_of_ok {p : Code.Project} (h : c.generate on = .ok p) :
    (c.deliver t directory on).files = (Output.writeAll t directory p.files).files := by
  rw [deliver, h]
  exact Output.files_writeProject t directory p

/-- A call changes no file but the base files of its clients. -/
theorem extends_deliver (reached : Reached c) (t : FileTree) (directory : String) (on : Clock) :
    Extends (fun p => ∃ name ∈ c.clientNames, p = Output.basePlace t.current directory name) t
      (c.deliver t directory on).files := by
  cases generated : c.generate on with
  | error fault => rw [files_deliver_of_error generated]; exact .refl _ t
  | ok p =>
      obtain ⟨g, moment, built, _, _, _, rfl⟩ := generate_eq_ok_iff.mp generated
      rw [files_deliver_of_ok generated]
      refine (Output.extends_writeAll t directory _).mono ?_
      rintro p ⟨f, member, replaced⟩
      exact place_of_isReplaced reached built member replaced

/-! ## Calls one after the other -/

theorem filesAfter_append (directory : String) (t : FileTree)
    (earlier later : List (Client × Clock)) :
    filesAfter directory t (earlier ++ later) =
      filesAfter directory (filesAfter directory t earlier) later :=
  List.foldl_append

theorem extends_filesAfter {calls : List (Client × Clock)}
    (reached : ∀ call ∈ calls, Reached call.1) (directory : String) (t : FileTree) :
    Extends (fun p => ∃ call ∈ calls, ∃ name ∈ call.1.clientNames,
      p = Output.basePlace t.current directory name) t (filesAfter directory t calls) := by
  induction calls generalizing t with
  | nil => exact .refl _ t
  | cons call calls ih =>
      obtain ⟨first, others⟩ := List.forall_mem_cons.mp reached
      have step := extends_deliver first t directory call.2
      refine (step.mono ?_).trans ((ih others _).mono ?_)
      · rintro p ⟨name, hname, place⟩
        exact ⟨call, List.mem_cons_self, name, hname, place⟩
      · rintro p ⟨later, hlater, name, hname, place⟩
        -- No call changes the current directory, so the places of base files stay the same.
        rw [step.current] at place
        exact ⟨later, List.mem_cons_of_mem call hlater, name, hname, place⟩

/-- Of the files that are there before a call into a directory, only the base files
of the clients of that call may change.  A client file, once it is there, is kept by
all later calls. -/
theorem user_files_survive (directory : String) (t : FileTree) (calls : List (Client × Clock))
    (reached : ∀ call ∈ calls, Reached call.1) :
    (∀ earlier c on later, calls = earlier ++ (c, on) :: later →
      ∀ p content, (filesAfter directory t earlier).content? p = some content →
        (∀ name ∈ c.clientNames, p ≠ Output.basePlace t.current directory name) →
        (filesAfter directory t (earlier ++ [(c, on)])).content? p = some content) ∧
    (∀ earlier later, calls = earlier ++ later →
      ∀ name content, Identifier.isIdentifier name = true →
        (filesAfter directory t earlier).read
            (Output.path directory (Output.clientFile name)) = .ok content →
        (filesAfter directory t calls).read
            (Output.path directory (Output.clientFile name)) = .ok content) := by
  constructor
  · rintro earlier c on later rfl p content there noBase
    have before : ∀ call ∈ earlier, Reached call.1 := fun call hc =>
      reached call (List.mem_append_left _ hc)
    have current := (extends_filesAfter before directory t).current
    have step := extends_deliver (reached (c, on) (by simp)) (filesAfter directory t earlier)
      directory on
    rw [filesAfter_append]
    apply step.content? _ there
    rw [current]
    rintro ⟨name, hname, place⟩
    exact noBase name hname place
  · rintro earlier later rfl name content valid there
    have after : ∀ call ∈ later, Reached call.1 := fun call hc =>
      reached call (List.mem_append_right _ hc)
    have rest := extends_filesAfter after directory (filesAfter directory t earlier)
    rw [filesAfter_append]
    apply rest.read _ there
    -- A client file is one name below the output directory, and a base file two.
    rw [Output.place_clientFile valid]
    rintro ⟨_, _, base, _, place⟩
    exact Output.clientPlace_ne_basePlace _ _ _ _ place

/-- A client of one service, to which another name was given. -/
def weather : Client :=
  { contract := { services := [{ name := "Weather" }] }
    engine := { module := "engines", cls := "Engine" }
    aliases := [("Weather", "Forecast")] }

theorem reached_weather : Reached weather :=
  .rename (.fresh { services := [{ name := "Weather" }] } { module := "engines", cls := "Engine" })
    (if_pos (by decide +kernel) : _ = some weather)

/-- An output directory in which the user has changed the client file. -/
def weatherFiles : FileTree :=
  { nodes := [(["work"], .directory), (["work", "out"], .directory),
      (["work", "out", "Forecast.py"], .file "# mine".toUTF8)]
    current := ["work"] }

/-- A call, and one that fails for want of a moment. -/
def weatherCalls : List (Client × Clock) :=
  [(weather, .ok { date := ⟨2024, 1, 2⟩ }), (weather, .error .beyond)]

/-- The client file of the user is kept by the first call and by both. -/
theorem user_files_survive_weather :
    weatherFiles.content? ["work", "out", "Forecast.py"] = some "# mine".toUTF8 ∧
      (filesAfter "out" weatherFiles (weatherCalls.take 1)).content?
          ["work", "out", "Forecast.py"] = some "# mine".toUTF8 ∧
      (filesAfter "out" weatherFiles weatherCalls).read "out/Forecast.py" =
          .ok "# mine".toUTF8 := by
  have reached : ∀ call ∈ weatherCalls, Reached call.1 := by simp [weatherCalls, reached_weather]
  obtain ⟨oneCall, clientFiles⟩ := user_files_survive "out" weatherFiles weatherCalls reached
  have there : weatherFiles.content? ["work", "out", "Forecast.py"] = some "# mine".toUTF8 := rfl
  refine ⟨there, ?_, ?_⟩
  · exact oneCall [] weather _ _ rfl _ _ there (by decide +kernel)
  · exact clientFiles [] _ rfl "Forecast" _ (by decide +kernel) rfl

end ContractClient.Client
