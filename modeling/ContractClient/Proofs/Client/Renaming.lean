import ContractClient.Proofs.Client.Collisions
import ContractClient.Proofs.Client.Literals

/-!
# Renaming a service

A name for a client is chosen under a key, and the key is looked up as the raw name of a
service and as its name.  So one key may be meant for two services, the raw name of one and
the name of the other.  This does not happen.  A name of a service is its own normal form, so
both services would have the normal form of the key as their name, and the names of services
are distinct (`length_renamed_le_one`).

The files of a client depend on its name only.  Those of all other services stay as they
were, and the class map of the renamed one stays as well, since it holds the names of the
contract (`rename_touches_one_service`).
-/

namespace ContractClient.Client

open Code

variable {c d : Client} {key chosen : String} {g : Catalog} {s : Service} {decl : ServiceDecl}

/-! ## The service of a key -/

/-- Renaming adds an alias and changes nothing else. -/
theorem eq_of_rename? (h : c.rename? key chosen = some d) :
    d = { c with aliases := c.aliases.put key chosen } := by
  rw [rename?] at h
  split at h
  next => cases h; rfl
  next => cases h

theorem clientName_of_ne (h : c.rename? key chosen = some d) (raw : s.rawName ≠ key)
    (name : s.name ≠ key) : d.clientName s = c.clientName s := by
  rw [eq_of_rename? h, clientName, clientName, Entries.get?_put, Entries.get?_put,
    if_neg raw.symm, if_neg name.symm]

theorem name_of_clientName_ne (h : c.rename? key chosen = some d)
    (made : g.service? decl = some s) (changed : d.clientName s ≠ c.clientName s) :
    s.name = Identifier.normalize key := by
  obtain ⟨name, named⟩ := Catalog.name_of_service? made
  by_cases raw : s.rawName = key
  · rw [name, ← Catalog.rawName_of_service? made, raw]
  · have own : s.name = key := by
      by_contra other
      exact changed (clientName_of_ne h raw other)
    have legal : Identifier.IsLegal s.name := by
      rw [name] at named ⊢
      exact Identifier.isLegal_normalize named
    rw [← own, Identifier.normalize_of_isLegal legal]

/-- At most one service gets another name. -/
theorem length_renamed_le_one (h : c.rename? key chosen = some d) (g : Catalog)
    (decls : List ServiceDecl) :
    ((g.services decls).filter fun s => d.clientName s ≠ c.clientName s).length ≤ 1 := by
  have nodup : (((g.services decls).filter fun s =>
      d.clientName s ≠ c.clientName s).map Service.name).Nodup :=
    (List.filter_sublist.map Service.name).nodup (g.nodup_names_services decls)
  have same : ∀ name ∈ ((g.services decls).filter fun s =>
      d.clientName s ≠ c.clientName s).map Service.name, name = Identifier.normalize key := by
    intro name hname
    obtain ⟨s, hs, rfl⟩ := List.mem_map.mp hname
    obtain ⟨hs, changed⟩ := List.mem_filter.mp hs
    obtain ⟨decl, -, made⟩ := Catalog.mem_services hs
    exact name_of_clientName_ne h made (of_decide_eq_true changed)
  rw [List.eq_replicate_of_mem same, List.nodup_replicate, List.length_map] at nodup
  exact nodup

/-! ## Files -/

theorem file?_of_mem {p : Project} (nodup : (p.files.map File.name).Nodup) {f : File}
    (hf : f ∈ p.files) : p.file? f.name = some f :=
  (Catalog.find?_key_eq_some_iff File.name nodup).mpr ⟨hf, rfl⟩

/-- The files of a service are found under the name of its client. -/
theorem file?_of_generate {moment : Moment} {p : Project} (reached : Reached c)
    (built : Catalog.build c.contract.classes = .ok g) (h : c.generate (.ok moment) = .ok p)
    (hs : s ∈ g.services c.contract.services) :
    p.file? (Output.baseFile (c.clientName s)) = some (c.fullBaseFile g s moment) ∧
      p.file? (Output.clientFile (c.clientName s)) = some (c.fullClientFile s moment) := by
  obtain ⟨-, nodup⟩ := names_of_generate reached built h
  obtain ⟨g', moment', again, -, -, ⟨now, -⟩, rfl⟩ := generate_eq_ok_iff.mp h
  cases built.symm.trans again
  cases now
  constructor
  · exact file?_of_mem nodup (List.mem_flatMap.mpr ⟨s, hs, List.mem_cons_self⟩)
  · exact file?_of_mem nodup
      (List.mem_flatMap.mpr ⟨s, hs, List.mem_cons_of_mem _ (List.mem_singleton_self _)⟩)

theorem fullBaseFile_of_rename? (h : c.rename? key chosen = some d)
    (same : d.clientName s = c.clientName s) (g : Catalog) (on : Moment) :
    d.fullBaseFile g s on = c.fullBaseFile g s on := by
  have location : d.location = c.location := by rw [eq_of_rename? h]; rfl
  have engine : d.engine = c.engine := by rw [eq_of_rename? h]
  rw [fullBaseFile, fullBaseFile, baseClass, baseClass, same, location, engine]

theorem fullClientFile_of_rename? (same : d.clientName s = c.clientName s) (on : Moment) :
    d.fullClientFile s on = c.fullClientFile s on := by
  rw [fullClientFile, fullClientFile, same]

/-- However the services are named, giving a name changes that of at most one.  If code is
generated before and after, each service has its two files both times.  The files of a service
that keeps its name stay as they were.  The tables in the base file of each service stay, and
the last one is its class map. -/
theorem rename_touches_one_service {c d : Client} {key chosen : String} {g : Catalog}
    (built : Catalog.build c.contract.classes = .ok g) (h : c.rename? key chosen = some d) :
    ((g.services c.contract.services).filter fun s =>
      d.clientName s ≠ c.clientName s).length ≤ 1 ∧
    (Reached c → ∀ on p q, c.generate on = .ok p → d.generate on = .ok q →
      ∀ s ∈ g.services c.contract.services, ∃ base base' own own',
        p.file? (Output.baseFile (c.clientName s)) = some base ∧
        q.file? (Output.baseFile (d.clientName s)) = some base' ∧
        p.file? (Output.clientFile (c.clientName s)) = some own ∧
        q.file? (Output.clientFile (d.clientName s)) = some own' ∧
        (d.clientName s = c.clientName s → base' = base ∧ own' = own) ∧
        (textsOf .block base'.pieces).filterMap readTable =
          (textsOf .block base.pieces).filterMap readTable ∧
        ((textsOf .block base.pieces).filterMap readTable).getLast? =
          some ("classmap", s.classMapPairs)) := by
  refine ⟨length_renamed_le_one h g c.contract.services, ?_⟩
  intro reached on p q before after s hs
  have contract : d.contract = c.contract := by rw [eq_of_rename? h]
  obtain ⟨-, moment, -, -, -, ⟨rfl, -⟩, -⟩ := generate_eq_ok_iff.mp before
  obtain ⟨decl, -, made⟩ := Catalog.mem_services hs
  have old := file?_of_generate reached built before hs
  have new := file?_of_generate (.rename reached h) (contract ▸ built) after (contract ▸ hs)
  refine ⟨_, _, _, _, old.1, new.1, old.2, new.2, ?_, ?_, ?_⟩
  · intro same
    exact ⟨fullBaseFile_of_rename? h same g moment, fullClientFile_of_rename? same moment⟩
  · rw [tables_fullBaseFile built made, tables_fullBaseFile built made]
  · rw [tables_fullBaseFile built made, List.getLast?_concat]

/-! ### Witness -/

/-- A client of a contract with a service whose raw name is no identifier. -/
def stations : Client :=
  { contract :=
      { classes := [{ name := "Report" }]
        services := [{ name := "Weather" },
          { name := "A-b", functions :=
            [{ name := "get", returns := [{ name := "r", type := "Report" }] }] }] }
    engine := { module := "engines", cls := "Engine" } }

/-- The client with another name for the second service. -/
def renamedStations : Client := { stations with aliases := [("Ab", "Cd")] }

theorem rename?_stations : stations.rename? "Ab" "Cd" = some renamedStations := by
  rw [rename?, if_pos (by decide +kernel)]
  rfl

/-- The first service keeps its files.  The second has others, with the same class map. -/
theorem rename_of_stations :
    ∃ p q weather ab cd pairs, stations.generate (.ok { date := ⟨2024, 1, 2⟩ }) = .ok p ∧
      renamedStations.generate (.ok { date := ⟨2024, 1, 2⟩ }) = .ok q ∧
      p.file? "generated/WeatherBase.py" = some weather ∧
      q.file? "generated/WeatherBase.py" = some weather ∧
      p.file? "generated/AbBase.py" = some ab ∧ q.file? "generated/CdBase.py" = some cd ∧
      ((textsOf .block ab.pieces).filterMap readTable).getLast? = some ("classmap", pairs) ∧
      ((textsOf .block cd.pieces).filterMap readTable).getLast? = some ("classmap", pairs) := by
  have facts : (Catalog.build stations.contract.classes).toOption.any (fun g => decide
      ((g.services stations.contract.services).map (fun s =>
        (stations.clientName s, renamedStations.clientName s)) =
      [("Weather", "Weather"), ("Ab", "Cd")])) = true := by
    decide +kernel
  have generated : (stations.generate (.ok { date := ⟨2024, 1, 2⟩ })).isOk = true ∧
      (renamedStations.generate (.ok { date := ⟨2024, 1, 2⟩ })).isOk = true := by
    decide +kernel
  cases built : Catalog.build stations.contract.classes with
  | error names => rw [built] at facts; cases facts
  | ok g =>
      rw [built, Except.toOption, Option.any_some] at facts
      obtain ⟨first, rest, listed, firstNames, restNames⟩ :=
        List.map_eq_cons_iff.mp (of_decide_eq_true facts)
      obtain ⟨second, others, rfl, secondNames, -⟩ := List.map_eq_cons_iff.mp restNames
      obtain ⟨firstName, firstName'⟩ := Prod.mk.inj firstNames
      obtain ⟨secondName, secondName'⟩ := Prod.mk.inj secondNames
      cases before : stations.generate (.ok { date := ⟨2024, 1, 2⟩ }) with
      | error fault => rw [before] at generated; cases generated.1
      | ok p =>
          cases after : renamedStations.generate (.ok { date := ⟨2024, 1, 2⟩ }) with
          | error fault => rw [after] at generated; cases generated.2
          | ok q =>
              have all := (rename_touches_one_service built rename?_stations).2 (.fresh _ _) _ p q
                before after
              obtain ⟨weather, weather', own, own', found, found', -, -, kept, -, -⟩ :=
                all first (by simp [listed])
              obtain ⟨ab, cd, -, -, foundAb, foundCd, -, -, -, tables, last⟩ :=
                all second (by simp [listed])
              rw [(kept (firstName'.trans firstName.symm)).1, firstName'] at found'
              rw [firstName] at found
              rw [secondName] at foundAb
              rw [secondName'] at foundCd
              exact ⟨p, q, weather, ab, cd, second.classMapPairs, rfl, rfl, found, found', foundAb,
                foundCd, last, tables ▸ last⟩

end ContractClient.Client
