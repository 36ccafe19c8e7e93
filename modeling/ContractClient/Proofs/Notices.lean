import ContractClient.Emission.ModelClass
import ContractClient.Proofs.Catalog.Order
import ContractClient.Proofs.Service.Build

/-!
# Nothing is dropped without a notice

A class, a service or an operation without identifier characters is left out.  A class or a
service takes the place of an earlier one of its name, and a field that of an earlier field
in the generated class.  Each of these is a *loss*, and the user is warned of it
(`Notice.loss?`).

The accounts below say that the warnings are exact: what is declared is what is left and what
was warned of (`losses_are_told`).  Classes and services are registered by runs of one
shape.  A run goes over declarations with the names it has seen, and one step warns of a
declaration without a name, or of a name that was seen (`Warns`).  What one step does to the
account carries over to the whole run (`Warns.length_eq`).
-/

namespace ContractClient

/-! ## Losses -/

/-- The ways in which something of a contract is lost. -/
inductive Loss where
  | unnamedClass
  | classReplaced
  | unnamedService
  | serviceReplaced
  | unnamedOperation
  | repeatedField
  deriving DecidableEq

/-- The loss that a notice tells of. -/
def Notice.loss? : Notice → Option Loss
  | unnamedClass _ => some .unnamedClass
  | classReplaced .. => some .classReplaced
  | unnamedService _ => some .unnamedService
  | serviceReplaced .. => some .serviceReplaced
  | unnamedOperation _ => some .unnamedOperation
  | repeatedField .. => some .repeatedField
  | _ => none

/-- A notice that tells of a loss is a warning. -/
theorem Notice.level_of_loss? {notice : Notice} {loss : Loss} (h : notice.loss? = some loss) :
    notice.level = .warning := by
  cases notice <;> cases h <;> rfl

/-- How often notices tell of a loss. -/
def losses (loss : Loss) (notices : List Notice) : Nat :=
  notices.countP fun notice => notice.loss? = some loss

section Losses

variable (loss : Loss) (notice : Notice) (notices notices' : List Notice)

@[simp]
theorem losses_nil : losses loss [] = 0 := rfl

@[simp]
theorem losses_append :
    losses loss (notices ++ notices') = losses loss notices + losses loss notices' :=
  List.countP_append

@[simp]
theorem losses_cons :
    losses loss (notice :: notices) =
      losses loss notices + if notice.loss? = some loss then 1 else 0 := by
  simp [losses, List.countP_cons]

end Losses

/-- Naming the fields of entries loses nothing. -/
@[simp]
theorem Field.losses_notices (loss : Loss) (classNames : List String) (entries : List Entry) :
    losses loss (notices classNames entries) = 0 := by
  rw [losses, List.countP_eq_zero]
  intro notice listed
  obtain ⟨part, hpart, hnotice⟩ := List.mem_flatten.mp listed
  obtain ⟨position, bound, rfl⟩ := List.mem_mapIdx.mp hpart
  by_cases unnamed : wantedName classNames entries[position] = ""
  · rw [if_pos unnamed, List.mem_singleton] at hnotice
    simp [hnotice, Notice.loss?]
  · rw [if_neg unnamed] at hnotice
    cases hnotice

/-! ## Runs that warn -/

/-- How many names are new, apart from those seen. -/
def newNames (seen names : List String) : Nat := ((distinct names).filter (· ∉ seen)).length

/-- A name that was not seen is new, and it is seen from then on. -/
theorem newNames_cons (seen : List String) (name : String) (names : List String) :
    newNames seen (name :: names) =
      newNames (name :: seen) names + if name ∈ seen then 0 else 1 := by
  have rest : ((distinct names).filter (· ≠ name)).filter (· ∉ seen) =
      (distinct names).filter (· ∉ name :: seen) := by
    rw [List.filter_filter]
    apply List.filter_congr
    intro other _
    simp [Bool.and_comm]
  rw [newNames, newNames, distinct, List.filter_cons, rest]
  by_cases known : name ∈ seen
  · simp [known]
  · simp [known]

theorem newNames_nil (names : List String) : newNames [] names = (distinct names).length := by
  simp [newNames]

variable {α : Type} {name : α → String} {unnamed repeated : Loss}
  {run : List String → List α → List Notice}

/-- The names of items that have one. -/
def givenNames (name : α → String) (xs : List α) : List String := (xs.map name).filter (· ≠ "")

theorem givenNames_cons_of_empty (name : α → String) {x : α} (h : name x = "") (xs : List α) :
    givenNames name (x :: xs) = givenNames name xs := by
  simp [givenNames, h]

theorem givenNames_cons_of_named (name : α → String) {x : α} (h : name x ≠ "") (xs : List α) :
    givenNames name (x :: xs) = name x :: givenNames name xs := by
  simp [givenNames, h]

/-- A run over items, with the names seen before, that warns in each step of an item without
a name, or of a name that was seen. -/
structure Warns (name : α → String) (unnamed repeated : Loss)
    (run : List String → List α → List Notice) : Prop where
  nil : ∀ seen, run seen [] = []
  skip : ∀ seen x xs, name x = "" →
    losses unnamed (run seen (x :: xs)) = losses unnamed (run seen xs) + 1 ∧
      losses repeated (run seen (x :: xs)) = losses repeated (run seen xs)
  step : ∀ seen x xs, name x ≠ "" →
    losses unnamed (run seen (x :: xs)) = losses unnamed (run (name x :: seen) xs) ∧
      losses repeated (run seen (x :: xs)) =
        losses repeated (run (name x :: seen) xs) + if name x ∈ seen then 1 else 0

/-- An item has a new name, or the run warns of it. -/
theorem Warns.length_eq (h : Warns name unnamed repeated run) (seen : List String)
    (xs : List α) :
    xs.length =
      newNames seen (givenNames name xs) + losses unnamed (run seen xs) +
        losses repeated (run seen xs) := by
  induction xs generalizing seen with
  | nil => rw [h.nil]; rfl
  | cons x xs ih =>
      by_cases empty : name x = ""
      · obtain ⟨skipped, others⟩ := h.skip seen x xs empty
        rw [List.length_cons, ih seen, givenNames_cons_of_empty name empty, skipped, others]
        omega
      · obtain ⟨others, told⟩ := h.step seen x xs empty
        rw [List.length_cons, ih (name x :: seen), givenNames_cons_of_named name empty,
          newNames_cons, others, told]
        split <;> omega

namespace Catalog

seal Identifier.className Identifier.normalize Identifier.operationName Field.notices

/-! ## Classes -/

theorem warns_registrationNotices (classNames : List String) :
    Warns (fun d : ClassDecl => Identifier.className d.name) .unnamedClass .classReplaced
      (registrationNotices classNames) where
  nil seen := rfl
  skip seen d decls empty := by
    rw [registrationNotices]
    simp [empty, Notice.loss?]
  step seen d decls named := by
    rw [registrationNotices]
    by_cases known : Identifier.className d.name ∈ seen
    · simp [named, known, Notice.loss?, Nat.add_comm]
    · simp [named, known]

/-- The classes of a contract are the registered ones and those that were warned of. -/
theorem length_classes (decls : List ClassDecl) :
    decls.length =
      (register decls).length + losses .unnamedClass (notices decls) +
        losses .classReplaced (notices decls) := by
  have names : (register decls).length = newNames [] (classNames decls) := by
    rw [newNames_nil, ← keys_register, Entries.keys, List.length_map]
  have ending : ∀ loss, losses loss (notices decls) =
      losses loss (registrationNotices (classNames decls) [] decls) := by
    intro loss
    rw [notices, losses_append]
    cases build decls with
    | ok g => simp [Notice.loss?]
    | error names => simp
  rw [names, ending, ending]
  exact (warns_registrationNotices (classNames decls)).length_eq [] decls

theorem length_models_of_build {decls : List ClassDecl} {g : Catalog} (h : build decls = .ok g) :
    g.models.length = (register decls).length := by
  rw [(models_perm_of_build h).length_eq, ← values_register, Entries.values, List.length_map]

/-! ## Operations -/

/-- A function becomes an operation, or there is a warning. -/
theorem losses_operationNotices (f : FunctionDecl) :
    (operation? f).toList.length + losses .unnamedOperation (operationNotices f) = 1 := by
  rw [operationNotices, operation?]
  by_cases unnamed : Identifier.operationName f.name = ""
  · simp [unnamed, Notice.loss?]
  · simp [unnamed]

/-- The functions of a service are its operations and those that were warned of. -/
theorem length_functions (functions : List FunctionDecl) :
    functions.length =
      (functions.filterMap operation?).length +
        losses .unnamedOperation (functions.flatMap operationNotices) := by
  induction functions with
  | nil => rfl
  | cons f functions ih =>
      have one := losses_operationNotices f
      rw [List.length_cons, ih, List.flatMap_cons, losses_append,
        ← List.singleton_append, List.filterMap_append, List.length_append,
        List.filterMap_eq_flatMap_toList operation? [f], List.flatMap_singleton]
      omega

/-- Building operations warns of nothing but operations. -/
theorem losses_operations {loss : Loss} (h : loss ≠ .unnamedOperation)
    (functions : List FunctionDecl) :
    losses loss (functions.flatMap operationNotices) = 0 := by
  induction functions with
  | nil => rfl
  | cons f functions ih =>
      rw [List.flatMap_cons, losses_append, ih, operationNotices]
      by_cases unnamed : Identifier.operationName f.name = ""
      · simp [unnamed, Notice.loss?, h.symm]
      · simp [unnamed]

/-! ## Services -/

theorem warns_buildNotices :
    Warns (fun d : ServiceDecl => Identifier.normalize d.name) .unnamedService .serviceReplaced
      buildNotices where
  nil seen := rfl
  skip seen d decls empty := by
    rw [buildNotices]
    simp [empty, Notice.loss?]
  step seen d decls named := by
    have others : ∀ loss ≠ Loss.unnamedOperation,
        losses loss (d.functions.flatMap operationNotices) = 0 := fun loss h =>
      losses_operations h d.functions
    rw [buildNotices]
    by_cases known : Identifier.normalize d.name ∈ seen
    · simp [named, known, others, Notice.loss?, Nat.add_comm]
    · simp [named, known, others]

/-- The names of the services that have one. -/
def serviceNames (decls : List ServiceDecl) : List String :=
  givenNames (fun d => Identifier.normalize d.name) decls

theorem serviceNames_cons_of_empty {d : ServiceDecl} (h : Identifier.normalize d.name = "")
    (decls : List ServiceDecl) : serviceNames (d :: decls) = serviceNames decls :=
  givenNames_cons_of_empty (fun d : ServiceDecl => Identifier.normalize d.name) h decls

theorem serviceNames_cons_of_named {d : ServiceDecl} (h : Identifier.normalize d.name ≠ "")
    (decls : List ServiceDecl) :
    serviceNames (d :: decls) = Identifier.normalize d.name :: serviceNames decls :=
  givenNames_cons_of_named (fun d : ServiceDecl => Identifier.normalize d.name) h decls

theorem map_name_service? (g : Catalog) (decls : List ServiceDecl) :
    (decls.filterMap g.service?).map Service.name = serviceNames decls := by
  induction decls with
  | nil => rfl
  | cons d decls ih =>
      cases built : g.service? d with
      | none =>
          rw [List.filterMap_cons_none built, ih,
            serviceNames_cons_of_empty (service?_eq_none_iff.mp built)]
      | some s =>
          obtain ⟨name, named⟩ := name_of_service? built
          rw [List.filterMap_cons_some built, List.map_cons, ih,
            serviceNames_cons_of_named (name ▸ named), name]

/-- The services of a contract are those that are built and those that were warned of. -/
theorem length_services (g : Catalog) (decls : List ServiceDecl) :
    decls.length =
      (g.services decls).length + losses .unnamedService (g.serviceNotices decls) +
        losses .serviceReplaced (g.serviceNotices decls) := by
  have names : (g.services decls).length = newNames [] (serviceNames decls) := by
    rw [newNames_nil, ← map_name_service? g, ← keys_serviceIndex, ← map_name_services,
      List.length_map]
  have ending : ∀ loss, losses loss (g.serviceNotices decls) =
      losses loss (buildNotices [] decls) := by
    intro loss
    simp [serviceNotices, Notice.loss?]
  rw [names, ending, ending]
  exact warns_buildNotices.length_eq [] decls

/-- The notices come service by service. -/
theorem buildNotices_append (seen : List String) (decls others : List ServiceDecl) :
    buildNotices seen (decls ++ others) =
      buildNotices seen decls ++ buildNotices ((serviceNames decls).reverse ++ seen) others := by
  induction decls generalizing seen with
  | nil => rfl
  | cons d decls ih =>
      rw [List.cons_append, buildNotices, buildNotices]
      by_cases unnamed : Identifier.normalize d.name = ""
      · rw [if_pos unnamed, if_pos unnamed, ih, serviceNames_cons_of_empty unnamed,
          List.cons_append]
      · rw [if_neg unnamed, if_neg unnamed, ih, serviceNames_cons_of_named unnamed]
        simp

/-- The notices of building a service behind others. -/
def noticesBehind (before : List ServiceDecl) (d : ServiceDecl) : List Notice :=
  buildNotices (serviceNames before).reverse [d]

theorem serviceNotices_split (g : Catalog) (before after : List ServiceDecl) (d : ServiceDecl) :
    g.serviceNotices (before ++ d :: after) =
      buildNotices [] before ++ noticesBehind before d ++
        (buildNotices (serviceNames (before ++ [d])).reverse after ++
          [.servicesLoaded (g.services (before ++ d :: after)).length]) := by
  have single : before ++ d :: after = before ++ [d] ++ after := by simp
  rw [serviceNotices, single, buildNotices_append, buildNotices_append, noticesBehind,
    List.append_nil, List.append_nil, List.append_assoc]

/-- The functions of a service that is built are its operations and those that were warned of
when it was built. -/
theorem length_functions_of_service? {g : Catalog} {d : ServiceDecl} {s : Service}
    (h : g.service? d = some s) (before : List ServiceDecl) :
    d.functions.length =
      s.operations.length + losses .unnamedOperation (noticesBehind before d) := by
  obtain ⟨name, named⟩ := name_of_service? h
  rw [name] at named
  have logged : losses .unnamedOperation (noticesBehind before d) =
      losses .unnamedOperation (d.functions.flatMap operationNotices) := by
    rw [noticesBehind, buildNotices]
    by_cases known : Identifier.normalize d.name ∈ serviceNames before
    · simp [named, known, buildNotices, Notice.loss?]
    · simp [named, known, buildNotices]
  rw [(parts_of_service? h).1, logged]
  exact length_functions d.functions

/-! ## Fields -/

/-- A field has a new name, or there is a warning. -/
theorem length_fields (className : String) (seen : List String) (fields : List Field) :
    fields.length =
      newNames seen (fields.map Field.name) +
        losses .repeatedField (repeatedFields className seen fields) := by
  induction fields generalizing seen with
  | nil => rfl
  | cons f fields ih =>
      rw [List.length_cons, ih (f.name :: seen), List.map_cons, newNames_cons, repeatedFields,
        losses_append]
      have told : losses .repeatedField
          (if seen.contains f.name then [.repeatedField className f.name f.rawName] else []) =
            if f.name ∈ seen then 1 else 0 := by
        by_cases known : f.name ∈ seen
        · simp [known, Notice.loss?]
        · simp [known]
      rw [told]
      split <;> omega

/-! ## All accounts -/

/-- What is declared is what is left and what was warned of.  This holds of the classes of a
contract, whether or not they can be put in order, of its services, of the functions of each
service that is built, by the notices that come between those of its neighbours, and of the
fields of each generated class. -/
theorem losses_are_told :
    (∀ notice loss, Notice.loss? notice = some loss → notice.level = .warning) ∧
    (∀ decls : List ClassDecl,
      decls.length =
        (register decls).length + losses .unnamedClass (notices decls) +
          losses .classReplaced (notices decls) ∧
      ∀ g, build decls = .ok g → g.models.length = (register decls).length) ∧
    (∀ (g : Catalog) (decls : List ServiceDecl),
      decls.length =
        (g.services decls).length + losses .unnamedService (g.serviceNotices decls) +
          losses .serviceReplaced (g.serviceNotices decls)) ∧
    (∀ (g : Catalog) (before after : List ServiceDecl) (d : ServiceDecl) (s : Service),
      g.service? d = some s →
      g.serviceNotices (before ++ d :: after) =
        buildNotices [] before ++ noticesBehind before d ++
          (buildNotices (serviceNames (before ++ [d])).reverse after ++
            [.servicesLoaded (g.services (before ++ d :: after)).length]) ∧
      d.functions.length =
        s.operations.length + losses .unnamedOperation (noticesBehind before d)) ∧
    ∀ n : Model,
      n.fields.length =
        (distinct (n.fields.map Field.name)).length + losses .repeatedField (modelNotices n) := by
  refine ⟨fun notice loss => Notice.level_of_loss?,
    fun decls => ⟨length_classes decls, fun g => length_models_of_build⟩, length_services, ?_, ?_⟩
  · intro g before after d s built
    exact ⟨serviceNotices_split g before after d, length_functions_of_service? built before⟩
  · intro n
    rw [← newNames_nil]
    exact length_fields n.name [] n.fields

/-! ### Witness -/

/-- A class with two fields of one name. -/
def fruitStand : ClassDecl :=
  { name := "FruitStand", entries :=
      [{ name := "pears", type := "int" }, { name := "pe-ars", type := "string" }] }

/-- A service with a function that has no name. -/
def market : ServiceDecl :=
  { name := "Market", functions := [{ name := "buy" }, { name := "?" }] }

/-- A class without a name, and two of one name. -/
def marketClasses : List ClassDecl := [{ name := "123" }, { name := "Fruit-Stand" }, fruitStand]

/-- A service without a name, and two of one name. -/
def marketServices : List ServiceDecl := [{ name := "!" }, market, market]

/-- Of three classes, three services, two functions and two fields one each is left, and the
user is warned of all others. -/
theorem losses_of_market :
    (∃ g, build marketClasses = .ok g ∧ g.models.length = 1 ∧
      losses .unnamedClass (notices marketClasses) +
        losses .classReplaced (notices marketClasses) = 2) ∧
    (((ofModels [] []).services marketServices).length = 1 ∧
      losses .unnamedService ((ofModels [] []).serviceNotices marketServices) +
        losses .serviceReplaced ((ofModels [] []).serviceNotices marketServices) = 2) ∧
    (∃ s, (ofModels [] []).service? market = some s ∧ s.operations.length = 1 ∧
      losses .unnamedOperation (noticesBehind [{ name := "!" }] market) = 1) ∧
    losses .repeatedField (modelNotices (modelOf [] fruitStand)) = 1 ∧
    (Notice.unnamedOperation "?").level = .warning := by
  obtain ⟨warnings, classes, services, functions, fields⟩ := losses_are_told
  refine ⟨?_, ?_, ?_, ?_, warnings _ .unnamedOperation rfl⟩
  · have left : (build marketClasses).toOption.any (fun g => g.models.length = 1) = true := by
      decide +kernel
    obtain ⟨account, registered⟩ := classes marketClasses
    have three : marketClasses.length = 3 := rfl
    cases built : build marketClasses with
    | error names => rw [built] at left; cases left
    | ok g =>
        rw [built] at left
        have one : g.models.length = 1 := of_decide_eq_true left
        have same := registered g built
        exact ⟨g, rfl, one, by omega⟩
  · have left : ((ofModels [] []).services marketServices).length = 1 := by decide +kernel
    have account := services (ofModels [] []) marketServices
    have three : marketServices.length = 3 := rfl
    exact ⟨left, by omega⟩
  · have left : ((ofModels [] []).service? market).any (fun s => s.operations.length = 1) =
        true := by
      decide +kernel
    have two : market.functions.length = 2 := rfl
    cases built : (ofModels [] []).service? market with
    | none => rw [built] at left; cases left
    | some s =>
        rw [built] at left
        have one : s.operations.length = 1 := of_decide_eq_true left
        have account := (functions _ [{ name := "!" }] [] market s built).2
        exact ⟨s, rfl, one, by omega⟩
  · have account := fields (modelOf [] fruitStand)
    have names : (distinct ((modelOf [] fruitStand).fields.map Field.name)).length = 1 := by
      decide +kernel
    have two : (modelOf [] fruitStand).fields.length = 2 := rfl
    omega

end Catalog

end ContractClient
