import ContractClient.CommandLine.Run
import ContractClient.Proofs.Client.Effect

/-!
# Consent before writing

A run changes no file of a client that is there already unless the user agrees.  The words
of the command line lead to settings, the settings to a client and an output directory
(`Setup`), and only then is anything written.  Whatever goes wrong on the way ends the run
with the files as they were (`exists_setup`).

If a client is there, the first answer that is understood decides
(`decision_eq_some_iff`).  So answers that are not understood count for nothing, a refusal
ends the run with status 0, and without a decision the run is aborted
(`run_asks_before_writing`).
-/

namespace ContractClient

/-! ## Clients that are there -/

namespace Client

variable {c : Client} {t : FileTree} {directory : String}

theorem someServices_eq_ok_iff {ss : List Service} :
    c.someServices = .ok ss ↔ c.services = .ok ss ∧ ss ≠ [] := by
  rw [someServices, bind_eq_ok_iff]
  constructor
  · rintro ⟨found, services, h⟩
    split at h
    next => cases h
    next nonempty =>
      cases h
      exact ⟨services, by simpa using nonempty⟩
  · rintro ⟨services, nonempty⟩
    exact ⟨ss, services, if_neg (by simpa using nonempty)⟩

theorem hasClient_eq_ok_iff {present : Bool} :
    c.hasClient t directory = .ok present ↔
      ∃ ss, c.services = .ok ss ∧ ss ≠ [] ∧
        Output.anyClientExists t directory (ss.map c.clientName) = present := by
  constructor
  · intro h
    cases found : c.someServices with
    | error fault => rw [hasClient, found] at h; cases h
    | ok ss =>
        rw [hasClient, found] at h
        obtain ⟨services, nonempty⟩ := someServices_eq_ok_iff.mp found
        exact ⟨ss, services, nonempty, Except.ok.inj h⟩
  · rintro ⟨ss, services, nonempty, rfl⟩
    rw [hasClient, someServices_eq_ok_iff.mpr ⟨services, nonempty⟩]
    rfl

/-- Looking at the services changes only what was told. -/
theorem hasClient_afterServices (c : Client) (t : FileTree) (directory : String) :
    c.afterServices.hasClient t directory = c.hasClient t directory := by
  rw [afterServices]
  split <;> rfl

theorem files_deliver_of_told (c : Client) (told : Told) (t : FileTree) (directory : String)
    (on : Clock) :
    ({ c with told := told }.deliver t directory on).files = (c.deliver t directory on).files := by
  cases generated : c.generate on with
  | ok p =>
      rw [files_deliver_of_ok generated, files_deliver_of_ok (generate_of_told told generated)]
  | error fault =>
      cases other : { c with told := told }.generate on with
      | error fault => rw [files_deliver_of_error generated, files_deliver_of_error other]
      | ok p =>
          have back : c.generate on = .ok p :=
            generate_of_told (c := { c with told := told }) c.told other
          rw [generated] at back
          cases back

theorem files_deliver_afterServices (c : Client) (t : FileTree) (directory : String)
    (on : Clock) :
    (c.afterServices.deliver t directory on).files = (c.deliver t directory on).files := by
  rw [afterServices]
  split
  · exact c.files_deliver_of_told _ t directory on
  · rfl

end Client

namespace CommandLine

/-! ## Words for switches -/

/-- Whether a word asks for a switch: it is the word for the switch, or short for it.  A
beginning that several words have counts for each of them. -/
def Asks (s : Switch) (word : String) : Prop :=
  2 < word.toList.length ∧ ∃ e ∈ Switch.table, e.2 = s ∧ word.toList <+: e.1.toList

instance (s : Switch) (word : String) : Decidable (Asks s word) :=
  inferInstanceAs (Decidable (_ ∧ _))

theorem mem_startingWith_iff {s : Switch} {name : String} :
    s ∈ Switch.startingWith name ↔
      ∃ e ∈ Switch.table, e.2 = s ∧ name.toList <+: e.1.toList := by
  simp [Switch.startingWith, and_comm]

/-- A word in full is found among the words that start with it. -/
theorem mem_startingWith_of_find? {s : Switch} {full name : String}
    (h : Switch.table.find? (·.1 = name) = some (full, s)) : s ∈ Switch.startingWith name := by
  have same : full = name := by simpa using List.find?_some h
  rw [mem_startingWith_iff]
  exact ⟨_, List.mem_of_find?_eq_some h, rfl, same ▸ List.prefix_rfl⟩

theorem unclearWord_ne_switch (word : String) (s : Switch) (value : Option String) :
    unclearWord word ≠ .switch s value := by
  rw [unclearWord]
  split <;> nofun

/-- A word with one hyphen asks for help only. -/
theorem eq_help_of_shortWord {word : String} {s : Switch} {value : Option String}
    (h : shortWord word = .switch s value) : s = .help := by
  rw [shortWord] at h
  split at h
  · cases h; rfl
  · cases h; rfl
  · exact absurd h (unclearWord_ne_switch word s value)

/-- A word without an equals sign is all name. -/
theorem name_of_valueless {word : String} (h : '=' ∉ word.toList) :
    String.ofList (word.toList.takeWhile (· != '=')) = word := by
  have all : ∀ c ∈ word.toList, (c != '=') = true := by
    intro c hc
    rw [bne_iff_ne]
    rintro rfl
    exact h hc
  rw [List.takeWhile_eq_self_iff.mpr all, String.ofList_toList]

theorem mem_startingWith_of_longWord {word : String} {s : Switch}
    (h : longWord word = .ok (.switch s none)) : s ∈ Switch.startingWith word := by
  have valueless : '=' ∉ word.toList := by
    intro there
    simp only [longWord, if_pos there] at h
    split at h
    · cases h
    · cases h
    · exact unclearWord_ne_switch word s none (Except.ok.inj h)
    · cases h
  simp only [longWord, name_of_valueless valueless, if_neg valueless] at h
  split at h
  next found => cases h; exact mem_startingWith_of_find? found
  next only => cases h; rw [only]; exact List.mem_singleton_self s
  next => exact absurd (Except.ok.inj h) (unclearWord_ne_switch word s none)
  next => cases h

/-- A word for a switch without a value asks for it. -/
theorem asks_of_sortWord {word : String} {s : Switch} (other : s ≠ .help)
    (h : sortWord word = .ok (.switch s none)) : Asks s word := by
  rw [sortWord] at h
  split at h
  next rest long =>
    refine ⟨?_, mem_startingWith_iff.mp (mem_startingWith_of_longWord h)⟩
    cases rest with
    | nil =>
        -- Two hyphens alone start the words for all switches.
        have bare : word = "--" := String.toList_inj.mp long
        have many : longWord "--" = .error .usage := by decide
        rw [bare, many] at h
        cases h
    | cons c cs => simp [long]
  next => exact absurd (eq_help_of_shortWord (Except.ok.inj h)) other
  next => cases h

/-- Whether arguments have a switch that takes no value. -/
def Arguments.has (a : Arguments) : Switch → Bool
  | .initConfig => a.initConfig
  | .force => a.force
  | .verbose => a.verbose
  | _ => false

theorem exists_of_mem_sortWords {words : List String} {ws : List Word} {s : Switch}
    (other : s ≠ .help) (h : sortWords words = .ok ws) (hs : .switch s none ∈ ws) :
    ∃ word ∈ words, Asks s word := by
  induction words generalizing ws with
  | nil => cases h; cases hs
  | cons word words ih =>
      rw [sortWords] at h
      split at h
      · -- Behind the mark all words are plain.
        cases h
        simp at hs
      · obtain ⟨first, sorted, h⟩ := bind_eq_ok_iff.mp h
        obtain ⟨rest, others, h⟩ := bind_eq_ok_iff.mp h
        cases h
        rcases List.mem_cons.mp hs with rfl | hs
        · exact ⟨word, List.mem_cons_self, asks_of_sortWord other sorted⟩
        · obtain ⟨w, hw, asks⟩ := ih others hs
          exact ⟨w, List.mem_cons_of_mem word hw, asks⟩

namespace Arguments

theorem has_setValue (a : Arguments) (s : Switch) (value : String) :
    (a.setValue s value).has = a.has := by
  cases s <;> rfl

theorem has_setFlag_of_ne {s flag : Switch} (h : flag ≠ s) (a : Arguments) :
    (a.setFlag s).has flag = a.has flag := by
  cases s <;> cases flag <;> trivial

/-- Where a switch can come from: the arguments so far, or a word that is left. -/
def ComesFrom (flag : Switch) (a : Arguments) (ws : List Word) : Prop :=
  a.has flag = true ∨ .switch flag none ∈ ws

variable {a b : Arguments} {flag s : Switch} {ws : List Word}

theorem ComesFrom.cons (h : ComesFrom flag a ws) (w : Word) : ComesFrom flag a (w :: ws) :=
  h.imp_right (List.mem_cons_of_mem w)

theorem ComesFrom.of_setValue {value : String} (h : ComesFrom flag (a.setValue s value) ws) :
    ComesFrom flag a ws := by
  rwa [ComesFrom, has_setValue] at h

theorem ComesFrom.of_setFlag (h : ComesFrom flag (a.setFlag s) ws) :
    ComesFrom flag a (.switch s none :: ws) := by
  by_cases same : flag = s
  · exact Or.inr (same ▸ List.mem_cons_self)
  · rw [ComesFrom, has_setFlag_of_ne same] at h
    exact h.imp_right (List.mem_cons_of_mem _)

/-- A switch comes from a word, and never from nowhere. -/
theorem comesFrom_of_ofWords {senseless : Bool} (h : ofWords a senseless ws = .ok b)
    (hb : b.has flag = true) : ComesFrom flag a ws := by
  fun_induction ofWords a senseless ws with
  | case1 => cases h
  | case2 => cases h; exact Or.inl hb
  | case3 => cases h
  | case4 a senseless s _ v _ ih => exact (ih h).of_setValue.cons _
  | case5 a senseless s _ _ ih => exact (ih h).of_setFlag
  | case6 => cases h
  | case7 a senseless s w ws _ v _ ih => exact (ih h).of_setValue.cons _
  | case8 a senseless s ws _ v _ ih => exact ((ih h).of_setValue.cons _).cons _
  | case9 a senseless s w ws _ _ ih => exact (ih h).of_setFlag
  | case10 => cases h
  | case11 a senseless w ws _ _ _ ih => exact (ih h).cons w

/-- A command line without a word that asks for a switch does not have it. -/
theorem has_of_parse {words : List String} (h : parse words = .ok a)
    (unasked : ∀ word ∈ words, ¬ Asks flag word) : a.has flag = false := by
  rw [← Bool.not_eq_true]
  intro there
  have other : flag ≠ .help := by
    rintro rfl
    cases there
  obtain ⟨ws, sorted, worked⟩ := bind_eq_ok_iff.mp h
  rcases comesFrom_of_ofWords worked there with before | listed
  · cases flag <;> cases before
  · obtain ⟨word, hword, asks⟩ := exists_of_mem_sortWords other sorted listed
    exact unasked word hword asks

end Arguments

/-! ## Answers -/

/-- Whether an answer is one of some words, up to case and blanks around it. -/
def IsOneOf (words : List String) (answer : String) : Prop :=
  Text.strip (Text.lower answer) ∈ words

/-- Whether an answer means nothing. -/
def IsUnclear (answer : String) : Prop :=
  ¬ IsOneOf affirmative answer ∧ ¬ IsOneOf negative answer

instance (words : List String) (answer : String) : Decidable (IsOneOf words answer) :=
  inferInstanceAs (Decidable (_ ∈ words))

instance (answer : String) : Decidable (IsUnclear answer) := inferInstanceAs (Decidable (_ ∧ _))

/-- The first answer that means something is one of some words. -/
def Decided (words answers : List String) : Prop :=
  ∃ unclear answer rest, answers = unclear ++ answer :: rest ∧
    (∀ a ∈ unclear, IsUnclear a) ∧ IsOneOf words answer

theorem meaning?_eq_true_iff {answer : String} :
    meaning? answer = some true ↔ IsOneOf affirmative answer := by
  rw [meaning?, IsOneOf]
  split
  next yes => simp [yes]
  next other => simp [other]

theorem meaning?_eq_false_iff {answer : String} :
    meaning? answer = some false ↔ IsOneOf negative answer := by
  have apart : ∀ word ∈ affirmative, word ∉ negative := by decide
  rw [meaning?, IsOneOf]
  split
  next yes => simp [apart _ yes]
  next other => simp

theorem meaning?_eq_none_iff {answer : String} : meaning? answer = none ↔ IsUnclear answer := by
  rw [IsUnclear, ← meaning?_eq_true_iff, ← meaning?_eq_false_iff]
  cases meaning? answer with
  | none => simp
  | some b => cases b <;> simp

/-- What the user decides, if anything. -/
def decision (answers : List String) : Option Bool := (confirm answers).1

theorem decision_eq (answers : List String) : decision answers = answers.findSome? meaning? := by
  rw [decision]
  fun_induction confirm answers with
  | case1 => rfl
  | case2 answer answers b understood => rw [List.findSome?_cons, understood]
  | case3 answer answers unclear b printed rest ih =>
      rw [List.findSome?_cons, unclear, ← ih, rest]

/-- The first answer that means something decides. -/
theorem decision_eq_some_iff {answers words : List String} {b : Bool}
    (h : ∀ answer, meaning? answer = some b ↔ IsOneOf words answer) :
    decision answers = some b ↔ Decided words answers := by
  rw [decision_eq, List.findSome?_eq_some_iff]
  simp only [Decided, h, meaning?_eq_none_iff]
  constructor
  · rintro ⟨unclear, answer, rest, split, decides, before⟩
    exact ⟨unclear, answer, rest, split, before, decides⟩
  · rintro ⟨unclear, answer, rest, split, before, decides⟩
    exact ⟨unclear, answer, rest, split, decides, before⟩

theorem decision_eq_none_iff {answers : List String} :
    decision answers = none ↔ ∀ answer ∈ answers, IsUnclear answer := by
  rw [decision_eq, List.findSome?_eq_none_iff]
  simp only [meaning?_eq_none_iff]

/-- Answers that mean nothing are skipped. -/
theorem decision_append {unclear : List String} (h : ∀ answer ∈ unclear, IsUnclear answer)
    (answers : List String) : decision (unclear ++ answers) = decision answers := by
  have skipped : unclear.findSome? meaning? = none := by
    rw [← decision_eq]
    exact decision_eq_none_iff.mpr h
  rw [decision_eq, decision_eq, List.findSome?_append, skipped, Option.none_or]

/-! ## What a run leaves behind -/

/-- How a run ends, and the files it leaves. -/
def Run.effect (r : Run) : Ending × FileTree := (r.ending, r.files)

variable {world : Surroundings} {answers : List String} {now : Client.Clock} {output : String}

theorem files_write (files : FileTree) (c : Client) (output : String) (now : Client.Clock) :
    (write files c output now).files = (c.deliver files output now).files := by
  rw [write, Run.behind]
  dsimp only
  split <;> rfl

/-- If a client is there, nothing happens without a decision. -/
theorem effect_writeAsked_of_present {files : FileTree} {c : Client}
    (h : c.hasClient files output = .ok true) (answers : List String) (now : Client.Clock) :
    (writeAsked files c output false answers now).effect =
      match decision answers with
      | some true => (write files c output now).effect
      | some false => (.status 0, files)
      | none => (.aborted .outOfInput, files) := by
  cases asked : confirm answers with
  | mk b printed =>
      rw [writeAsked, h, decision, asked]
      cases b with
      | none => rfl
      | some b => cases b <;> rfl

/-- Files change only if no client is there, or if the user agrees. -/
theorem files_writeAsked {files : FileTree} {c : Client}
    (changed : (writeAsked files c output false answers now).files ≠ files) :
    c.hasClient files output = .ok false ∨ decision answers = some true := by
  cases present : c.hasClient files output with
  | error fault =>
      rw [writeAsked, present] at changed
      exact absurd rfl changed
  | ok there =>
      cases there with
      | false => exact Or.inl rfl
      | true =>
          have effect := effect_writeAsked_of_present present answers now
          cases decided : decision answers with
          | none =>
              rw [decided] at effect
              exact absurd (Prod.mk.inj effect).2 changed
          | some b =>
              cases b with
              | true => exact Or.inr rfl
              | false =>
                  rw [decided] at effect
                  exact absurd (Prod.mk.inj effect).2 changed

/-! ## From words to a client -/

/-- What the words of a command line lead to: the settings in the settings file, if there is
one, or the standard ones, under the choices of the command line, and the client and the
output directory that they describe. -/
structure Setup (world : Surroundings) (words : List String) where
  arguments : Arguments
  found : Option Settings
  notices : List Notice
  settings : Settings
  client : Client
  output : String
  parsed : Arguments.parse words = .ok arguments
  loaded : Settings.load world.files Settings.fileName arguments.choices.output.text? =
    .ok (found, notices)
  merged : (found.getD {}).merge arguments.choices = .ok settings
  given : settings.contract.isTruthy = true
  created : CommandLine.client world settings = .ok client
  directed : outputPath? settings.output = some output

variable {words : List String}

namespace Setup

variable (setup : Setup world words)

/-- The path of the file that the user owns for a service. -/
def clientPath (s : Service) : String :=
  Output.path setup.output (Output.clientFile (setup.client.clientName s))

/-- One of the services has a client already. -/
def HasClient : Prop :=
  ∃ ss, setup.client.services = .ok ss ∧
    ∃ s ∈ ss, world.files.pathExists (setup.clientPath s) = true

/-- None of the services has a client. -/
def IsFresh : Prop :=
  ∃ ss, setup.client.services = .ok ss ∧
    ∀ s ∈ ss, world.files.pathExists (setup.clientPath s) = false

theorem hasClient_iff :
    setup.HasClient ↔ setup.client.hasClient world.files setup.output = .ok true := by
  rw [Client.hasClient_eq_ok_iff]
  constructor
  · rintro ⟨ss, services, s, hs, there⟩
    refine ⟨ss, services, List.ne_nil_of_mem hs, ?_⟩
    exact List.any_eq_true.mpr ⟨_, List.mem_map_of_mem hs, there⟩
  · rintro ⟨ss, services, -, present⟩
    obtain ⟨name, named, there⟩ := List.any_eq_true.mp present
    obtain ⟨s, hs, rfl⟩ := List.mem_map.mp named
    exact ⟨ss, services, s, hs, there⟩

instance : Decidable setup.HasClient := decidable_of_iff _ setup.hasClient_iff.symm

theorem isFresh_of_hasClient {setup : Setup world words}
    (h : setup.client.hasClient world.files setup.output = .ok false) : setup.IsFresh := by
  obtain ⟨ss, services, -, missing⟩ := Client.hasClient_eq_ok_iff.mp h
  refine ⟨ss, services, fun s hs => ?_⟩
  rw [clientPath, ← Bool.not_eq_true]
  exact List.any_eq_false.mp missing _ (List.mem_map_of_mem hs)

/-- What words lead to, if they get that far. -/
def of? (world : Surroundings) (words : List String) : Option (Setup world words) :=
  match parsed : Arguments.parse words with
  | .error _ => none
  | .ok arguments =>
    match loaded : Settings.load world.files Settings.fileName arguments.choices.output.text? with
    | .error _ => none
    | .ok (found, notices) =>
      match merged : (found.getD {}).merge arguments.choices with
      | .error _ => none
      | .ok settings =>
        match created : CommandLine.client world settings,
            directed : outputPath? settings.output with
        | .ok client, some output =>
          if given : settings.contract.isTruthy = true then
            some ⟨arguments, found, notices, settings, client, output, parsed, loaded, merged,
              given, created, directed⟩
          else none
        | _, _ => none

end Setup

/-- A moment is no place, so it gives no contract. -/
theorem create_moment (world : Surroundings) (m : Moment) (engine : Value) :
    ∃ fault, Client.create world (.ofValue (.moment m)) none none engine = .error fault := by
  rw [Client.create]
  cases EngineRef.ofValue engine with
  | error fault => exact ⟨_, rfl⟩
  | ok r => exact ⟨_, rfl⟩

/-- A contract that can be loaded can be shown. -/
theorem exists_shown_of_client {s : Settings} {c : Client} (h : client world s = .ok c) :
    ∃ text, shown s.contract = .ok text := by
  cases contract : s.contract with
  | moment m =>
      obtain ⟨fault, failed⟩ := create_moment world m s.engine
      rw [client, contract, failed] at h
      cases h
  | _ => exact ⟨_, rfl⟩

/-- Settings that describe a client and an output directory lead to the question. -/
theorem effect_start {s : Settings} {c : Client} (given : s.contract.isTruthy = true)
    (created : client world s = .ok c) (directed : outputPath? s.output = some output)
    (force : Bool) (answers : List String) (now : Client.Clock) :
    (start world s force answers now).effect =
      (writeAsked world.files c.afterServices output force answers now).effect := by
  obtain ⟨text, printed⟩ := exists_shown_of_client created
  rw [start, if_pos given, generate, printed, created, directed]
  rfl

theorem files_withoutOutput (files : FileTree) (c : Client) :
    (withoutOutput files c).files = files := by
  rw [withoutOutput]
  split <;> rfl

/-- Settings that do not describe both lead to no change. -/
theorem files_start {s : Settings} {force : Bool}
    (changed : (start world s force answers now).files ≠ world.files) :
    s.contract.isTruthy = true ∧ (∃ c, client world s = .ok c) ∧
      ∃ output, outputPath? s.output = some output := by
  rw [start] at changed
  split at changed
  next given =>
    rw [generate] at changed
    cases printed : shown s.contract with
    | error message => rw [printed] at changed; exact absurd rfl changed
    | ok text =>
        rw [printed] at changed
        cases created : client world s with
        | error fault =>
            rw [created] at changed
            cases fault <;> exact absurd rfl changed
        | ok c =>
            rw [created] at changed
            cases directed : outputPath? s.output with
            | some output => exact ⟨given, ⟨c, rfl⟩, output, rfl⟩
            | none =>
                rw [directed] at changed
                exact absurd (files_withoutOutput world.files c) changed
  next => exact absurd rfl changed

/-- Choices that go with some settings go with the standard ones. -/
theorem exists_merge_standard {s t : Settings} {choices : Choices} (h : s.merge choices = .ok t) :
    ∃ own, ({} : Settings).merge choices = .ok own := by
  rw [Settings.merge] at h
  split at h
  · cases h
  · obtain ⟨names, read, -⟩ := bind_eq_ok_iff.mp h
    exact ⟨_, bind_eq_ok_iff.mpr ⟨names, read, rfl⟩⟩

/-- Arguments that lead to settings lead to a start with these. -/
theorem effect_runArguments {a : Arguments} {found : Option Settings} {notices : List Notice}
    {s : Settings} (plain : a.initConfig = false)
    (loaded : Settings.load world.files Settings.fileName a.choices.output.text? =
      .ok (found, notices))
    (merged : (found.getD {}).merge a.choices = .ok s) (answers : List String)
    (now : Client.Clock) :
    (runArguments world a answers now).effect = (start world s a.force answers now).effect := by
  obtain ⟨own, standard⟩ := exists_merge_standard merged
  rw [runArguments, standard]
  dsimp only
  rw [plain, if_neg Bool.false_ne_true, loaded]
  cases found with
  | none =>
      cases standard.symm.trans merged
      rfl
  | some t =>
      rw [Option.getD_some] at merged
      dsimp only
      rw [merged]
      rfl

theorem files_unnamed (files : FileTree) (fault : Settings.NameFault) :
    (unnamed files fault).files = files := by
  cases fault <;> rfl

/-- Arguments that lead to no settings lead to no change. -/
theorem files_runArguments {a : Arguments} (plain : a.initConfig = false)
    (changed : (runArguments world a answers now).files ≠ world.files) :
    ∃ found notices s, Settings.load world.files Settings.fileName a.choices.output.text? =
        .ok (found, notices) ∧
      (found.getD {}).merge a.choices = .ok s ∧
      (start world s a.force answers now).files ≠ world.files := by
  rw [runArguments] at changed
  cases standard : ({} : Settings).merge a.choices with
  | error fault =>
      rw [standard] at changed
      exact absurd (files_unnamed world.files fault) changed
  | ok own =>
      rw [standard] at changed
      dsimp only at changed
      rw [plain, if_neg Bool.false_ne_true] at changed
      cases loaded : Settings.load world.files Settings.fileName a.choices.output.text? with
      | error fault => rw [loaded] at changed; exact absurd rfl changed
      | ok result =>
          obtain ⟨found, notices⟩ := result
          rw [loaded] at changed
          cases found with
          | none => exact ⟨none, notices, own, rfl, standard, changed⟩
          | some t =>
              dsimp only at changed
              cases merged : t.merge a.choices with
              | error fault =>
                  rw [merged] at changed
                  exact absurd (files_unnamed world.files fault) changed
              | ok s =>
                  rw [merged] at changed
                  exact ⟨some t, notices, s, rfl, merged, changed⟩

section Unforced

variable (setup : Setup world words) (unforced : ∀ word ∈ words, ¬ Asks .force word)
  (plain : ∀ word ∈ words, ¬ Asks .initConfig word)
include unforced plain

/-- A run whose words lead to a client gets to the question. -/
theorem effect_run (answers : List String) (now : Client.Clock) :
    (run world words answers now).effect = (writeAsked world.files setup.client.afterServices
      setup.output false answers now).effect := by
  have force : setup.arguments.force = false := Arguments.has_of_parse setup.parsed unforced
  rw [run, setup.parsed]
  dsimp only
  rw [effect_runArguments (Arguments.has_of_parse setup.parsed plain) setup.loaded setup.merged,
    force, effect_start setup.given setup.created setup.directed]

/-- If the client is there, the decision of the user is all that counts. -/
theorem effect_run_of_hasClient (h : setup.HasClient) (answers : List String)
    (now : Client.Clock) :
    (run world words answers now).effect =
      match decision answers with
      | some true => (write world.files setup.client.afterServices setup.output now).effect
      | some false => (.status 0, world.files)
      | none => (.aborted .outOfInput, world.files) := by
  have present : setup.client.afterServices.hasClient world.files setup.output = .ok true := by
    rw [Client.hasClient_afterServices]
    exact setup.hasClient_iff.mp h
  rw [effect_run setup unforced plain, effect_writeAsked_of_present present]

end Unforced

/-- A run that changes files has got to the question. -/
theorem exists_setup (plain : ∀ word ∈ words, ¬ Asks .initConfig word)
    (changed : (run world words answers now).files ≠ world.files) :
    Nonempty (Setup world words) := by
  rw [run] at changed
  cases parsed : Arguments.parse words with
  | error refusal => rw [parsed] at changed; cases refusal <;> exact absurd rfl changed
  | ok a =>
      rw [parsed] at changed
      obtain ⟨found, notices, s, loaded, merged, changed⟩ :=
        files_runArguments (Arguments.has_of_parse parsed plain) changed
      obtain ⟨given, ⟨c, created⟩, output, directed⟩ := files_start changed
      exact ⟨⟨a, found, notices, s, c, output, parsed, loaded, merged, given, created, directed⟩⟩

/-- A run without the switches that overwrite and that write settings changes files only if
there is no client, or if the first answer that means something is affirmative.  If there is
a client, the files are written in the second case only.  A refusal ends the run with status
0, answers that mean nothing are skipped, and a run without a decision is aborted, both with
the files as they were.  A shortened word counts as the switch it is short for (`Asks`). -/
theorem run_asks_before_writing (world : Surroundings) (words answers : List String)
    (now : Client.Clock) (unforced : ∀ word ∈ words, ¬ Asks .force word)
    (plain : ∀ word ∈ words, ¬ Asks .initConfig word) :
    ((run world words answers now).files ≠ world.files →
      ∃ setup : Setup world words, setup.IsFresh ∨ Decided affirmative answers) ∧
    ∀ setup : Setup world words, setup.HasClient →
      (Decided affirmative answers → (run world words answers now).files =
        (setup.client.deliver world.files setup.output now).files) ∧
      (¬ Decided affirmative answers → (run world words answers now).files = world.files) ∧
      (Decided negative answers →
        (run world words answers now).effect = (.status 0, world.files)) ∧
      ((∀ answer ∈ answers, IsUnclear answer) →
        (run world words answers now).effect = (.aborted .outOfInput, world.files)) ∧
      ∀ unclear, (∀ answer ∈ unclear, IsUnclear answer) →
        (run world words (unclear ++ answers) now).effect =
          (run world words answers now).effect := by
  constructor
  · intro changed
    obtain ⟨setup⟩ := exists_setup plain changed
    have effect := effect_run setup unforced plain answers now
    rw [(Prod.mk.inj effect).2] at changed
    refine ⟨setup, (files_writeAsked changed).imp (fun missing => ?_) fun agreed => ?_⟩
    · rw [Client.hasClient_afterServices] at missing
      exact Setup.isFresh_of_hasClient missing
    · exact (decision_eq_some_iff fun _ => meaning?_eq_true_iff).mp agreed
  · intro setup present
    have effect := effect_run_of_hasClient setup unforced plain present
    have agreed : decision answers = some true ↔ Decided affirmative answers :=
      decision_eq_some_iff fun _ => meaning?_eq_true_iff
    have refused : decision answers = some false ↔ Decided negative answers :=
      decision_eq_some_iff fun _ => meaning?_eq_false_iff
    refine ⟨?_, ?_, ?_, ?_, ?_⟩
    · intro consent
      have written := effect answers now
      rw [agreed.mpr consent] at written
      rw [(Prod.mk.inj written).2, files_write, Client.files_deliver_afterServices]
    · intro dissent
      have kept := effect answers now
      cases decided : decision answers with
      | none => rw [decided] at kept; exact (Prod.mk.inj kept).2
      | some b =>
          cases b with
          | true => exact absurd (agreed.mp decided) dissent
          | false => rw [decided] at kept; exact (Prod.mk.inj kept).2
    · intro refusal
      rw [effect, refused.mpr refusal]
    · intro silent
      rw [effect, decision_eq_none_iff.mpr silent]
    · intro unclear h
      rw [effect, effect, decision_append h]

/-- A place with a contract for a service, settings that give the service another name, and
the client under that name. -/
def forecastWorld : Surroundings where
  files :=
    { nodes := [(["work"], .directory), (["work", "out"], .directory),
        (["work", "out", "Forecast.py"], .file "# mine".toUTF8),
        (["work", "weather.wsdl"], .file "<w><service name='Weather'/></w>".toUTF8),
        (["work", "wsdl_interpreter.toml"],
          .file "output = \"out\"\n[aliases]\nWeather = \"Forecast\"\n".toUTF8)]
      current := ["work"] }

def forecastWords : List String := ["--con", "weather.wsdl"]

def forecastDay : Client.Clock := .ok { date := ⟨2024, 1, 2⟩ }

/-- The client is found under its other name.  A run that is refused after some hesitation
does not touch it, nor does one without an answer, and one that is agreed to writes. -/
theorem run_leaves_forecast :
    (run forecastWorld forecastWords ["maybe", " No "] forecastDay).effect =
      (.status 0, forecastWorld.files) ∧
    (run forecastWorld forecastWords ["maybe"] forecastDay).effect =
      (.aborted .outOfInput, forecastWorld.files) ∧
    ∃ setup : Setup forecastWorld forecastWords, setup.HasClient ∧
      (setup.client.deliver forecastWorld.files setup.output forecastDay).files ≠
        forecastWorld.files ∧
      (run forecastWorld forecastWords ["maybe", "YES"] forecastDay).files =
        (setup.client.deliver forecastWorld.files setup.output forecastDay).files := by
  have found : ∃ setup ∈ Setup.of? forecastWorld forecastWords, setup.HasClient ∧
      (setup.client.deliver forecastWorld.files setup.output forecastDay).files ≠
        forecastWorld.files := by
    decide +kernel
  obtain ⟨setup, -, present, writes⟩ := found
  have asked := fun answers => (run_asks_before_writing forecastWorld forecastWords answers
    forecastDay (by decide +kernel) (by decide +kernel)).2 setup present
  refine ⟨?_, ?_, setup, present, writes, ?_⟩
  · obtain ⟨-, -, refused, -⟩ := asked ["maybe", " No "]
    exact refused ⟨["maybe"], " No ", [], rfl, by decide +kernel, by decide +kernel⟩
  · obtain ⟨-, -, -, silent, -⟩ := asked ["maybe"]
    exact silent (by decide +kernel)
  · obtain ⟨agreed, -⟩ := asked ["maybe", "YES"]
    exact agreed ⟨["maybe"], "YES", [], rfl, by decide +kernel, by decide +kernel⟩

end CommandLine

end ContractClient
