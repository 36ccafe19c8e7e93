import ContractClient.Client.Generate
import ContractClient.CommandLine.Arguments
import ContractClient.Text.Character

/-!
# Running the program

A run starts from the words of the command line, the surroundings, the time and
the answers the user will give.  It ends with a status, and leaves behind the
text it printed, the files and what there is to log.

If a client is there already the user is asked before anything is written.  An
answer that is not understood is asked for again.

Some things end a run at once: there are no answers left, a settings file cannot
be read or written at all, a setting is used that is no text, the contract has no
proper address, or the clock shows no moment of universal time.
-/

namespace ContractClient.CommandLine

/-! ## Outcomes -/

/-- What ends a run at once. -/
inductive Abort where
  /-- There are no answers left. -/
  | outOfInput
  /-- A contract, an engine or a name is no text. -/
  | notText
  /-- A path is no text. -/
  | notPath
  /-- A settings file cannot be written. -/
  | file (fault : FileFault)
  /-- A settings file cannot be read. -/
  | reading (fault : Toml.Fault)
  /-- The settings have no text. -/
  | printing (fault : Toml.PrintFault)
  /-- The address of the contract is none. -/
  | badAddress
  /-- The moment is outside of the years on the clock of universal time. -/
  | beyondYears
  deriving DecidableEq, Repr

/-- How a run ends. -/
inductive Ending where
  /-- With a status. -/
  | status (code : Nat)
  /-- At once. -/
  | aborted (why : Abort)
  deriving DecidableEq, Repr

/-- A run: how it ends and what it leaves behind. -/
structure Run where
  /-- How it ends. -/
  ending : Ending
  /-- The lines it prints. -/
  printed : List String := []
  /-- The files afterwards. -/
  files : FileTree
  /-- What there is to log. -/
  notices : List Notice := []

/-- A run with lines and notices in front. -/
def Run.behind (r : Run) (printed : List String) (notices : List Notice) : Run :=
  { r with printed := printed ++ r.printed, notices := notices ++ r.notices }

/-- The text a run prints. -/
def Run.output (r : Run) : String := String.join (r.printed.map (· ++ "\n"))

/-! ## Asking -/

/-- The answers that mean yes. -/
def affirmative : List String := ["y", "yes", "да", ""]

/-- The answers that mean no. -/
def negative : List String := ["n", "no", "нет"]

/-- What an answer means, if it means anything. -/
def meaning? (answer : String) : Option Bool :=
  let word := Text.strip (Text.lower answer)
  if word ∈ affirmative then some true
  else if word ∈ negative then some false
  else none

/-- The line that asks. -/
def question : String := "Перегенерировать базовые классы? (y/n): "

/-- Asks until an answer is understood.  There is no decision if answers run
out.  The lines that are printed come with it. -/
def confirm : List String → Option Bool × List String
  | [] => (none, [question])
  | answer :: answers =>
    match meaning? answer with
    | some b => (some b, [question])
    | none =>
      let (b, printed) := confirm answers
      (b, question :: "Введите y/n" :: printed)

/-! ## Clients from settings -/

/-- Why settings give no client. -/
inductive SetupFault where
  /-- The user is told why. -/
  | told (message : String)
  /-- The run ends at once. -/
  | aborted (why : Abort)
  deriving DecidableEq, Repr

/-- How a run ends if there is no client. -/
def SetupFault.ofClient : ClientFault → SetupFault
  | .engine .notText | .load .noPlace => .aborted .notText
  | .load (.unreadable _ (.web .badAddress)) => .aborted .badAddress
  | fault => .told fault.message

/-- Gives services their other names.  A name for something that is no text is checked
and then of no use. -/
def nameServices (c : Client) : Mapping → Except SetupFault Client
  | [] => .ok c
  | (service, .text chosen) :: es =>
    match c.rename? service.render chosen with
    | some renamed => nameServices (if service.text?.isSome then renamed else c) es
    | none => .error (.told (Client.nameRejection chosen))
  | _ :: _ => .error (.aborted .notText)

/-- The client that settings describe. -/
def client (world : Surroundings) (s : Settings) : Except SetupFault Client :=
  match Client.create world (.ofValue s.contract) none none s.engine, s.aliases with
  | .error fault, _ => .error (.ofClient fault)
  | .ok c, .named names => nameServices c names
  | .ok _, .other _ => .error (.aborted .notText)

/-- The output directory of settings, if it is a text. -/
def outputPath? (v : Value) : Option String :=
  match v with
  | .text s => some (if s = "" then Settings.defaultOutput else s)
  | v => if v.isTruthy then none else some Settings.defaultOutput

/-! ## Running -/

/-- A run that ends with an error while code is generated. -/
def failed (files : FileTree) (message : String) : Run :=
  { ending := .status 1, printed := ["❌ Ошибка генерации: " ++ message], files }

/-- What is printed when files were written. -/
def report (files : FileTree) (output : String) (paths : List String) : List String :=
  ["💾 Записано " ++ toString paths.length ++ " файлов:"] ++ paths.map ("   " ++ ·) ++
    ["📦 Клиент создан в: " ++ Path.absolute files.current output]

/-- Writes the files of a client. -/
def write (files : FileTree) (c : Client) (output : String) (now : Client.Clock) : Run :=
  let e := c.deliver files output now
  let r : Run :=
    match e.outcome with
    | .ok paths => { ending := .status 0, printed := report files output paths, files := e.files }
    | .error (.generation (.moment .beyond)) =>
      { ending := .aborted .beyondYears, files := e.files }
    | .error fault => failed e.files fault.message
  r.behind ["⚙️ Генерация кода..."] e.notices

/-- Writes the files of a client.  If one of the user's files is there already,
the user is asked first. -/
def writeAsked (files : FileTree) (c : Client) (output : String) (force : Bool)
    (answers : List String) (now : Client.Clock) : Run :=
  match c.hasClient files output with
  | .error fault => failed files fault.message
  | .ok present =>
    if !present || force then write files c output now
    else
      let (decision, printed) := confirm answers
      let notice := "📁 Клиент уже существует в " ++ output ++
        ", пользовательские файлы не изменятся"
      match decision with
      | some true => (write files c output now).behind (notice :: printed) []
      | some false => { ending := .status 0, printed := notice :: printed, files }
      | none => { ending := .aborted .outOfInput, printed := notice :: printed, files }

/-- A run whose output directory is no text.  It ends at once when the directory
is first used. -/
def withoutOutput (files : FileTree) (c : Client) : Run :=
  match c.someServices with
  | .error fault => failed files fault.message
  | .ok _ => { ending := .aborted .notPath, files }

/-- The text of a contract in settings.  A moment on a clock that is a day or more apart
from universal time has none. -/
def shown (contract : Value) : Except String String :=
  match contract with
  | .moment { offset := some ahead, .. } =>
    if Moment.perDay ≤ ahead.natAbs then .error Toml.offsetMessage else .ok contract.render
  | v => .ok v.render

/-- Generates the client that settings describe. -/
def generate (world : Surroundings) (s : Settings) (force : Bool) (answers : List String)
    (now : Client.Clock) : Run :=
  match shown s.contract with
  | .error message => failed world.files message
  | .ok contract =>
    let r : Run :=
      match client world s with
      | .error (.told message) => failed world.files message
      | .error (.aborted why) => { ending := .aborted why, files := world.files }
      | .ok c =>
        let r := match outputPath? s.output with
          | some output => writeAsked world.files c.afterServices output force answers now
          | none => withoutOutput world.files c
        r.behind [] c.servicesNotices
    r.behind ["🚀 Генерация клиента из " ++ contract]
      (Client.createNotices world (.ofValue s.contract) none none s.engine)

/-- Writes a settings file. -/
def initConfig (files : FileTree) (s : Settings) : Run :=
  match s.save files Settings.fileName with
  | (none, files) =>
    { ending := .status 0, printed := ["✅ Создан конфиг файл " ++ Settings.fileName], files }
  | (some (.file fault), files) => { ending := .aborted (.file fault), files }
  | (some (.print fault), files) => { ending := .aborted (.printing fault), files }

/-- Generates the client that final settings describe, if they name a
contract. -/
def start (world : Surroundings) (s : Settings) (force : Bool) (answers : List String)
    (now : Client.Clock) : Run :=
  if s.contract.isTruthy then generate world s force answers now
  else
    { ending := .status 1
      printed := ["❌ Ошибка: Укажите --contract или создайте конфиг с --init-config"]
      files := world.files }

/-- A run that ends because names for services are not understood. -/
def unnamed (files : FileTree) : Settings.NameFault → Run
  | .noPair s =>
    { ending := .status 1, printed := ["❌ Ошибка: " ++ Settings.pairRejection s], files }
  | .wrongType | .notText => { ending := .aborted .notText, files }

/-- A run with arguments that make sense. -/
def runArguments (world : Surroundings) (a : Arguments) (answers : List String)
    (now : Client.Clock) : Run :=
  match ({} : Settings).merge a.choices with
  | .error fault => unnamed world.files fault
  | .ok own =>
    if a.initConfig then initConfig world.files own
    else
      match Settings.load world.files Settings.fileName a.choices.output.text? with
      | .error fault => { ending := .aborted (.reading fault), files := world.files }
      | .ok (none, notices) => (start world own a.force answers now).behind [] notices
      | .ok (some s, notices) =>
        let r := match s.merge a.choices with
          | .ok s => start world s a.force answers now
          | .error fault => unnamed world.files fault
        r.behind ["📋 Используется конфиг " ++ Settings.fileName] notices

/-- Runs the program. -/
def run (world : Surroundings) (words answers : List String) (now : Client.Clock) : Run :=
  match Arguments.parse words with
  | .ok a => runArguments world a answers now
  | .error .help => { ending := .status 0, files := world.files }
  | .error .usage => { ending := .status 2, files := world.files }

end ContractClient.CommandLine
