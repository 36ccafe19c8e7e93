import ContractClient.Engine
import ContractClient.FileTree.Basic
import ContractClient.Markup.Reader
import ContractClient.Notice
import ContractClient.Text.Utf8
import ContractClient.Toml.Printer
import ContractClient.Toml.Reader

/-!
# Settings

What a run needs to know is the contract, the output directory, the engine and
other names for services.  They come from a settings file and from the command
line, and the command line wins.

A settings file may hold any value for a setting.  Whether it is of use shows
when the setting is used, so settings are kept as values.
-/

namespace ContractClient

/-- Other names for services. -/
inductive Aliases where
  /-- A table from services to names. -/
  | named (m : Mapping)
  /-- Something else. -/
  | other (v : Value)

/-- The settings of a run. -/
structure Settings where
  /-- The contract. -/
  contract : Value := .null
  /-- The output directory. -/
  output : Value := .text "wsdl_client"
  /-- The engine. -/
  engine : Value := .text EngineRef.default
  /-- Other names for services. -/
  aliases : Aliases := .named []

/-- What is chosen for one run. -/
structure Choices where
  /-- The contract. -/
  contract : Value := .null
  /-- The output directory. -/
  output : Value := .null
  /-- The engine. -/
  engine : Value := .null
  /-- Other names for services: a list of texts, each with two names and an equals
  sign between them. -/
  aliases : Value := .null

namespace Settings

/-- The name of the settings file. -/
def fileName : String := "wsdl_interpreter.toml"

/-- The output directory if none is given. -/
def defaultOutput : String := "wsdl_client"

/-! ## Other names for services -/

/-- The message for a text that gives no name. -/
def pairRejection (s : String) : String := "Ожидается RAW=ALIAS, получено " ++ Text.quote s

/-- A service and its other name.  Both are trimmed and neither is blank. -/
def namePair? (s : String) : Option (String × String) :=
  let cs := s.toList
  let raw := Text.trim (cs.takeWhile (· != '='))
  let chosen := Text.trim ((cs.dropWhile (· != '=')).drop 1)
  if raw.isEmpty ∨ chosen.isEmpty then none else some (.ofList raw, .ofList chosen)

/-- Why there are no other names for services. -/
inductive NameFault where
  /-- What should hold names holds nothing, or is no table. -/
  | wrongType
  /-- What should be two names is no text. -/
  | notText
  /-- The text gives no name. -/
  | noPair (s : String)
  deriving DecidableEq, Repr

/-- The other names for services in some texts. -/
def readNames : List Value → Except NameFault (List (String × String))
  | [] => .ok []
  | .text s :: vs =>
    match namePair? s with
    | none => .error (.noPair s)
    | some p => (readNames vs).map (p :: ·)
  | _ :: _ => .error .notText

/-- The other names for services that a value gives.  A value that counts as not
given has none. -/
def namesOf (v : Value) : Except NameFault (Entries String) :=
  if !v.isTruthy then .ok []
  else match v.parts? with
    | none => .error .wrongType
    | some vs => (readNames vs).map Entries.ofPairs

/-! ## Choices -/

/-- A choice, unless it counts as not given. -/
def pick (choice old : Value) : Value := if choice.isTruthy then choice else old

/-- Settings under the choices for one run. -/
def merge (s : Settings) (c : Choices) : Except NameFault Settings :=
  match s.aliases with
  | .other _ => .error .wrongType
  | .named old => do
    let names ← namesOf c.aliases
    let chosen := names.map fun p => (Value.text p.1, Value.text p.2)
    return { contract := pick c.contract s.contract
             output := pick c.output s.output
             engine := pick c.engine s.engine
             aliases := .named (old.override chosen) }

/-! ## Files -/

/-- The text of settings.  Settings that are null are left out. -/
def render (s : Settings) : Except Toml.PrintFault String :=
  let plain := [("contract", s.contract), ("output", s.output), ("engine", s.engine)]
  match s.aliases with
  | .named m => Toml.render plain "aliases" (some m)
  | .other v => Toml.render (plain ++ [("aliases", v)]) "aliases" none

/-- Why settings are not saved. -/
inductive SaveFault where
  /-- The file cannot be written. -/
  | file (fault : FileFault)
  /-- The settings have no text. -/
  | print (fault : Toml.PrintFault)

/-- Writes settings to a file.  It is opened first, so if they have no text it is left
empty. -/
def save (s : Settings) (t : FileTree) (path : String) : Option SaveFault × FileTree :=
  match t.openFile path with
  | .error fault => (some (.file fault), t)
  | .ok (p, opened) =>
    match s.render with
    | .error fault => (some (.print fault), opened)
    | .ok text =>
      let (problem, after) := opened.store p text.toUTF8
      (problem.map fun problem => .file ⟨problem, path⟩, after)

/-- Settings from the entries of a file. -/
def ofEntries (es : Entries Value) : Except SettingsFault Settings :=
  let standard : Settings := {}
  match ((es.get? "aliases").getD (.table [])).toTable with
  | .ok aliases =>
    .ok { contract := (es.get? "contract").getD standard.contract
          output := (es.get? "output").getD standard.output
          engine := (es.get? "engine").getD standard.engine
          aliases := .named aliases }
  | .error (.wrongSize ..) => .error .wrongSize
  | .error .wrongType => .error .wrongType

/-- What came of reading a settings file. -/
inductive FileOutcome where
  /-- Settings. -/
  | settings (s : Settings)
  /-- The file cannot be used, and the user is told. -/
  | unusable (fault : SettingsFault)
  /-- The file ends the run. -/
  | fatal (fault : Toml.Fault)

/-- Settings from the content of a file. -/
def ofBytes (bytes : ByteArray) : FileOutcome :=
  match Text.Utf8.decode bytes with
  | .error _ => .unusable .undecodable
  | .ok text =>
    match Toml.parse (.ofList (Markup.unifyLineEnds text.toList)) with
    | .error .malformed => .unusable .malformed
    | .error .wrongType => .unusable .wrongType
    | .error fault => .fatal fault
    | .ok es =>
      match ofEntries es with
      | .ok s => .settings s
      | .error fault => .unusable fault

/-- The settings file to use.  One in the directory that is searched goes
first. -/
def filePath (t : FileTree) (path : String) (searched : Option String) : String :=
  match searched with
  | some d =>
    let inside := Path.join d fileName
    if d ≠ "" ∧ t.isDirectory d ∧ t.pathExists inside then inside else path
  | none => path

/-- The settings in a file, if there is one.  A file that cannot be used counts
as none, and the user is told.  Some files end the run. -/
def load (t : FileTree) (path : String) (searched : Option String) :
    Except Toml.Fault (Option Settings × List Notice) :=
  let path := filePath t path searched
  if !t.pathExists path then .ok (none, [])
  else
    match t.read path with
    | .error _ => .ok (none, [.settingsUnusable path .isDirectory])
    | .ok bytes =>
      match ofBytes bytes with
      | .settings s => .ok (some s, [])
      | .unusable fault => .ok (none, [.settingsUnusable path fault])
      | .fatal fault => .error fault

end Settings

end ContractClient
