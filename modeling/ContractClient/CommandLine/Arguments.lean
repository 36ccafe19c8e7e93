import ContractClient.Settings
import ContractClient.Text.Character

/-!
# Arguments of the command line

The command line is a list of words.  A *switch* is a word that starts with two
hyphens, and may be shortened as long as one switch only is meant.  Some switches
take a value, which is the next word or follows an equals sign.

All words are sorted into switches and plain words before any is worked off.  A
plain word that is no value of a switch has no meaning, nor has an unknown
switch, but both are complained about only at the end.  So a call for help in
between is heard.
-/

namespace ContractClient.CommandLine

/-! ## Switches -/

/-- What a word can ask for. -/
inductive Switch where
  /-- Show how to call the program. -/
  | help
  /-- The contract. -/
  | contract
  /-- The output directory. -/
  | output
  /-- Another name for a service. -/
  | rename
  /-- The engine. -/
  | engine
  /-- Write a settings file. -/
  | initConfig
  /-- Do not ask. -/
  | force
  /-- Tell more. -/
  | verbose
  deriving DecidableEq, Repr

namespace Switch

/-- The words for the switches. -/
def table : List (String × Switch) :=
  [("-h", help), ("--help", help), ("--contract", contract), ("--output", output),
   ("--alias", rename), ("--engine", engine), ("--init-config", initConfig), ("--force", force),
   ("--verbose", verbose)]

/-- Whether a switch takes a value. -/
def takesValue : Switch → Bool
  | contract | output | rename | engine => true
  | _ => false

/-- The switches whose word starts with a text. -/
def startingWith (s : String) : List Switch :=
  (table.filter fun e => s.toList.isPrefixOf e.1.toList).map Prod.snd

end Switch

/-! ## Sorting words -/

/-- What a word is. -/
inductive Word where
  /-- A switch, with the value behind its equals sign. -/
  | switch (s : Switch) (value : Option String)
  /-- A switch nobody knows. -/
  | unknown
  /-- A plain word. -/
  | plain (s : String)
  /-- The mark behind which all words are plain. -/
  | stop
  deriving DecidableEq, Repr

/-- Why the program does not run. -/
inductive Refusal where
  /-- The words make no sense. -/
  | usage
  /-- Help was called for. -/
  | help
  deriving DecidableEq, Repr

/-- A text without one line break at its end. -/
def cutLineBreak (cs : List Char) : List Char :=
  if cs.getLast? = some '\n' then cs.dropLast else cs

/-- Whether a word is a negative number.  A line break may follow it. -/
def isNegativeNumber (cs : List Char) : Bool :=
  match cutLineBreak cs with
  | '-' :: ds =>
    let whole := ds.takeWhile Text.isDigit
    match ds.drop whole.length with
    | [] => !whole.isEmpty
    | '.' :: places => !places.isEmpty && places.all Text.isDigit
    | _ => false
  | _ => false

/-- A word that starts with a hyphen and is no switch in full. -/
def unclearWord (s : String) : Word :=
  if isNegativeNumber s.toList ∨ ' ' ∈ s.toList then .plain s else .unknown

/-- Whether a text holds the letter for help only. -/
def isHelpRun (cs : List Char) : Bool := cs.all (· == 'h')

/-- A word with one hyphen.  The letter for help may be repeated, and an equals
sign may stand behind the first one.  Anything else behind it is taken for a
value. -/
def shortWord (s : String) : Word :=
  match s.toList with
  | '-' :: 'h' :: '=' :: more =>
    .switch .help (if !more.isEmpty ∧ isHelpRun more then none else some (.ofList more))
  | '-' :: 'h' :: more => .switch .help (if isHelpRun more then none else some (.ofList more))
  | _ => unclearWord s

/-- A word with two hyphens. -/
def longWord (s : String) : Except Refusal Word :=
  let cs := s.toList
  let name := String.ofList (cs.takeWhile (· != '='))
  let value := if '=' ∈ cs then some (String.ofList ((cs.dropWhile (· != '=')).drop 1)) else none
  match (Switch.table.find? (·.1 = name)), Switch.startingWith name with
  | some (_, switch), _ => .ok (.switch switch value)
  | none, [switch] => .ok (.switch switch value)
  | none, [] => .ok (unclearWord s)
  | none, _ => .error .usage

/-- Sorts one word. -/
def sortWord (s : String) : Except Refusal Word :=
  match s.toList with
  | '-' :: '-' :: _ => longWord s
  | '-' :: _ :: _ => .ok (shortWord s)
  | _ => .ok (.plain s)

/-- Sorts all words. -/
def sortWords : List String → Except Refusal (List Word)
  | [] => .ok []
  | s :: ss =>
    if s = "--" then .ok (.stop :: ss.map .plain)
    else do
      let w ← sortWord s
      let ws ← sortWords ss
      return w :: ws

/-! ## Working words off -/

/-- What the command line asks for. -/
structure Arguments where
  /-- What is chosen for the run. -/
  choices : Choices := {}
  /-- Whether a settings file is to be written. -/
  initConfig : Bool := false
  /-- Whether to go on without asking. -/
  force : Bool := false
  /-- Whether to tell more. -/
  verbose : Bool := false

namespace Arguments

/-- Arguments with one switch that takes no value. -/
def setFlag (a : Arguments) : Switch → Arguments
  | .initConfig => { a with initConfig := true }
  | .force => { a with force := true }
  | .verbose => { a with verbose := true }
  | _ => a

/-- The value of a switch.  Two hyphens stand for no words at all. -/
def valueOf (s : String) : Value := if s = "--" then .list [] else .text s

/-- Arguments with one switch that takes a value.  Names for services add up,
and of all else the last counts. -/
def setValue (a : Arguments) (s : Switch) (value : String) : Arguments :=
  let c := a.choices
  let v := valueOf value
  match s with
  | .contract => { a with choices := { c with contract := v } }
  | .output => { a with choices := { c with output := v } }
  | .engine => { a with choices := { c with engine := v } }
  | .rename => { a with choices := { c with aliases := .list (c.aliases.items ++ [v]) } }
  | _ => a

/-- Works off words.  `senseless` says whether there was a word without
meaning. -/
def ofWords (a : Arguments) (senseless : Bool) : List Word → Except Refusal Arguments
  | [] => if senseless then .error .usage else .ok a
  | .switch .help value :: _ => .error (if value.isSome then .usage else .help)
  | [.switch s value] =>
    match s.takesValue, value with
    | true, some v => ofWords (a.setValue s v) senseless []
    | false, none => ofWords (a.setFlag s) senseless []
    | _, _ => .error .usage
  | .switch s value :: w :: ws =>
    match s.takesValue, value, w with
    | true, some v, _ => ofWords (a.setValue s v) senseless (w :: ws)
    | true, none, .plain v => ofWords (a.setValue s v) senseless ws
    | false, none, _ => ofWords (a.setFlag s) senseless (w :: ws)
    | _, _, _ => .error .usage
  | _ :: ws => ofWords a true ws

/-- What a command line asks for. -/
def parse (words : List String) : Except Refusal Arguments := do
  let ws ← sortWords words
  ofWords {} false ws

end Arguments

end ContractClient.CommandLine
