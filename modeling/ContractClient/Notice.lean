import ContractClient.Text.Quoted

/-!
# Notices

While a contract is turned into code, some things are worth telling the user:
names that could not be used, definitions that replace earlier ones, files that
were written.  Each of these is a *notice*.  A function that gives notices gives
them as a list, in the order in which they arise, beside its result.

A notice is a warning or a detail.  `message` is its text.
-/

namespace ContractClient

/-- How important a notice is. -/
inductive Level where
  | detail
  | warning
  deriving DecidableEq, Repr

/-- Why a settings file could not be used. -/
inductive SettingsFault where
  /-- The file is not well formed. -/
  | malformed
  /-- A part of the file has the right type and a wrong size. -/
  | wrongSize
  /-- A part of the file has the wrong type. -/
  | wrongType
  /-- The bytes of the file are no text. -/
  | undecodable
  /-- The path leads to a directory. -/
  | isDirectory
  deriving DecidableEq, Repr

/-- The word for a fault in a message. -/
def SettingsFault.word : SettingsFault → String
  | malformed => "TomlDecodeError"
  | wrongSize => "ValueError"
  | wrongType => "TypeError"
  | undecodable => "UnicodeDecodeError"
  | isDirectory => "IsADirectoryError"

/-- Something worth telling the user. -/
inductive Notice where
  /-- A class without identifier characters was left out. -/
  | unnamedClass (rawName : String)
  /-- A class takes the place of an earlier one of the same name. -/
  | classReplaced (rawName name : String)
  /-- A field or parameter without identifier characters got a name by its
  position. -/
  | unnamedField (rawName name : String)
  /-- A class declares a field twice. -/
  | repeatedField (className name rawName : String)
  /-- The number of classes put in order. -/
  | classesLoaded (count : Nat)
  /-- A service without identifier characters was left out. -/
  | unnamedService (rawName : String)
  /-- A service takes the place of an earlier one of the same name. -/
  | serviceReplaced (rawName name : String)
  /-- An operation without identifier characters was left out. -/
  | unnamedOperation (rawName : String)
  /-- The number of services built. -/
  | servicesLoaded (count : Nat)
  /-- An operation has the name of a function every service class has. -/
  | methodSkipped (className name : String)
  /-- A service class was built. -/
  | serviceEmitted (className : String) (methods entries : Nat)
  /-- A contract document is about to be read. -/
  | fetching (location : String)
  /-- A contract document was read. -/
  | contractLoaded (location : String) (classes services : Nat)
  /-- A file of the user was there already. -/
  | fileKept (path : String)
  /-- A file was written. -/
  | fileWritten (path : String)
  /-- The number of files written. -/
  | filesWritten (count : Nat)
  /-- A settings file could not be used. -/
  | settingsUnusable (path : String) (fault : SettingsFault)
  deriving DecidableEq, Repr

namespace Notice

/-- How important a notice is. -/
def level : Notice → Level
  | classesLoaded _ | servicesLoaded _ | serviceEmitted .. | fetching _ | contractLoaded ..
  | fileKept _ | fileWritten _ | filesWritten _ => .detail
  | _ => .warning

/-- The text of a notice. -/
def message : Notice → String
  | unnamedClass raw => "Класс " ++ Text.quote raw ++ " пропущен: пустое имя"
  | classReplaced raw name =>
    "Класс " ++ Text.quote raw ++ " перезаписывает ранее загруженный " ++ name
  | unnamedField raw name =>
    "Поле " ++ Text.quote raw ++ " не содержит допустимых символов, используется " ++ name
  | repeatedField cls name raw =>
    "Поле " ++ cls ++ "." ++ name ++ " объявлено повторно (" ++ Text.quote raw ++ ")"
  | classesLoaded n => "Загружено классов: " ++ toString n
  | unnamedService raw => "Сервис " ++ Text.quote raw ++ " пропущен: пустое имя"
  | serviceReplaced raw name =>
    "Сервис " ++ Text.quote raw ++ " перезаписывает ранее загруженный " ++ name
  | unnamedOperation raw => "Операция " ++ Text.quote raw ++ " пропущена: пустое имя"
  | servicesLoaded n => "Загружено сервисов: " ++ toString n
  | methodSkipped cls name => "Метод " ++ cls ++ "." ++ name ++ " совпадает со служебным и пропущен"
  | serviceEmitted cls methods entries =>
    "Сервис " ++ cls ++ ": методов " ++ toString methods ++ ", записей classmap " ++
      toString entries
  | fetching location => "Загрузка контракта " ++ location
  | contractLoaded location classes services =>
    "Контракт " ++ location ++ ": классов " ++ toString classes ++ ", сервисов " ++
      toString services
  | fileKept path => "Файл " ++ path ++ " уже существует, пропуск"
  | fileWritten path => "Записан файл " ++ path
  | filesWritten n => "Записано файлов: " ++ toString n
  | settingsUnusable path fault =>
    "Не удалось прочитать конфиг " ++ path ++ ": " ++ fault.word

end Notice

end ContractClient
