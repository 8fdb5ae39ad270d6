import Rulebook.Validation.Scalars
import Rulebook.Json.Parser
import Rulebook.Text.Lowercase
import Rulebook.Text.Pattern

/-!
# Settings

The settings of the program. They are read from variables of the environment, whose names count in
any case, and from values given directly, which win. Only the place of the database has no value of
its own.

`KeptSettings` are read once, and stay whatever becomes of the variables. `Settings.connection` says
how the database is opened.
-/

namespace Rulebook

open Rulebook.Text

/-- How much is logged. -/
inductive LogLevel where
  | debug
  | info
  | warning
  | error
  | critical
  deriving DecidableEq, Repr

namespace LogLevel

/-- The name of a level. -/
def name : LogLevel → String
  | debug => "DEBUG"
  | info => "INFO"
  | warning => "WARNING"
  | error => "ERROR"
  | critical => "CRITICAL"

/-- The level of a name. -/
def ofName? (s : String) : Option LogLevel :=
  [debug, info, warning, error, critical].find? fun l => l.name == s

end LogLevel

/-- The settings of the program. -/
structure Settings where
  appName : String
  appVersion : String
  debug : Bool
  logLevel : LogLevel
  host : String
  portNumber : Int
  allowedOrigins : List String
  databaseUrl : String
  databasePoolSize : Int
  databaseMaxOverflow : Int
  databaseEcho : Bool
  defaultLanguage : String
  descriptorPageSize : Int
  maxRuleSetDepth : Int
  deriving DecidableEq, Repr

/-- Why settings cannot be read. -/
inductive SettingsFault where
  /-- A variable that should hold JSON does not. -/
  | malformed
  /-- The place of the database is no text. -/
  | unusableUrl
  | invalid (issues : List Issue)
  deriving Repr

/-! ## Reading -/

namespace Checked

/-- Reads a level of logging. -/
def logLevel : Json → Checked LogLevel
  | .text s =>
    match LogLevel.ofName? s with
    | some l => ok l
    | none => fault .literal
  | _ => fault .literal

/-- Reads a list of texts. -/
def texts : Json → Checked (List String)
  | .array js => items text 0 js
  | _ => fault .listType

/-- Reads a language: without blanks around it, in lower case, and of two characters at least. -/
def languageName : Json → Checked String
  | .text s => longText 2 (.text (lowercase (strip s)))
  | j => longText 2 j

/-- The scheme of a database server. -/
def serverScheme : List Char := "postgresql://".toList

/-- Reads the place of the database; a server is always reached through the same driver. -/
def databaseUrl (j : Json) : Checked String :=
  (fun s => if serverScheme.isPrefixOf s.toList then
    "postgresql+asyncpg://" ++ String.ofList (s.toList.drop serverScheme.length) else s) <$> text j

/-- Reads settings from an object with their names in lower case. -/
def settings (j : Json) : Checked Settings :=
  Settings.mk <$> optional "app_name" "Rule Set Engine" text j <*>
    optional "app_version" "0.1.0" text j <*> optional "debug" false bool j <*>
    optional "log_level" .info logLevel j <*> optional "host" "0.0.0.0" text j <*>
    optional "port" 8000 int j <*>
    optional "allowed_origins" ["http://localhost:3000", "http://localhost:8000"] texts j <*>
    required "database_url" databaseUrl j <*>
    optional "database_pool_size" 5 (intBetween (some 1) (some 50)) j <*>
    optional "database_max_overflow" 10 (intBetween (some 0) (some 50)) j <*>
    optional "database_echo" false bool j <*> optional "default_language" "en" languageName j <*>
    optional "descriptor_page_size" 1000 (intBetween (some 1) none) j <*>
    optional "max_rule_set_depth" 16 (intBetween (some 1) none) j

end Checked

namespace Settings

/-- The setting whose variable holds JSON. -/
def jsonName : String := "allowed_origins"

/-- The value of a variable; one that holds JSON may hold nothing. -/
def valueOfVariable (name text : String) : Except SettingsFault (Option Json) :=
  if name = jsonName then
    match Json.parse text with
    | .ok j => .ok j.present?
    | .error _ => .error .malformed
  else .ok (some (.text text))

/-- The variables of an environment by name in lower case, later ones winning. -/
def variablesByName (environment : List (String × String)) : List (String × Json) :=
  environment.foldl (fun ms v => Json.putMember (lowercase v.1) (.text v.2) ms) []

/-- The members that variables give. -/
def ofVariables : List (String × Json) → Except SettingsFault (List (String × Json))
  | [] => .ok []
  | (name, value) :: rest => do
    let value ← valueOfVariable name (value.text?.getD "")
    let more ← ofVariables rest
    return (value.map fun j => (name, j)).toList ++ more

/-- Reads settings from the variables of an environment and from values given directly. -/
def read (environment : List (String × String)) (given : List (String × Json)) :
    Except SettingsFault Settings := do
  let fromVariables ← ofVariables (variablesByName environment)
  let named := given.map fun m => (lowercase m.1, m.2)
  let all := named.foldl (fun ms m => Json.putMember m.1 m.2 ms) fromVariables
  -- the place of the database is looked at before everything else
  match all.lookup "database_url" with
  | some (.text _) | none => pure ()
  | some _ => throw .unusableUrl
  match (Checked.settings (.object all)).toExcept with
  | .ok s => return s
  | .error issues => throw (.invalid issues)

/-- The database is a file or lies in memory. -/
def isSqlite (s : Settings) : Bool := "sqlite".toList.isPrefixOf s.databaseUrl.toList

/-- The file that holds the database, if it is one: what follows the third slash of its place. -/
def databaseFile? (s : Settings) : Option String :=
  let url := s.databaseUrl.toList
  let path := ((url.dropWhile (· ≠ '/')).drop 3)
  if s.isSqlite && !occursIn ":memory:".toList url && !path.isEmpty then some (String.ofList path)
  else none

/-- The greatest number of rule sets on a path. -/
def maxDepth (s : Settings) : Nat := s.maxRuleSetDepth.toNat

end Settings

/-! ## Kept settings -/

/-- The settings that were read last, until they are cleared. -/
structure KeptSettings where
  settings? : Option Settings

namespace KeptSettings

/-- Nothing is kept. -/
def empty : KeptSettings := ⟨none⟩

/-- The settings that are kept, or else those of the environment, which are then kept. Settings that
cannot be read leave nothing behind, so the next try reads them anew. -/
def get (k : KeptSettings) (environment : List (String × String)) :
    KeptSettings × Except SettingsFault Settings :=
  match k.settings? with
  | some s => (k, .ok s)
  | none =>
    match Settings.read environment [] with
    | .ok s => (⟨some s⟩, .ok s)
    | .error f => (k, .error f)

/-- Drops the settings that are kept. -/
def clear (_ : KeptSettings) : KeptSettings := empty

end KeptSettings

/-! ## Connection -/

/-- How a database is opened. -/
inductive Connection where
  /-- In memory, where all share one connection. -/
  | inMemory
  /-- A file. -/
  | file
  /-- A server, through a pool of connections. -/
  | server (poolSize maxOverflow : Int)
  deriving DecidableEq, Repr

/-- How the database of the settings is opened. -/
def Settings.connection (s : Settings) : Connection :=
  let url := s.databaseUrl.toList
  if !s.isSqlite then .server s.databasePoolSize s.databaseMaxOverflow
  else if occursIn ":memory:".toList url || "://".toList.isSuffixOf url then .inMemory
  else .file

end Rulebook
