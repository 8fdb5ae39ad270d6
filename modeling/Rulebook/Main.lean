import Rulebook.CommandLine.Run
import Rulebook.Http.Api
import Rulebook.Store.Snapshot

/-!
# The program

The outer layer: the environment, the file of the database, and the standard streams. The database
is a file that holds a snapshot of the store; a file that is missing is a database without tables.

Serving reads one request a line, an object with the members `method`, `path` and `body`, and
writes one answer a line.
-/

namespace Rulebook.Program

open Rulebook.CommandLine

/-- The names of the variables that hold settings. -/
def variableNames : List String :=
  ["APP_NAME", "APP_VERSION", "DEBUG", "LOG_LEVEL", "HOST", "PORT", "ALLOWED_ORIGINS",
   "DATABASE_URL", "DATABASE_POOL_SIZE", "DATABASE_MAX_OVERFLOW", "DATABASE_ECHO",
   "DEFAULT_LANGUAGE", "DESCRIPTOR_PAGE_SIZE", "MAX_RULE_SET_DEPTH"]

/-- The variables of the environment that hold settings. -/
def readEnvironment : IO (List (String × String)) :=
  variableNames.filterMapM fun name => do return (← IO.getEnv name).map fun v => (name, v)

/-- The file of the database, where the settings name one. -/
def databaseFile? (environment : List (String × String)) : Option String :=
  match Settings.read environment [] with
  | .ok s => s.databaseFile?
  | .error _ => none

/-- The text of a file, if it can be read. -/
def textOf (path : String) : IO (Option String) := do
  try return some (← IO.FS.readFile path) catch _ => return none

/-- Reads the database from its file. -/
def readDatabase (file : Option String) : IO Database := do
  let some path := file | return none
  let some text ← textOf path | return none
  match Json.parse text with
  | .error _ => throw (IO.userError (path ++ " holds no snapshot"))
  | .ok j =>
    match Checked.store j with
    | .ok s => return some s
    | .issues found => throw (IO.userError (path ++ ": " ++ (Issue.report found).render))

/-- Writes the tables of a database to its file. -/
def writeDatabase (file : Option String) (db : Database) : IO Unit :=
  match file, db with
  | some path, some s => IO.FS.writeFile path (s.toJson.renderLines ++ "\n")
  | _, _ => pure ()

/-- The request that a line holds. -/
def requestOf (line : String) : Http.Request :=
  match Json.parse line with
  | .ok j =>
    let member (name : String) : String := ((j.member? name).bind Json.text?).getD ""
    ⟨member "method", .read (member "path"), member "body"⟩
  | .error _ => ⟨"", .read "", ""⟩

/-- The line of an answer. -/
def answerLine (r : Http.Response) : String :=
  let body := match r.body with
    | .json j => [("body", j)]
    | .text s => [("body", Json.text s)]
    | .page => []
    | .nothing => []
  (Json.object (("status", .int r.status) :: body)).render

/-- Answers requests until there are no more. -/
partial def serve (api : Http.Api) (s : Store) (input output : IO.FS.Stream) : IO Unit := do
  let line ← input.getLine
  if line.isEmpty then return
  let (api, r) := api.answer s (requestOf line)
  output.putStrLn (answerLine r)
  output.flush
  serve api s input output

/-- Serves the interface of the settings. -/
def serveSettings (environment : List (String × String)) (db : Database) : IO Unit := do
  match Settings.read environment [] with
  | .ok cfg => serve (.ofSettings cfg) (db.getD .empty) (← IO.getStdin) (← IO.getStdout)
  | .error _ => pure ()

/-- Prints how a run ended, and gives the exit code. -/
def finish (environment : List (String × String)) (db : Database) : Ending → IO UInt32
  | .halted .help => do IO.print usage; return 0
  | .halted .version => do IO.println (programName ++ " " ++ programVersion); return 0
  | .halted .refused => do IO.eprint usage; return 2
  | .usage => do IO.print usage; return 0
  | .unsettled (.invalid issues) => do IO.eprintln (Issue.report issues).render; return 1
  | .unsettled _ => do IO.eprintln "The settings cannot be read."; return 1
  | .failed .noTables => do IO.eprintln "The database has no tables."; return 1
  | .failed _ => do IO.eprintln "The command failed."; return 1
  | .reported r => do
    IO.print r.output
    IO.eprint r.errors
    return r.code.toUInt32
  | .serving title _ _ => do
    IO.eprintln ("Serving " ++ title)
    serveSettings environment db
    return 0

/-- Runs the program on the words of a command line. The file of the database is written when its
tables are made. -/
def start (args : List String) : IO UInt32 := do
  let environment ← readEnvironment
  let file := databaseFile? environment
  let before ← readDatabase file
  let (after, ending) := CommandLine.run environment before args
  if before.isNone && after.isSome then writeDatabase file after
  finish environment after ending

end Rulebook.Program

/-- The entry point. -/
def main (args : List String) : IO UInt32 := Rulebook.Program.start args
