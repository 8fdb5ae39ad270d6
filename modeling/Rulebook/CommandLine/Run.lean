import Rulebook.CommandLine.Command
import Rulebook.Display

/-!
# Running commands

What the commands do with a database, and what they print. A database may have no tables yet.

An error of the rule engine is reported, with the exit code two. A rule set that cannot be shown
because it is missing or not active gives the exit code one. Every other failure ends the program.
-/

namespace Rulebook.CommandLine

/-- The name of the program. -/
def programName : String := "ruleset-engine"

/-- The version of the program. -/
def programVersion : String := "0.1.0"

/-- How the program is used. -/
def usage : String :=
  "usage: " ++ programName ++ " [-h] [--version] COMMAND ...\n\n" ++
    "commands:\n" ++
    "  init-db                 create the tables of the database\n" ++
    "  descriptors [--scope SCOPE]\n" ++
    "                          list the kinds of conditions of a scope\n" ++
    "  show [--include-hidden] [--language LANGUAGE] ID\n" ++
    "                          show a compiled rule set as JSON\n" ++
    "  serve                   answer HTTP requests\n"

/-- A database: its tables, if it has them. -/
abbrev Database := Option Store

/-- The exit code of a command, and what it prints. -/
structure Report where
  code : Nat
  output : String
  errors : String
  deriving DecidableEq, Repr

/-- How a run of the program ends. -/
inductive Ending where
  | halted (h : Halt)
  /-- No command is named, and the usage is shown. -/
  | usage
  /-- The settings cannot be read. -/
  | unsettled (f : SettingsFault)
  | failed (f : Failure)
  | reported (r : Report)
  /-- The HTTP interface of this title is served at an address. -/
  | serving (title host : String) (portNumber : Int)

namespace Report

/-- A command that succeeds. -/
def success (output : String) : Report := ⟨0, output, ""⟩

/-- A command that finds nothing to show. -/
def nothing (line : String) : Report := ⟨1, "", line ++ "\n"⟩

/-- A command that meets an error of the rule engine. -/
def refused (e : RuleError) : Report := ⟨2, "", "Error: " ++ e.message ++ "\n"⟩

end Report

/-- The ending of a result. -/
def Ending.ofResult : Result Report → Ending
  | .ok r => .reported r
  | .error (.rule e) => .reported (.refused e)
  | .error f => .failed f

/-! ## The commands -/

/-- The line of a descriptor: its name, its display name and its operators. -/
def descriptorLine (d : Descriptor) : String :=
  d.name ++ "\t" ++ d.displayName.getD "" ++ "\t" ++
    ", ".intercalate (d.operators.map Operator.name) ++ "\n"

/-- Lists the descriptors of a scope. -/
def scopeReport (e : Engine) (db : Database) (scope : Scope) : Result Report :=
  match db with
  | some s => (e.listDescriptors s scope.name).2.map fun ds =>
      .success (String.join (ds.map descriptorLine))
  | none =>
    match e.findProvider scope.name with
    | .error f => .error (.rule f)
    | .ok _ => .error .noTables

/-- The report of a rule set that was to be shown. -/
def shownReport (id : Int) : Shown → Report
  | .notFound => .nothing ("Rule set " ++ toString id ++ " not found.")
  | .inactive => .nothing ("Rule set " ++ toString id ++ " is inactive.")
  | .group g => .success (g.toExpr.toJson.renderLines ++ "\n")

/-- Shows a rule set. -/
def ruleSetReport (e : Engine) (db : Database) (id : Int) (includeHidden : Bool)
    (language : Option String) : Result Report :=
  match db with
  | some s => (e.showRuleSet s id includeHidden language).2.map (shownReport id)
  | none => .error .noTables

/-- Runs a command. -/
def Command.run (cfg : Settings) (db : Database) : Command → Database × Ending
  | .createTables =>
    (some (db.getD .empty), .reported (.success "Database tables created.\n"))
  | .listDescriptors scope => (db, .ofResult (scopeReport (.ofSettings cfg) db scope))
  | .showRuleSet id includeHidden language =>
    (db, .ofResult (ruleSetReport (.ofSettings cfg) db id includeHidden language))
  | .serve => (db, .serving cfg.appName cfg.host cfg.portNumber)

/-- Runs the program on the words of a command line, with the variables of an environment. -/
def run (environment : List (String × String)) (db : Database) (args : List String) :
    Database × Ending :=
  match Command.read args with
  | .error h => (db, .halted h)
  | .ok none => (db, .usage)
  | .ok (some c) =>
    match Settings.read environment [] with
    | .error f => (db, .unsettled f)
    | .ok cfg => c.run cfg db

end Rulebook.CommandLine
