import Rulebook.CommandLine.Word
import Rulebook.Scope

/-!
# Commands

The commands of the program, and how the words of a command line are read as one. Words are read one
after the other: the first that asks for help, or cannot be read, decides. Words that no command can
use, and an operand that is missing, are noticed last.
-/

namespace Rulebook.CommandLine

open Rulebook.Number

/-- What the program is told to do. -/
inductive Command where
  | createTables
  | listDescriptors (scope : Scope)
  | showRuleSet (id : Int) (includeHidden : Bool) (language : Option String)
  | serve
  deriving DecidableEq, Repr

/-- Why a command line leads to no command. -/
inductive Halt where
  | help
  | version
  | refused
  deriving DecidableEq, Repr

/-! ## Items of a command -/

/-- Reads items one after the other, each with `take`, which gives nothing for an item that is
surplus. The second part tells whether there was one. -/
def readItems {σ : Type} (take : σ → Item → Except Halt (Option σ)) (s : σ) (surplus : Bool) :
    List Item → Except Halt (σ × Bool)
  | [] => .ok (s, surplus)
  | .faulty :: _ => .error .refused
  | .surplus :: rest => readItems take s true rest
  | item :: rest =>
    if item = .flag helpSwitch.name then .error .help
    else match take s item with
      | .error h => .error h
      | .ok none => readItems take s true rest
      | .ok (some next) => readItems take next surplus rest

/-- Reads the words of a command that knows these switches besides the one for help. -/
def readWords {σ : Type} (switches : List Switch) (take : σ → Item → Except Halt (Option σ))
    (start : σ) (args : List String) : Except Halt σ :=
  let words := wordsOf (helpSwitch :: switches) args
  if words.contains .ambiguous then .error .refused
  else match readItems take start false (itemsOf words) with
    | .error h => .error h
    | .ok (_, true) => .error .refused
    | .ok (s, false) => .ok s

/-! ## The commands -/

/-- Reads the words of a command that takes none. -/
def readNothing (c : Command) (args : List String) : Except Halt Command :=
  (readWords [] (fun (_ : Unit) _ => .ok none) () args).map fun _ => c

/-- The switch that names a scope. -/
def scopeSwitch : Switch := ⟨"--scope", true⟩

/-- Takes the scope. -/
def takeScope (_ : Scope) : Item → Except Halt (Option Scope)
  | .value _ v =>
    match Scope.ofName? v with
    | some s => .ok (some s)
    | none => .error .refused
  | _ => .ok none

/-- Reads the words of the command that lists descriptors. -/
def readListing (args : List String) : Except Halt Command :=
  (readWords [scopeSwitch] takeScope .productAttribute args).map .listDescriptors

/-- The switch that names a language. -/
def languageSwitch : Switch := ⟨"--language", true⟩

/-- The switch that includes rule sets that are not active. -/
def hiddenSwitch : Switch := ⟨"--include-hidden", false⟩

/-- What was read of the wish to see a rule set. -/
structure ShowWish where
  id : Option Int
  /-- The number was the item before. -/
  afterId : Bool
  includeHidden : Bool
  language : Option String
  deriving Repr

/-- Takes one item of the wish to see a rule set. The mark is of use before the number and just
after it. -/
def takeShowItem (w : ShowWish) : Item → Except Halt (Option ShowWish)
  | .operand s =>
    if w.id.isSome then .ok none
    else match readInt? s with
      | some id => .ok (some { w with id := some id, afterId := true })
      | none => .error .refused
  | .mark => .ok (if w.id.isNone || w.afterId then some { w with afterId := false } else none)
  | .value _ v => .ok (some { w with language := some v, afterId := false })
  | .flag _ => .ok (some { w with includeHidden := true, afterId := false })
  | _ => .ok none

/-- Reads the words of the command that shows a rule set. -/
def readShowing (args : List String) : Except Halt Command :=
  match readWords [hiddenSwitch, languageSwitch] takeShowItem ⟨none, false, false, none⟩ args with
  | .error h => .error h
  | .ok w =>
    match w.id with
    | none => .error .refused
    | some id => .ok (.showRuleSet id w.includeHidden w.language)

/-- Reads the words after the name of a command. -/
def readNamed (name : String) (args : List String) : Except Halt Command :=
  match name with
  | "init-db" => readNothing .createTables args
  | "descriptors" => readListing args
  | "show" => readShowing args
  | "serve" => readNothing .serve args
  | _ => .error .refused

/-! ## The whole line -/

/-- The switch that asks for the version. -/
def versionSwitch : Switch := ⟨"--version", false⟩

/-- The switches that may stand before a command. -/
def programSwitches : List Switch := [helpSwitch, versionSwitch]

/-- Reads words up to the name of a command, which takes all the words after it. -/
def readProgram (surplus : Bool) : List String → Except Halt (Option Command)
  | [] => if surplus then .error .refused else .ok none
  | s :: rest =>
    match wordOf programSwitches s with
    -- the words after the name belong to the command, also those like switches of the program
    | .operand name =>
      match readNamed name rest with
      | .error h => .error h
      | .ok c => if surplus then .error .refused else .ok (some c)
    | .switch o none => .error (if o = versionSwitch then .version else .help)
    | .unknown => readProgram true rest
    | .switch _ (some _) | .mark | .ambiguous => .error .refused

/-- The command of a command line, if it names one. -/
def Command.read (args : List String) : Except Halt (Option Command) :=
  if (wordsOf programSwitches args).contains .ambiguous then .error .refused
  else readProgram false args

end Rulebook.CommandLine
