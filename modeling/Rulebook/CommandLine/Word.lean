import Rulebook.Number.Reading

/-!
# Words of a command line

What the words of a command line are: switches, operands, or the mark `--`, after which all words
are operands.

The name of a switch may be cut short as long as it stays the only one that begins so, and its value
may follow it after an equals sign. `-h` is short for `--help`. A word that looks like a negative
number and an unknown word with a space in it are operands.
-/

namespace Rulebook.CommandLine

open Rulebook.Text

/-- A switch that a command knows. -/
structure Switch where
  name : String
  takesValue : Bool
  deriving DecidableEq, Repr

/-- The switch that asks for help. -/
def helpSwitch : Switch := ⟨"--help", false⟩

/-- What a word is. -/
inductive Word where
  | operand (s : String)
  /-- A switch, perhaps with a value in the same word. -/
  | switch (s : Switch) (value : Option String)
  /-- The mark before words that are all operands. -/
  | mark
  /-- A word that could be several switches. -/
  | ambiguous
  /-- A word like a switch that is none. -/
  | unknown
  deriving DecidableEq, Repr

/-! ## One word -/

/-- The word is written like a negative number. A line break may end it. -/
def isNegativeNumber (cs : List Char) : Bool :=
  let body := if cs.getLast? = some '\n' then cs.dropLast else cs
  let isDigit (c : Char) : Bool := (digitValue? c).isSome
  match body with
  | '-' :: rest =>
    match rest.dropWhile isDigit with
    | [] => !rest.isEmpty
    | '.' :: fraction => !fraction.isEmpty && fraction.all isDigit
    | _ => false
  | _ => false

/-- The word that begins like a switch and is none. -/
def otherWord (s : String) : Word :=
  if isNegativeNumber s.toList || s.toList.contains ' ' then .operand s else .unknown

/-- The characters after `-h` leave it a request for help. -/
def leavesHelp : List Char → Bool
  | [] => true
  | 'h' :: rest => leavesHelp rest
  | c :: _ => c ≠ '=' && c ≠ '-'

/-- The word that is, or begins with, the name of a switch. -/
def longWord (switches : List Switch) (s : String) : Word :=
  let name := s.toList.takeWhile (· ≠ '=')
  let value := match s.toList.dropWhile (· ≠ '=') with
    | [] => none
    | _ :: rest => some (String.ofList rest)
  -- a name cut short fits every switch that begins so
  match switches.filter fun o => name.isPrefixOf o.name.toList with
  | [] => otherWord s
  | [o] => .switch o value
  | _ => .ambiguous

/-- What a word is for a command that knows these switches. -/
def wordOf (switches : List Switch) (s : String) : Word :=
  match s.toList with
  | ['-', '-'] => .mark
  | '-' :: '-' :: _ => longWord switches s
  | '-' :: 'h' :: rest =>
    .switch helpSwitch (if leavesHelp rest then none else some (String.ofList rest))
  | '-' :: _ :: _ => otherWord s
  | _ => .operand s

/-- What the words of a command are. -/
def wordsOf (switches : List Switch) : List String → List Word
  | [] => []
  | s :: rest =>
    match wordOf switches s with
    | .mark => .mark :: rest.map .operand
    | w => w :: wordsOf switches rest

/-! ## Items -/

/-- What is read from words one after the other. -/
inductive Item where
  | flag (name : String)
  | value (name s : String)
  | operand (s : String)
  | mark
  /-- A word that no command can use. -/
  | surplus
  /-- A switch without its value, or with a value that it does not take. -/
  | faulty
  deriving DecidableEq, Repr

/-- The items of a command: a switch that takes a value takes it from its own word or from the
operand after it. -/
def itemsOf : List Word → List Item
  | [] => []
  | .operand s :: rest => .operand s :: itemsOf rest
  | .mark :: rest => .mark :: itemsOf rest
  | .unknown :: rest => .surplus :: itemsOf rest
  | .ambiguous :: rest => .faulty :: itemsOf rest
  | .switch o (some v) :: rest => (if o.takesValue then .value o.name v else .faulty) :: itemsOf rest
  -- the operand after a switch is its value if it takes one
  | .switch o none :: .operand v :: rest =>
    if o.takesValue then .value o.name v :: itemsOf rest
    else .flag o.name :: .operand v :: itemsOf rest
  | .switch o none :: rest => (if o.takesValue then .faulty else .flag o.name) :: itemsOf rest

end Rulebook.CommandLine
