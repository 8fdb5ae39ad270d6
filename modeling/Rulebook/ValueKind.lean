import Rulebook.Operator
import Rulebook.Text.Blank
import Rulebook.Text.Lowercase
import Rulebook.Number.Reading
import Rulebook.Time.Reading

/-!
# Kinds of values

The kind of a condition's value says how its stored text is read and which operators make sense.

Lists are stored with commas between the items; blanks around an item do not count and blank items
are dropped. A single value that is missing or blank is `null`, except that a text is always kept as
it is.
-/

namespace Rulebook

open Rulebook.Text Rulebook.Number Rulebook.Time

/-- The kind of a condition's value. -/
inductive ValueKind where
  | boolean
  | int
  | float
  | string
  | datetime
  | intArray
  | floatArray
  | stringArray
  deriving DecidableEq, Repr, Inhabited

/-- Why a stored text cannot be read. -/
inductive ReadingFault where
  /-- The text is no truth value. -/
  | notBoolean (raw : String)
  /-- The text is no number or moment. -/
  | unreadable
  deriving DecidableEq, Repr

/-- The wording of a fault, where it has one. -/
def ReadingFault.message? : ReadingFault → Option String
  | .notBoolean raw => some ("Not a boolean: " ++ quoted raw)
  | .unreadable => none

namespace ValueKind

/-- All kinds. -/
def all : List ValueKind :=
  [boolean, int, float, string, datetime, intArray, floatArray, stringArray]

/-- The name under which a kind is stored. -/
def name : ValueKind → String
  | boolean => "boolean"
  | int => "int"
  | float => "float"
  | string => "string"
  | datetime => "datetime"
  | intArray => "int_array"
  | floatArray => "float_array"
  | stringArray => "string_array"

/-- The kind of a name. -/
def ofName? (s : String) : Option ValueKind := all.find? fun k => k.name == s

/-- The kind of the items of a list kind. -/
def itemKind? : ValueKind → Option ValueKind
  | intArray => some int
  | floatArray => some float
  | stringArray => some string
  | _ => none

/-- The kind holds lists. -/
def isArray (k : ValueKind) : Bool := k.itemKind?.isSome

/-- The operators for values that have an order. -/
def orderOperators : List Operator :=
  [.equal, .notEqual, .greater, .atLeast, .less, .atMost, .isNull, .isNotNull]

/-- The operators for lists. -/
def listOperators : List Operator := [.anyIn, .noneIn, .allIn, .notAllIn]

/-- The operators that make sense for values of the kind. -/
def operators : ValueKind → List Operator
  | boolean => [.equal, .notEqual]
  | int => orderOperators
  | float => orderOperators
  | datetime => orderOperators
  | string =>
    [.equal, .notEqual, .contains, .notContains, .startsWith, .endsWith, .isEmpty, .isNotEmpty]
  | intArray => listOperators
  | floatArray => listOperators
  | stringArray => listOperators

/-! ## Reading stored texts -/

/-- Reads a truth value. -/
def readBool (raw : String) : Except ReadingFault Value :=
  let word := lowercase (strip raw)
  if ["true", "1", "yes"].contains word then .ok (.bool true)
  else if ["false", "0", "no"].contains word then .ok (.bool false)
  else .error (.notBoolean raw)

/-- Reads a text that is not blank as a single value. -/
def readSingle (k : ValueKind) (raw : String) : Except ReadingFault Value :=
  let found {α : Type} (value : Option α) (wrap : α → Value) : Except ReadingFault Value :=
    match value with
    | some v => .ok (wrap v)
    | none => .error .unreadable
  match k with
  | boolean => readBool raw
  | int => found (readInt? (strip raw)) .int
  | float => found (readDouble? (strip raw)) .double
  | datetime => found (readMoment? (strip raw)) .moment
  | _ => .ok (.text raw)

/-- The parts of a list of characters between the commas. -/
def commaParts : List Char → List (List Char)
  | [] => [[]]
  | c :: rest =>
    if c = ',' then [] :: commaParts rest
    else match commaParts rest with
      | [] => [[c]]
      | part :: parts => (c :: part) :: parts

/-- The items of a stored list, without the blanks around them and without blank items. -/
def listItems (raw : String) : List String :=
  ((commaParts raw.toList).map fun part => String.ofList (trimList isBlank part)).filter (· ≠ "")

/-- Reads a stored text as a value of the kind. -/
def convert (k : ValueKind) (raw : Option String) : Except ReadingFault Value :=
  match k.itemKind? with
  | some item =>
    match raw with
    | none => .ok (.list [])
    | some raw => do return .list (← (listItems raw).mapM item.readSingle)
  | none =>
    match raw with
    | none => .ok .null
    | some raw =>
      if k ≠ string && isBlankText raw then .ok .null else k.readSingle raw

end ValueKind

end Rulebook
