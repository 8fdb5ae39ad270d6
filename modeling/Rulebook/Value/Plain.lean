import Rulebook.Value.Basic

/-!
# Values as JSON

A JSON value is read as a value by reading its objects as dictionaries with texts as keys. In the
other direction tuples and sets become arrays, a moment becomes its text, and a double that is not
finite becomes `null`.
-/

namespace Rulebook.Value

open Rulebook.Number

mutual

/-- The value of a JSON value. -/
def ofJson : Json → Value
  | .null => .null
  | .bool b => .bool b
  | .int n => .int n
  -- all texts of JSON share one object for not a number
  | .double .nan => .sharedNan 0
  | .double d => .double d
  | .text s => .text s
  | .array items => .list (ofJsonItems items)
  | .object members => .dict (ofJsonMembers members)

/-- The values of the items of an array. -/
def ofJsonItems : List Json → List Value
  | [] => []
  | j :: rest => ofJson j :: ofJsonItems rest

/-- The entries of the members of an object. -/
def ofJsonMembers : List (String × Json) → List (Value × Value)
  | [] => []
  | (name, j) :: rest => (.text name, ofJson j) :: ofJsonMembers rest

end

/-- The JSON value of a double. -/
def jsonOfDouble : Double → Json
  | .nan => .null
  | .infinity _ => .null
  | d => .double d

/-- The name under which an entry with the given key is written. -/
def memberName : Value → String
  | .text s => s
  | .null => "None"
  | .bool b => if b then "true" else "false"
  | .int n => toString n
  | .moment m => m.text 'T'
  | _ => ""

mutual

/-- The JSON value of a value. -/
def toJson : Value → Json
  | .null => .null
  | .bool b => .bool b
  | .int n => .int n
  | .double d => jsonOfDouble d
  | .sharedNan _ => .null
  | .text s => .text s
  | .moment m => .text (m.text 'T')
  | .list items => .array (toJsonItems items)
  | .tuple items => .array (toJsonItems items)
  | .set items => .array (toJsonItems items)
  | .dict entries => .object (toJsonEntries entries)

/-- The JSON values of a list of values. -/
def toJsonItems : List Value → List Json
  | [] => []
  | v :: rest => toJson v :: toJsonItems rest

/-- The members of the entries of a dictionary. -/
def toJsonEntries : List (Value × Value) → List (String × Json)
  | [] => []
  | (k, v) :: rest => (memberName k, toJson v) :: toJsonEntries rest

end

end Rulebook.Value
