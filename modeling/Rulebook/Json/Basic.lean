import Rulebook.Number.Double

/-!
# JSON values

Whole numbers are exact and every other number is a double. The members of an object keep the order
in which their names first appear, and a repeated name keeps its first place and its last value.
-/

namespace Rulebook

open Rulebook.Number

/-- A JSON value. -/
inductive Json where
  | null
  | bool (b : Bool)
  | int (n : Int)
  | double (d : Double)
  | text (s : String)
  | array (items : List Json)
  | object (members : List (String × Json))
  deriving Repr, Inhabited

namespace Json

/-- Puts a member into a list of members: a name that is there keeps its place and takes the new
value. -/
def putMember (name : String) (value : Json) : List (String × Json) → List (String × Json)
  | [] => [(name, value)]
  | (n, v) :: rest => if n = name then (n, value) :: rest else (n, v) :: putMember name value rest

/-- The object of a list of members, later ones replacing earlier ones of the same name. -/
def ofMembers (members : List (String × Json)) : Json :=
  .object (members.foldl (fun ms m => putMember m.1 m.2 ms) [])

/-- The value of a member of an object. -/
def member? (name : String) : Json → Option Json
  | .object members => members.lookup name
  | _ => none

/-- The text of a text value. -/
def text? : Json → Option String
  | .text s => some s
  | _ => none

/-- The value, or nothing for `null`. -/
def present? : Json → Option Json
  | .null => none
  | value => some value

/-- An optional text, absence being `null`. -/
def ofText? : Option String → Json
  | none => .null
  | some s => .text s

end Json

end Rulebook
