import Rulebook.Json.Printer

/-!
# Validation

A validated reading either succeeds or lists every issue it met, each with the place of the value
that is at fault.

Readings of independent parts are combined with `<*>`, which keeps the issues of both sides, and
`Checked.within` moves the issues of a part to its place in the whole.
-/

namespace Rulebook

/-- What is wrong with a value. -/
inductive Fault where
  | missing
  | modelType
  | modelAttributesType
  | unionTagNotFound
  | unionTagInvalid
  | valueError
  | enum
  | literal
  | stringType
  | stringTooShort
  | boolType
  | boolParsing
  | intType
  | intParsing
  | intParsingSize
  | intFromFloat
  | finiteNumber
  | listType
  | tupleType
  | dictType
  | atLeast
  | atMost
  | jsonInvalid
  deriving DecidableEq, Repr

/-- The name that reports give to a fault. -/
def Fault.name : Fault → String
  | missing => "missing"
  | modelType => "model_type"
  | modelAttributesType => "model_attributes_type"
  | unionTagNotFound => "union_tag_not_found"
  | unionTagInvalid => "union_tag_invalid"
  | valueError => "value_error"
  | enum => "enum"
  | literal => "literal_error"
  | stringType => "string_type"
  | stringTooShort => "string_too_short"
  | boolType => "bool_type"
  | boolParsing => "bool_parsing"
  | intType => "int_type"
  | intParsing => "int_parsing"
  | intParsingSize => "int_parsing_size"
  | intFromFloat => "int_from_float"
  | finiteNumber => "finite_number"
  | listType => "list_type"
  | tupleType => "tuple_type"
  | dictType => "dict_type"
  | atLeast => "greater_than_equal"
  | atMost => "less_than_equal"
  | jsonInvalid => "json_invalid"

/-- One step from a value to one of its parts. -/
inductive Step where
  | member (name : String)
  | item (index : Nat)
  deriving DecidableEq, Repr

/-- A fault and the place of the value that has it. -/
structure Issue where
  place : List Step
  fault : Fault
  deriving DecidableEq, Repr

/-- The report of a step. -/
def Step.toJson : Step → Json
  | .member name => .text name
  | .item index => .int index

/-- The report of an issue. -/
def Issue.toJson (i : Issue) : Json :=
  .object [("loc", .array (i.place.map Step.toJson)), ("type", .text i.fault.name)]

/-- The reports of issues, in the order of their texts. -/
def Issue.report (issues : List Issue) : Json :=
  let reports := issues.map fun i => (i.toJson.render, i.toJson)
  .array ((reports.mergeSort fun a b => decide (a.1 ≤ b.1)).map (·.2))

/-- A reading that succeeds or lists its issues. -/
inductive Checked (α : Type) where
  | ok (value : α)
  | issues (found : List Issue)
  deriving Repr

namespace Checked

variable {α β : Type}

/-- Applies one reading to another, keeping the issues of both. -/
def apply (f : Checked (α → β)) (x : Unit → Checked α) : Checked β :=
  match f, x () with
  | ok g, ok a => ok (g a)
  | ok _, issues b => issues b
  | issues a, ok _ => issues a
  | issues a, issues b => issues (a ++ b)

instance : Applicative Checked where
  pure := ok
  seq := apply

/-- A reading that needs the value of another. -/
def andThen (x : Checked α) (f : α → Checked β) : Checked β :=
  match x with
  | ok a => f a
  | issues found => issues found

/-- A single fault at the value itself. -/
def fault (f : Fault) : Checked α := issues [⟨[], f⟩]

/-- Moves the issues of a part to its place in the whole. -/
def within (step : Step) (x : Checked α) : Checked α :=
  match x with
  | ok a => ok a
  | issues found => issues (found.map fun i => { i with place := step :: i.place })

/-- The reading as a result. -/
def toExcept : Checked α → Except (List Issue) α
  | ok a => .ok a
  | issues found => .error found

/-- Reads every item of a list at its index. -/
def items (read : Json → Checked α) : Nat → List Json → Checked (List α)
  | _, [] => ok []
  | index, j :: rest =>
    (· :: ·) <$> (read j).within (.item index) <*> items read (index + 1) rest

/-- Reads a member that must be there. -/
def required (name : String) (read : Json → Checked α) (j : Json) : Checked α :=
  within (.member name) (match j.member? name with
    | some v => read v
    | none => fault .missing)

/-- Reads a member that has a value of its own when it is not there. -/
def optional (name : String) (default : α) (read : Json → Checked α) (j : Json) : Checked α :=
  within (.member name) (match j.member? name with
    | some v => read v
    | none => ok default)

/-- Reads a value that may be `null`. -/
def nullable (read : Json → Checked α) : Json → Checked (Option α)
  | .null => ok none
  | j => some <$> read j

end Checked

end Rulebook
