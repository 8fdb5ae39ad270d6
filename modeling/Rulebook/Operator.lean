import Rulebook.Value.Order
import Rulebook.Value.Spelling

/-!
# Operators

An operator compares a fact with the value of a condition. Every operator answers for every pair of
values: where a comparison makes no sense the answer is that the condition does not hold, so an
operator and its negation may both fail.
-/

namespace Rulebook

/-- How a fact is compared with the value of a condition. -/
inductive Operator where
  | equal
  | notEqual
  | less
  | atMost
  | greater
  | atLeast
  | contains
  | notContains
  | startsWith
  | endsWith
  | isEmpty
  | isNotEmpty
  | isNull
  | isNotNull
  /-- Some listed fact is among the listed values. -/
  | anyIn
  /-- No listed fact is among the listed values. -/
  | noneIn
  /-- Every listed value is among the listed facts. -/
  | allIn
  /-- Some listed value is not among the listed facts. -/
  | notAllIn
  deriving DecidableEq, Repr, Inhabited

namespace Operator

/-- All operators. -/
def all : List Operator :=
  [equal, notEqual, less, atMost, greater, atLeast, contains, notContains, startsWith, endsWith,
   isEmpty, isNotEmpty, isNull, isNotNull, anyIn, noneIn, allIn, notAllIn]

/-- The name under which an operator is stored. -/
def name : Operator → String
  | equal => "eq"
  | notEqual => "neq"
  | less => "lt"
  | atMost => "lte"
  | greater => "gt"
  | atLeast => "gte"
  | contains => "contains"
  | notContains => "not_contains"
  | startsWith => "starts_with"
  | endsWith => "ends_with"
  | isEmpty => "is_empty"
  | isNotEmpty => "is_not_empty"
  | isNull => "is_null"
  | isNotNull => "is_not_null"
  | anyIn => "in"
  | noneIn => "not_in"
  | allIn => "all_in"
  | notAllIn => "not_all_in"

/-- The operator of a name. -/
def ofName? (s : String) : Option Operator := all.find? fun o => o.name == s

/-! ## Comparison -/

/-- Some listed fact is among the listed values. -/
def anyListed (fact value : Value) : Bool := fact.listed.any fun x => x.isAmong value.listed

/-- Every listed value is among the listed facts. -/
def allListed (fact value : Value) : Bool := value.listed.all fun x => x.isAmong fact.listed

/-- The relation of the two values is one of those given. -/
def related (relations : List Relation) (fact value : Value) : Bool :=
  (fact.relation? value).any fun r => relations.contains r

/-- The texts of the two values pass a test; without a text the test fails. -/
def textsPass (test : List Char → List Char → Bool) (fact value : Value) : Bool :=
  match fact.text?, value.text? with
  | some s, some t => test t.toList s.toList
  | _, _ => false

/-- Whether the operator holds between a fact and the value of a condition. -/
def holds (o : Operator) (fact value : Value) : Bool :=
  match o with
  | equal => fact.eq value
  | notEqual => !fact.eq value
  | less => related [.less] fact value
  | atMost => related [.less, .level] fact value
  | greater => related [.greater] fact value
  | atLeast => related [.greater, .level] fact value
  | contains => fact.holds? value == some true
  | notContains => fact.holds? value == some false
  | startsWith => textsPass List.isPrefixOf fact value
  | endsWith => textsPass List.isSuffixOf fact value
  | isEmpty => fact.isEmpty
  | isNotEmpty => !fact.isEmpty
  | isNull => fact.isNull
  | isNotNull => !fact.isNull
  | anyIn => anyListed fact value
  | noneIn => !anyListed fact value
  | allIn => allListed fact value
  | notAllIn => !allListed fact value

end Operator

end Rulebook
