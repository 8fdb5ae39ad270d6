import Rulebook.Descriptor.Basic

/-!
# Expressions

The compiled form of rule sets: conditions are leaves, and groups combine their parts with "and" or
"or". An expression also carries notes for display; what it decides does not depend on them.
-/

namespace Rulebook

/-- How the results of a group's parts are combined. -/
inductive Connective where
  /-- Every part must hold. -/
  | every
  /-- Some part must hold. -/
  | some
  deriving DecidableEq, Repr, Inhabited

namespace Connective

/-- The name under which a connective is stored. -/
def name : Connective → String
  | every => "and"
  | some => "or"

/-- The connective of a name. -/
def ofName? (s : String) : Option Connective := [every, some].find? fun c => c.name == s

end Connective

/-- How a selected value is shown. -/
structure Display where
  text : String
  hint : Option String
  deriving DecidableEq, Repr

/-- A note on an expression. -/
inductive Note where
  | value (v : Value)
  /-- The selected values and how they are shown. -/
  | selected (items : List (String × Display))
  deriving Repr

/-- The notes on an expression, by key. -/
abbrev Notes := List (String × Note)

/-- Puts an item into a list of items by key: a key that is there keeps its place. -/
def putKeyed {α : Type} (key : String) (a : α) : List (String × α) → List (String × α)
  | [] => [(key, a)]
  | (k, b) :: rest => if k = key then (k, a) :: rest else (k, b) :: putKeyed key a rest

/-- A condition. -/
structure Leaf where
  id : Int
  descriptor : Option Descriptor
  operator : Operator
  value : Value
  rawValue : Option String
  notes : Notes
  deriving Repr, Inhabited

/-- A group without its parts. -/
structure GroupHead where
  id : Int
  descriptor : Descriptor
  operator : Operator
  value : Value
  rawValue : Option String
  notes : Notes
  connective : Connective
  isSubgroup : Bool
  /-- The stored row that the group was expanded from. -/
  refRuleId : Option Int
  deriving Repr, Inhabited

/-- An expression. -/
inductive Expr where
  | leaf (condition : Leaf)
  | group (head : GroupHead) (parts : List Expr)
  deriving Repr, Inhabited

/-- A group. -/
structure Group where
  head : GroupHead
  parts : List Expr
  deriving Repr, Inhabited

namespace Group

/-- The group as an expression. -/
def toExpr (g : Group) : Expr := .group g.head g.parts

/-- The group with further parts after its own. -/
def add (g : Group) (more : List Expr) : Group := { g with parts := g.parts ++ more }

end Group

namespace Expr

/-- The number of the stored row or rule set that an expression was made from. -/
def id : Expr → Int
  | .leaf c => c.id
  | .group head _ => head.id

mutual

/-- The expression and all below it, groups before their parts. -/
def withDescendants : Expr → List Expr
  | .leaf c => [.leaf c]
  | .group head parts => .group head parts :: listDescendants parts

/-- The expressions of a list and all below them, in order. -/
def listDescendants : List Expr → List Expr
  | [] => []
  | e :: rest => withDescendants e ++ listDescendants rest

end

end Expr

/-- All expressions below a group, groups before their parts. -/
def Group.walk (g : Group) : List Expr := Expr.listDescendants g.parts

end Rulebook
