import Rulebook.Store.Basic
import Rulebook.Expr.Basic
import Rulebook.Text.Lowercase

/-!
# Drafts

A draft is a rule or a rule set that need not be stored yet, so any of its fields may be missing.
Stored rows are drafts with every field filled in; what rows are turned into is defined on drafts.
-/

namespace Rulebook

/-- A rule that need not be stored yet. -/
structure DraftRule where
  id : Option Int
  ruleType : Option String
  operator : Option String
  value : Option String
  deriving DecidableEq, Repr, Inhabited

/-- A rule set that need not be stored yet. -/
structure DraftRuleSet where
  id : Option Int
  scope : Option String
  logicalOperator : Option String
  isActive : Bool
  isSubgroup : Bool
  rules : List DraftRule
  deriving Repr, Inhabited

/-- A stored rule as a draft. -/
def Rule.toDraft (r : Rule) : DraftRule := ⟨some r.id, some r.ruleType, some r.operator, r.value⟩

/-- A stored rule set as a draft, its rules in display order. -/
def RuleSet.toDraft (s : RuleSet) : DraftRuleSet where
  id := some s.id
  scope := some s.scope
  logicalOperator := some s.logicalOperator
  isActive := s.isActive
  isSubgroup := s.isSubgroup
  rules := s.orderedRules.map Rule.toDraft

/-- A number that must be there. -/
def needId (id : Option Int) : Result Int :=
  match id with
  | some n => .ok n
  | none => .error (.invalid [⟨[.member "id"], .intType⟩])

/-- The connective that a stored logical operator names, in any case; none stored means "and". -/
def connectiveOf? (stored : Option String) : Option Connective :=
  match stored with
  | none => some .every
  | some s => if s.isEmpty then some .every else Connective.ofName? (Text.lowercase s)

/-- The head of a group made from the rule set of a number. -/
def headOf (scope : Scope) (id : Int) (connective : Connective) (isSubgroup : Bool) : GroupHead where
  id := id
  descriptor := .composite scope
  operator := .equal
  value := .int id
  rawValue := some (toString id)
  notes := []
  connective := connective
  isSubgroup := isSubgroup
  refRuleId := none

/-- The group where there is no rule set: it has no parts, so it holds. -/
def Group.unconstrained (scope : Scope) : Group := ⟨headOf scope 0 .every false, []⟩

/-- The group of a rule set, still without parts. -/
def DraftRuleSet.head (s : DraftRuleSet) (scope : Scope) : Result GroupHead :=
  match connectiveOf? s.logicalOperator with
  | none => .fail (.invalidRuleSet s.id (s.logicalOperator.getD ""))
  | some connective => do return headOf scope (← needId s.id) connective s.isSubgroup

/-- The rule refers to another rule set. -/
def DraftRule.isReference (r : DraftRule) : Bool := r.ruleType == some groupRuleType

/-- The number of the rule set that a rule refers to. -/
def DraftRule.reference? (r : DraftRule) : Option Int := Number.readInt? (r.value.getD "")

theorem Rule.isReference_toDraft (r : Rule) : r.toDraft.isReference = r.isReference := by
  simp [Rule.toDraft, DraftRule.isReference, Rule.isReference]

end Rulebook
