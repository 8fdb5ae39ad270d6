import Rulebook.Descriptor.Basic
import Rulebook.Validation.Basic

/-!
# Failures

What can go wrong with stored rules. A configuration error shows a defect of the setup and ends the
operation. A conversion error concerns one stored row, which is then left out of its group.

`RuleError.message` gives each error its wording.
-/

namespace Rulebook

/-- Why a stored row cannot be turned into an expression. -/
inductive ConversionCause where
  | unknownOperator (name : Option String)
  | operatorNotAllowed (operator : Operator) (descriptor : String)
  | invalidValue (kind : ValueKind) (raw : Option String)
  | invalidReference (raw : Option String)
  /-- The row references a rule set with an unknown logical operator. -/
  | invalidRuleSet (ruleSet : Option Int) (operator : String)
  deriving DecidableEq, Repr

/-- An error of the rule engine. -/
inductive RuleError where
  | scopeMismatch (scope : Option String) (expected : Scope) (ruleSet : Option Int)
  | missingDescriptor (expression : Int) (raw : Option String)
  | processorNotFound (key : Option String)
  | unknownScope (scope : String)
  | cycle (ruleSet : Int) (path : List Int)
  | depthExceeded (ruleSet : Int) (maxDepth : Nat)
  /-- The logical operator of a rule set is unknown. -/
  | invalidRuleSet (ruleSet : Option Int) (operator : String)
  | conversion (rule : Option Int) (cause : ConversionCause)
  deriving DecidableEq, Repr

/-- A number that may be missing, as messages show it. -/
def numberText : Option Int → String
  | none => "None"
  | some n => toString n

/-- A text that may be missing, as messages show it. -/
def textOrNone (s : Option String) : String := s.getD "None"

/-- The quoted form of a text that may be missing. -/
def quotedOrNone : Option String → String
  | none => "None"
  | some s => Text.quoted s

/-- The message of a rule set with an unknown logical operator. -/
def invalidRuleSetMessage (ruleSet : Option Int) (operator : String) : String :=
  "Rule set " ++ numberText ruleSet ++ ": unknown logical operator '" ++ operator ++ "'"

/-- The wording of a conversion cause. -/
def ConversionCause.message : ConversionCause → String
  | .unknownOperator name => "unknown operator '" ++ textOrNone name ++ "'"
  | .operatorNotAllowed operator descriptor =>
    "operator '" ++ operator.name ++ "' is not allowed for '" ++ descriptor ++ "'"
  | .invalidValue kind raw => "invalid " ++ kind.name ++ " value " ++ quotedOrNone raw
  | .invalidReference raw => "invalid rule set reference " ++ quotedOrNone raw
  | .invalidRuleSet ruleSet operator => invalidRuleSetMessage ruleSet operator

namespace RuleError

/-- The wording of an error. -/
def message : RuleError → String
  | .scopeMismatch scope expected _ =>
    "Differing rule scope " ++ textOrNone scope ++ ". Expected " ++ expected.name ++ "."
  | .missingDescriptor expression raw =>
    "Missing rule descriptor for expression " ++ toString expression ++ " ('" ++ raw.getD "" ++ "')."
  | .processorNotFound key => "No rule processor registered for key '" ++ textOrNone key ++ "'."
  | .unknownScope scope => "No rule provider registered for scope '" ++ scope ++ "'."
  | .cycle ruleSet path =>
    "Rule set " ++ toString ruleSet ++ " references itself: " ++
      " -> ".intercalate ((path ++ [ruleSet]).map toString)
  | .depthExceeded ruleSet maxDepth =>
    "Rule set " ++ toString ruleSet ++ " exceeds the maximum nesting depth of " ++
      toString maxDepth ++ "."
  | .invalidRuleSet ruleSet operator => invalidRuleSetMessage ruleSet operator
  | .conversion rule cause => "Rule " ++ numberText rule ++ ": " ++ cause.message

/-- The name that reports give to an error. -/
def name : RuleError → String
  | .scopeMismatch .. => "ScopeMismatchError"
  | .missingDescriptor .. => "MissingDescriptorError"
  | .processorNotFound .. => "ProcessorNotFoundError"
  | .unknownScope .. => "UnknownScopeError"
  | .cycle .. => "RuleSetCycleError"
  | .depthExceeded .. => "RuleSetDepthExceededError"
  | .invalidRuleSet .. => "InvalidRuleSetError"
  | .conversion .. => "RuleConversionError"

/-- The error shows a defect of the setup. -/
def isConfiguration : RuleError → Bool
  | .invalidRuleSet .. => false
  | .conversion .. => false
  | _ => true

end RuleError

/-- Why an operation ended without an answer. -/
inductive Failure where
  | rule (error : RuleError)
  /-- The input does not pass validation. -/
  | invalid (issues : List Issue)
  /-- A text that should be a number or a choice is none. -/
  | unreadable
  /-- A value is of a kind that the operation cannot use. -/
  | wrongKind
  /-- A number does not fit the store. -/
  | outOfRange
  /-- A processor gave up. -/
  | processor
  /-- The store has no tables. -/
  | noTables
  deriving Repr

/-- A log entry that operators should see. -/
inductive Warning where
  /-- A row names a kind of condition that is not known. -/
  | unknownRuleType (ruleType : Option String) (scope : Scope) (rule : Option Int)
  /-- A row is left out of its group. -/
  | skippedRule (ruleSet : Option Int) (error : RuleError)
  /-- A processor takes the place of another. -/
  | replacedProcessor (key : String)
  deriving Repr

/-- The wording of a log entry. -/
def Warning.message : Warning → String
  | .unknownRuleType ruleType scope rule =>
    "Unknown rule type '" ++ textOrNone ruleType ++ "' in scope " ++ scope.name ++ " (rule " ++
      numberText rule ++ ")"
  | .skippedRule ruleSet error =>
    "Skipping rule in rule set " ++ numberText ruleSet ++ ": " ++ error.message
  | .replacedProcessor key => "Replacing rule processor registered for key '" ++ key ++ "'"

/-- The result of an operation. -/
abbrev Result (α : Type) := Except Failure α

/-- Fails with an error of the rule engine. -/
def Result.fail {α : Type} (e : RuleError) : Result α := .error (.rule e)

end Rulebook
