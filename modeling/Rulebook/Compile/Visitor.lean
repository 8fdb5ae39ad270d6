import Rulebook.Draft
import Rulebook.Descriptor.Collection
import Rulebook.Compile.Outcome

/-!
# Visitors

A visitor turns the rules of one scope into conditions. It knows the descriptors of the scope, or
why they cannot be read.

A rule of a kind that is not known becomes a condition that nothing can decide, so that it is still
shown. A rule whose operator or value cannot be read becomes nothing.
-/

namespace Rulebook

/-- What rules of a scope are read with. -/
structure Visitor where
  scope : Scope
  kinds : Result Collection

namespace Visitor

/-- The descriptor of a rule: the one of its kind, or the stand-in for unknown kinds. -/
def descriptorOf (v : Visitor) (kinds : Collection) (r : DraftRule) : Outcome Descriptor :=
  match kinds.find? r.ruleType with
  | some d => Outcome.pure d
  | none => do
    Outcome.warn (.unknownRuleType r.ruleType v.scope r.id)
    return .unknown v.scope r.ruleType

/-- The operator of a rule. -/
def operatorOf (r : DraftRule) : Result Operator :=
  match r.operator.bind Operator.ofName? with
  | some o => .ok o
  | none => .fail (.conversion r.id (.unknownOperator r.operator))

/-- The condition of a rule under a descriptor. -/
def leafOf (d : Descriptor) (r : DraftRule) : Result Leaf := do
  let operator ← operatorOf r
  if d.isValid && !d.operators.contains operator then
    .fail (.conversion r.id (.operatorNotAllowed operator d.name))
  else match d.kind.convert r.value with
    | .error _ => .fail (.conversion r.id (.invalidValue d.kind r.value))
    | .ok value =>
      return {
        id := ← needId r.id
        descriptor := some d
        operator := operator
        value := value
        rawValue := r.value
        notes := [] }

/-- The condition of a rule. -/
def visitRule (v : Visitor) (r : DraftRule) : Outcome Leaf := do
  let kinds ← Outcome.ask v.kinds
  let d ← v.descriptorOf kinds r
  Outcome.ofResult (leafOf d r)

end Visitor

end Rulebook
