import Rulebook.Expr.Basic
import Rulebook.Value.Whole

/-!
# Processors

A processor decides conditions whose descriptors name its key. A processor is bound to the facts
that it decides on, so it needs only the condition.
-/

namespace Rulebook

/-- Decides a condition. -/
abbrev Processor := Leaf → Result Bool

namespace Processor

/-- Gives the same answer for every condition. -/
def constant (answer : Bool) : Processor := fun _ => .ok answer

/-- Gives up on every condition. -/
def refusing : Processor := fun _ => .error .processor

/-- Compares the fact that has the name of the condition's descriptor. A fact that is not given is
`null`. -/
def fact (facts : List (String × Value)) : Processor := fun c =>
  let name := (c.descriptor.map (·.name)).getD ""
  .ok (c.operator.holds ((facts.lookup name).getD .null) c.value)

end Processor

/-- The processors by key, each with what is known of it. -/
abbrev Registry (α : Type) := List (String × α)

namespace Registry

variable {α : Type}

/-- Registers a processor; one that has the key already is replaced, with a warning. -/
def register (r : Registry α) (key : String) (a : α) : Registry α × List Warning :=
  (putKeyed key a r, if (r.lookup key).isSome then [.replacedProcessor key] else [])

/-- The processor registered for a key. No key and the empty key name none. -/
def resolve (r : Registry α) (key : Option String) : Except RuleError α :=
  match key with
  | none => .error (.processorNotFound none)
  | some k =>
    if k.isEmpty then .error (.processorNotFound key)
    else match r.lookup k with
      | some a => .ok a
      | none => .error (.processorNotFound key)

/-- A processor is registered for the key. -/
def contains (r : Registry α) (key : String) : Bool := (r.lookup key).isSome

end Registry

end Rulebook
