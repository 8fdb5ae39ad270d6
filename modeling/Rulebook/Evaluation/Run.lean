import Rulebook.Evaluation.Processor

/-!
# Evaluation

A group holds by its connective, its parts being decided from left to right: "and" stops at the
first part that does not hold, "or" at the first that does. A group without parts holds.

A run keeps the trace of the conditions that were handed to processors, also when it fails.
-/

namespace Rulebook

/-- The conditions handed to processors, in order, and the outcome. -/
structure Run where
  trace : List Leaf
  outcome : Result Bool

namespace Run

/-- A run that hands nothing over. -/
def done (outcome : Result Bool) : Run := ⟨[], outcome⟩

/-- The run with earlier conditions in front of its trace. -/
def after (earlier : List Leaf) (r : Run) : Run := ⟨earlier ++ r.trace, r.outcome⟩

end Run

/-- The answer of a part at which its group stops. -/
def Connective.stopsAt : Connective → Bool
  | .every => false
  | .some => true

/-- Decides a condition: it needs a descriptor with a registered processor. A condition that carries
the descriptor of groups has no parts, and holds. -/
def Leaf.run (processors : Registry Processor) (c : Leaf) : Run :=
  match c.descriptor with
  | none => .done (.fail (.missingDescriptor c.id c.rawValue))
  | some d =>
    if d.isComposite then .done (.ok true)
    else match processors.resolve (some d.processor) with
      | .error e => .done (.fail e)
      | .ok p => ⟨[c], p c⟩

mutual

/-- Decides an expression. -/
def Expr.run (processors : Registry Processor) : Expr → Run
  | .leaf c => c.run processors
  | .group head parts =>
    -- no parts: nothing stands in the way, whatever the connective
    if parts.isEmpty then .done (.ok true) else Expr.runParts processors head.connective parts

/-- Decides the parts of a group until one settles it. -/
def Expr.runParts (processors : Registry Processor) (connective : Connective) : List Expr → Run
  | [] => .done (.ok (!connective.stopsAt))
  | e :: rest =>
    let first := Expr.run processors e
    match first.outcome with
    | .error _ => first
    | .ok b =>
      -- the rest is not looked at once the answer is settled
      if b = connective.stopsAt then first
      else (Expr.runParts processors connective rest).after first.trace

end

/-- Decides a group. -/
def Group.run (processors : Registry Processor) (g : Group) : Run := g.toExpr.run processors

/-- Decides an expression in place of a group that it may stand for: a group is decided itself, and
for anything else the bound group is. -/
def Group.runFor (processors : Registry Processor) (bound : Group) : Option Expr → Run
  | some (.group head parts) => (Expr.group head parts).run processors
  | _ => bound.run processors

end Rulebook
