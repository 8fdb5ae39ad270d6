import Rulebook.Compile.Visitor
import Rulebook.Store.Query

/-!
# Compilation

Turning a rule set into a group: each rule becomes a condition, or, if it refers to another rule
set, the group of that one.

What is absent is no error. A number that is not positive, a rule set that is missing and one that
is not active all give nothing. A rule that cannot be converted is left out, with a log entry. A
rule set of another scope, a rule set that contains itself and rule sets nested too deeply are
errors.

The path holds the rule sets that are being compiled, the outermost first. It grows by one with each
nesting and never beyond the greatest depth, and this bounds the recursion.
-/

namespace Rulebook

/-- What compilation works with. -/
structure Compiler where
  visitor : Visitor
  store : Store
  /-- The greatest number of rule sets on a path. -/
  maxDepth : Nat

namespace Compiler

/-- An invalid rule set, seen from the rule that refers to it, is a rule that cannot be converted. -/
def atReference (rule : Option Int) : Failure → Failure
  | .rule (.invalidRuleSet ruleSet operator) =>
    .rule (.conversion rule (.invalidRuleSet ruleSet operator))
  | f => f

/-- The expression of a rule; `nested` compiles the rule sets that it may refer to. -/
def compileRule (v : Visitor) (nested : Int → Outcome (Option Group)) (r : DraftRule) :
    Outcome (Option Expr) :=
  if r.isReference then
    match r.reference? with
    | none => .failRule (.conversion r.id (.invalidReference r.value))
    | some id => do
      let group ← (nested id).mapFailure (atReference r.id)
      return group.map fun g => .group { g.head with refRuleId := r.id } g.parts
  else do return some (.leaf (← v.visitRule r))

/-- The expressions of rules, those left out that cannot be converted. -/
def compileRules (v : Visitor) (nested : Int → Outcome (Option Group)) (ruleSet : Option Int) :
    List DraftRule → Outcome (List Expr)
  | [] => Outcome.pure []
  | r :: rest => do
    let e ← (compileRule v nested r).orSkip ruleSet
    let more ← compileRules v nested ruleSet rest
    return e.toList ++ more

/-- The group of a rule set that has been found. -/
def compileFound (v : Visitor) (nested : Int → Outcome (Option Group)) (includeHidden : Bool)
    (s : DraftRuleSet) : Outcome (Option Group) :=
  if s.scope ≠ some v.scope.name then .failRule (.scopeMismatch s.scope v.scope s.id)
  else if !includeHidden && !s.isActive then Outcome.pure none
  else do
    let head ← Outcome.ofResult (s.head v.scope)
    return some ⟨head, ← compileRules v nested s.id s.rules⟩

/-- Looks up the rule set that a number stands for, and goes on with it. -/
def withRuleSet (store : Store) (path : List Int) (id : Int)
    (go : RuleSet → Outcome (Option Group)) : Outcome (Option Group) :=
  if id ≤ 0 then Outcome.pure none
  else if path.contains id then .failRule (.cycle id path)
  else do
    match ← Outcome.ofResult (store.findRuleSet id) with
    | none => return none
    | some s => go s

/-- The group of the rule set of a number, below a path, with so many nestings left. -/
def compileBelow (c : Compiler) : Nat → List Int → Bool → Int → Outcome (Option Group)
  | 0, path, _, id =>
    withRuleSet c.store path id fun s => .failRule (.depthExceeded s.id c.maxDepth)
  -- below the first rule set hidden ones count as absent
  | left + 1, path, includeHidden, id =>
    withRuleSet c.store path id fun s =>
      compileFound c.visitor (compileBelow c left (path ++ [s.id]) false) includeHidden s.toDraft

/-- The group of the rule set of a number. -/
def compile (c : Compiler) (includeHidden : Bool) (id : Int) : Outcome (Option Group) :=
  c.compileBelow c.maxDepth [] includeHidden id

/-- The group of a rule set that need not be stored. -/
def compileDraft (c : Compiler) (includeHidden : Bool) (s : DraftRuleSet) : Outcome (Option Group) :=
  compileFound c.visitor (c.compileBelow (c.maxDepth - 1) s.id.toList false) includeHidden s

end Compiler

end Rulebook
