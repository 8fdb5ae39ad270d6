import Rulebook.Failure

/-!
# Outcomes

The outcome of a step of compilation: its result, the log entries up to where it ended, and whether
the descriptors of the scope were asked for. The descriptors are read from the store at most once,
when they are first asked for.
-/

namespace Rulebook

/-- The outcome of a step of compilation. -/
structure Outcome (α : Type) where
  log : List Warning
  asked : Bool
  result : Result α

namespace Outcome

variable {α β : Type}

/-- The step that only answers. -/
def pure (a : α) : Outcome α := ⟨[], false, .ok a⟩

/-- The step that only fails. -/
def fail (f : Failure) : Outcome α := ⟨[], false, .error f⟩

/-- The step that fails with an error of the rule engine. -/
def failRule (e : RuleError) : Outcome α := fail (.rule e)

/-- The step that only has a result. -/
def ofResult (r : Result α) : Outcome α := ⟨[], false, r⟩

/-- The step that writes a log entry. -/
def warn (w : Warning) : Outcome Unit := ⟨[w], false, .ok ()⟩

/-- The step that asks for the descriptors. -/
def ask (kinds : Result α) : Outcome α := ⟨[], true, kinds⟩

/-- One step after another; what a failed step logged is kept. -/
def bind (x : Outcome α) (f : α → Outcome β) : Outcome β :=
  match x.result with
  | .error e => ⟨x.log, x.asked, .error e⟩
  | .ok a =>
    let y := f a
    ⟨x.log ++ y.log, x.asked || y.asked, y.result⟩

instance : Monad Outcome where
  pure := pure
  bind := bind

/-- The step with its failure seen in another way. -/
def mapFailure (f : Failure → Failure) (x : Outcome α) : Outcome α :=
  { x with result := x.result.mapError f }

/-- The step made to answer nothing where a row could not be converted, with a log entry about the
rule set that the row belongs to. -/
def orSkip (ruleSet : Option Int) (x : Outcome (Option α)) : Outcome (Option α) :=
  match x.result with
  | .error (.rule (.conversion rule cause)) =>
    ⟨x.log ++ [.skippedRule ruleSet (.conversion rule cause)], x.asked, .ok none⟩
  | _ => x

end Outcome

end Rulebook
