import Rulebook.Proofs.Evaluation.Sequence

/-!
# Monotonicity

Neither "and" nor "or" turns an answer around: where more conditions hold, an expression that held
still holds. This needs every condition to have an answer. A condition that comes to hold may lead
evaluation on to one that was not reached before, and if that one fails, so does the whole.
-/

namespace Rulebook

/-- Both results are answers, and the second one is that something holds if the first one is. -/
inductive Result.AtMost : Result Bool → Result Bool → Prop where
  | answers {b b' : Bool} (h : b = true → b' = true) : AtMost (.ok b) (.ok b')

namespace Result.AtMost

theorem refl (b : Bool) : AtMost (.ok b) (.ok b) := .answers fun h => h

/-- The opposite answers compare the other way round. -/
theorem opposite {b b' : Bool} (h : b = true → b' = true) : AtMost (.ok !b') (.ok !b) := by
  refine .answers fun hb' => ?_
  cases b with
  | false => rfl
  | true => simp [h rfl] at hb'

theorem eq_true {x y : Result Bool} (h : AtMost x y) (hx : x = .ok true) : y = .ok true := by
  cases h with
  | answers himp =>
    rw [himp (Except.ok.inj hx)]

end Result.AtMost

/-- Greater answers of two runs in a row make the answer of the row greater, whichever of them it
stops at. -/
theorem Run.andThen_atMost (k : Connective) {first first' later later' : Run}
    (hfirst : first.outcome.AtMost first'.outcome) (hlater : later.outcome.AtMost later'.outcome) :
    (first.andThen k later).outcome.AtMost (first'.andThen k later').outcome := by
  rw [outcome_andThen, outcome_andThen]
  generalize first.outcome = x, first'.outcome = x', later.outcome = y, later'.outcome = y'
    at hfirst hlater ⊢
  cases hfirst with
  | @answers b b' hle =>
    cases hlater with
    | answers hle' =>
      cases k with
      | every =>
        -- a first answer of "no" is the least there is, and both rows go on after a "yes"
        cases b with
        | false => cases b' <;> exact .answers nofun
        | true =>
          rw [hle rfl]
          exact .answers hle'
      | some =>
        cases b' with
        | true => cases b <;> exact .answers fun _ => rfl
        | false =>
          cases b with
          | true => cases hle rfl
          | false => exact .answers hle'

namespace Expr

variable {processors processors' : Registry Processor}

theorem runParts_atMost (k : Connective) {parts : List Expr}
    (ih : ∀ e ∈ parts, (e.run processors).outcome.AtMost (e.run processors').outcome) :
    (runParts processors k parts).outcome.AtMost (runParts processors' k parts).outcome := by
  induction parts with
  | nil =>
    rw [runParts, runParts]
    exact .refl _
  | cons e rest ihrest =>
    rw [List.forall_mem_cons] at ih
    rw [runParts_cons, runParts_cons]
    exact Run.andThen_atMost k ih.1 (ihrest ih.2)

/-- An expression has a greater answer where all its conditions have greater ones. -/
theorem outcome_atMost {e : Expr}
    (h : ∀ c ∈ e.leaves, (c.run processors).outcome.AtMost (c.run processors').outcome) :
    (e.run processors).outcome.AtMost (e.run processors').outcome := by
  induction e using parts_induction with
  | leaf c =>
    rw [Expr.run, Expr.run]
    exact h c (by simp [leaves_leaf])
  | group head parts ih =>
    rw [leaves_group] at h
    by_cases hne : parts = []
    · rw [hne, run_group_nil, run_group_nil]
      exact .refl _
    · rw [run_group_of_ne_nil hne, run_group_of_ne_nil hne]
      exact runParts_atMost _ fun e he => ih e he fun c hc => h c (List.mem_flatMap.2 ⟨e, he, hc⟩)

end Expr

end Rulebook
