import Rulebook.Proofs.Evaluation.Sequence

/-!
# Duality

"And" and "or" are mirror images: where the one stops at an answer, the other goes on. Exchange them in
every group, and let every processor give the opposite answer. Then evaluation asks the same conditions
in the same order and comes to the opposite answer, or to the same failure.

What holds without being asked has no mirror image: a group without parts holds under either
connective, and so does a condition that carries the descriptor of groups.
-/

namespace Rulebook

/-! ## Mirror images -/

/-- The other connective. -/
def Connective.dual : Connective → Connective
  | .every => .some
  | .some => .every

namespace Expr

mutual

/-- The expression with the other connective in every group. -/
def dual : Expr → Expr
  | .leaf c => .leaf c
  | .group head parts =>
    .group { head with connective := head.connective.dual } (dualParts parts)

/-- Expressions with the other connective in every group. -/
def dualParts : List Expr → List Expr
  | [] => []
  | e :: rest => dual e :: dualParts rest

end

/-- Nothing in the expression holds without being asked: every group has parts, and no condition
carries the descriptor of groups. -/
structure Contingent (e : Expr) : Prop where
  parts : ∀ head, .group head [] ∉ e.withDescendants
  conditions : ∀ c ∈ e.leaves, ∀ d, c.descriptor = some d → d.isComposite = false

theorem Contingent.ne_nil {head : GroupHead} {parts : List Expr}
    (h : (group head parts).Contingent) : parts ≠ [] := by
  rintro rfl
  exact h.parts head (by simp [withDescendants])

theorem Contingent.of_mem {head : GroupHead} {parts : List Expr}
    (h : (group head parts).Contingent) {e : Expr} (he : e ∈ parts) : e.Contingent where
  parts nested hmem := by
    apply h.parts nested
    rw [withDescendants, listDescendants_eq_flatMap]
    exact List.mem_cons_of_mem _ (List.mem_flatMap.2 ⟨e, he, hmem⟩)
  conditions c hc := by
    apply h.conditions c
    rw [leaves_group]
    exact List.mem_flatMap.2 ⟨e, he, hc⟩

end Expr

/-- The processor that gives the opposite answer, and fails where the other one fails. -/
def Processor.negated (p : Processor) : Processor := fun c => (p c).map (!·)

/-- The registry whose processors give the opposite answers. -/
def Registry.negated (r : Registry Processor) : Registry Processor :=
  r.map fun e => (e.1, e.2.negated)

/-- The run with the opposite answer, or with the same failure. -/
def Run.negated (r : Run) : Run := ⟨r.trace, r.outcome.map (!·)⟩

/-! ## Runs in the mirror -/

theorem Connective.stopsAt_dual (k : Connective) : k.dual.stopsAt = !k.stopsAt := by
  cases k <;> rfl

/-- What settles a group settles its mirror image with the opposite answer. -/
theorem Connective.isSettledBy_dual (k : Connective) (x : Result Bool) :
    k.dual.isSettledBy (x.map (!·)) = k.isSettledBy x := by
  cases x with
  | error f => rfl
  | ok b => cases k <;> cases b <;> rfl

theorem Run.negated_andThen (k : Connective) (first later : Run) :
    (first.andThen k later).negated = first.negated.andThen k.dual later.negated := by
  have hsettled : k.dual.isSettledBy first.negated.outcome = k.isSettledBy first.outcome :=
    k.isSettledBy_dual first.outcome
  cases h : k.isSettledBy first.outcome with
  | true => rw [andThen_of_settled h, andThen_of_settled (hsettled.trans h)]
  | false =>
    rw [andThen_of_open h, andThen_of_open (hsettled.trans h)]
    rfl

namespace Registry

variable {processors : Registry Processor}

theorem lookup_negated (processors : Registry Processor) (key : String) :
    processors.negated.lookup key = (processors.lookup key).map Processor.negated := by
  induction processors with
  | nil => rfl
  | cons entry rest ih =>
    rw [negated, List.map_cons, List.lookup_cons, List.lookup_cons]
    cases key == entry.1 with
    | true => rfl
    | false => exact ih

/-- The same keys name processors. -/
theorem resolve_negated (processors : Registry Processor) (key : Option String) :
    processors.negated.resolve key = (processors.resolve key).map Processor.negated := by
  cases key with
  | none => rfl
  | some key =>
    simp only [resolve, lookup_negated]
    cases key.isEmpty with
    | true => rfl
    | false => cases processors.lookup key <;> rfl

end Registry

section Evaluation

variable {processors : Registry Processor}

theorem Leaf.run_negated {c : Leaf} (h : ∀ d, c.descriptor = some d → d.isComposite = false) :
    c.run processors.negated = (c.run processors).negated := by
  unfold Leaf.run
  cases hd : c.descriptor with
  | none => rfl
  | some d =>
    simp only [h d hd, Registry.resolve_negated]
    cases processors.resolve (some d.processor) <;> rfl

theorem Expr.runParts_dual {k : Connective} {parts : List Expr}
    (ih : ∀ e ∈ parts, e.dual.run processors.negated = (e.run processors).negated) :
    runParts processors.negated k.dual (dualParts parts) =
      (runParts processors k parts).negated := by
  induction parts with
  | nil =>
    rw [dualParts, runParts, runParts, Connective.stopsAt_dual]
    rfl
  | cons e rest ihrest =>
    rw [List.forall_mem_cons] at ih
    rw [dualParts, runParts_cons, runParts_cons, ih.1, ihrest ih.2, Run.negated_andThen]

/-- The mirror image runs as the expression does, to the opposite answer. -/
theorem Expr.run_dual {e : Expr} (h : e.Contingent) :
    e.dual.run processors.negated = (e.run processors).negated := by
  induction e using Expr.parts_induction with
  | leaf c =>
    rw [dual, Expr.run, Expr.run]
    exact Leaf.run_negated (h.conditions c (by simp [leaves_leaf]))
  | group head parts ih =>
    have hne : dualParts parts ≠ [] := by
      cases parts with
      | nil => exact absurd rfl h.ne_nil
      | cons e rest => exact List.cons_ne_nil _ _
    rw [dual, run_group_of_ne_nil hne, run_group_of_ne_nil h.ne_nil]
    exact runParts_dual fun e he => ih e he (h.of_mem he)

/-- The mirror image of an expression, decided by processors that answer the opposite, asks the same
conditions in the same order. It answers the opposite, and it fails exactly where the expression
fails, with the same failure. -/
theorem dual_decides_opposite (processors : Registry Processor) (e : Expr) (h : e.Contingent) :
    (e.dual.run processors.negated).trace = (e.run processors).trace ∧
      (∀ b, (e.dual.run processors.negated).outcome = .ok b ↔
        (e.run processors).outcome = .ok (!b)) ∧
      ∀ f, (e.dual.run processors.negated).outcome = .error f ↔
        (e.run processors).outcome = .error f := by
  have hdual : e.dual.run processors.negated = (e.run processors).negated := Expr.run_dual h
  have houtcome : (e.dual.run processors.negated).outcome = (e.run processors).outcome.map (!·) :=
    congrArg Run.outcome hdual
  refine ⟨by rw [hdual]; rfl, fun b => ?_, fun f => ?_⟩
  · rw [houtcome]
    cases (e.run processors).outcome with
    | error f => simp [Except.map]
    | ok a => cases a <;> cases b <;> simp [Except.map]
  · rw [houtcome]
    cases (e.run processors).outcome <;> simp [Except.map]

/-- A group that is settled before it comes to the condition that fails. -/
def settledEarly : Expr :=
  .group (headOf .cart 1 .some false) [
    .group (headOf .cart 2 .every true) [.numbered 2, .numbered 1],
    .group (headOf .cart 3 .every true) [
      .numbered 4, .group (headOf .cart 4 .some true) [.numbered 3, .numbered 6]],
    .numbered 0]

theorem settledEarly_dual_opposite :
    settledEarly.Contingent ∧
      ((settledEarly.run Expr.byParity).trace.map (·.id),
        (settledEarly.run Expr.byParity).outcome) = ([2, 1, 4, 3, 6], .ok true) ∧
      (settledEarly.dual.run Expr.byParity.negated).trace =
        (settledEarly.run Expr.byParity).trace ∧
      (settledEarly.dual.run Expr.byParity.negated).outcome = .ok false := by
  have hcontingent : settledEarly.Contingent := by
    constructor
    · simp [settledEarly, Expr.withDescendants, Expr.listDescendants, Expr.numbered]
    · simp [settledEarly, Expr.leaves_group, Expr.leaves_leaf, Expr.numbered, Descriptor.isComposite,
        Descriptor.unknown, Descriptor.invalidProcessor, Descriptor.compositeProcessor]
  obtain ⟨htrace, hanswer, -⟩ := dual_decides_opposite Expr.byParity settledEarly hcontingent
  exact ⟨hcontingent, rfl, htrace, (hanswer false).2 rfl⟩

end Evaluation

end Rulebook
