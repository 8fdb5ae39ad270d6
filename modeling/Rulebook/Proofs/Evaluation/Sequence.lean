import Mathlib.Logic.Relation
import Rulebook.Draft
import Rulebook.Proofs.Evaluation.ShortCircuit

/-!
# Runs in a row

The parts of a group are decided one after another, and each goes on with the next only if it leaves
the group open. Putting runs in a row like this is associative, and the parts of a group are such a
row. So a nested group that combines its parts as the group around it does may be replaced by its
parts: the conditions are the same, they are asked in the same order, and evaluation stops at the same
one.

A group without parts holds. That is what "and" answers for no parts, too, but not what "or" does, so
under "or" only a group with parts may be replaced.
-/

namespace Rulebook

/-! ## One run after another -/

namespace Run

/-- One run and then another, which is made only if the first leaves open what the connective
decides. -/
def andThen (k : Connective) (first later : Run) : Run :=
  if k.isSettledBy first.outcome then first else later.after first.trace

variable {k : Connective} {r later : Run}

theorem andThen_of_settled (h : k.isSettledBy r.outcome = true) : r.andThen k later = r := if_pos h

theorem andThen_of_open (h : k.isSettledBy r.outcome = false) :
    r.andThen k later = later.after r.trace :=
  if_neg (by simp [h])

theorem outcome_andThen (k : Connective) (first later : Run) :
    (first.andThen k later).outcome =
      if k.isSettledBy first.outcome then first.outcome else later.outcome := by
  unfold andThen
  split <;> rfl

/-- A run that leaves everything open makes no difference to those after it. -/
theorem open_andThen (k : Connective) (r : Run) : (done (.ok (!k.stopsAt))).andThen k r = r :=
  andThen_of_open (Connective.isSettledBy_eq_false_iff.2 rfl)

theorem after_andThen (k : Connective) (earlier : List Leaf) (first later : Run) :
    (first.after earlier).andThen k later = (first.andThen k later).after earlier := by
  have houtcome : (first.after earlier).outcome = first.outcome := rfl
  cases h : k.isSettledBy first.outcome with
  | true => rw [andThen_of_settled h, andThen_of_settled (houtcome ▸ h)]
  | false =>
    rw [andThen_of_open h, andThen_of_open (houtcome ▸ h)]
    simp [after]

/-- It makes no difference how runs in a row are grouped. -/
theorem andThen_assoc (k : Connective) (first second third : Run) :
    (first.andThen k second).andThen k third = first.andThen k (second.andThen k third) := by
  cases h : k.isSettledBy first.outcome with
  | true => rw [andThen_of_settled h, andThen_of_settled h, andThen_of_settled h]
  | false => rw [andThen_of_open h, andThen_of_open h, after_andThen]

end Run

/-! ## Parts in a row -/

namespace Expr

variable {processors : Registry Processor} {k : Connective} {head : GroupHead}
  {parts parts' : List Expr}

theorem runParts_cons (processors : Registry Processor) (k : Connective) (e : Expr)
    (rest : List Expr) :
    runParts processors k (e :: rest) =
      (e.run processors).andThen k (runParts processors k rest) := by
  by_cases hopen : (e.run processors).outcome = .ok (!k.stopsAt)
  · rw [runParts_cons_of_open hopen,
      Run.andThen_of_open (Connective.isSettledBy_eq_false_iff.2 hopen)]
  · rw [runParts_cons_of_settled hopen,
      Run.andThen_of_settled (Connective.isSettledBy_iff.2 hopen)]

theorem runParts_append (processors : Registry Processor) (k : Connective)
    (parts more : List Expr) :
    runParts processors k (parts ++ more) =
      (runParts processors k parts).andThen k (runParts processors k more) := by
  induction parts with
  | nil => rw [List.nil_append, runParts, Run.open_andThen]
  | cons e rest ih => rw [List.cons_append, runParts_cons, runParts_cons, ih, Run.andThen_assoc]

/-- A group is the row of its parts. Without parts this is so under "and" only. -/
theorem run_group_eq_runParts (h : head.connective = .some → parts ≠ []) :
    (group head parts).run processors = runParts processors head.connective parts := by
  by_cases hne : parts = []
  · subst hne
    cases hk : head.connective with
    | every => rw [run_group_nil, runParts, Connective.stopsAt, Bool.not_false]
    | some => exact absurd rfl (h hk)
  · exact run_group_of_ne_nil hne

/-- A group runs as its row of parts does, where there are parts. -/
theorem run_group_congr (hrow : runParts processors head.connective parts =
    runParts processors head.connective parts') (hnil : parts = [] ↔ parts' = []) :
    (group head parts).run processors = (group head parts').run processors := by
  by_cases hne : parts = []
  · rw [hne, hnil.1 hne]
  · rw [run_group_of_ne_nil hne, run_group_of_ne_nil (hnil.not.1 hne), hrow]

/-! ## Inlining -/

/-- The second expression is the first one with some nested group, of the same connective as the
group that it is a part of, replaced by its own parts. Under "or" the nested group has parts. -/
inductive Inlines : Expr → Expr → Prop where
  | part {head nested : GroupHead} {before parts after : List Expr}
      (hsame : nested.connective = head.connective)
      (hparts : head.connective = .some → parts ≠ []) :
      Inlines (.group head (before ++ .group nested parts :: after))
        (.group head (before ++ parts ++ after))
  /-- The nested group may be at any depth. -/
  | deeper {head : GroupHead} {before after : List Expr} {e e' : Expr} (h : Inlines e e') :
      Inlines (.group head (before ++ e :: after)) (.group head (before ++ e' :: after))

theorem Inlines.run_eq {e e' : Expr} (h : Inlines e e') : e'.run processors = e.run processors := by
  induction h with
  | @part head nested before parts after hsame hparts =>
    have hrow : (group nested parts).run processors =
        runParts processors head.connective parts := by
      rw [run_group_eq_runParts (hsame ▸ hparts), hsame]
    -- where nothing is left, the nested group had no parts, so the connective is "and"
    have hparts' : head.connective = .some → before ++ parts ++ after ≠ [] := by
      intro hk hnil
      simp [hparts hk] at hnil
    rw [run_group_eq_runParts hparts', run_group_of_ne_nil (by simp), runParts_append,
      runParts_append, runParts_append, runParts_cons, hrow, Run.andThen_assoc]
  | deeper h ih =>
    refine run_group_congr ?_ (by simp)
    rw [runParts_append, runParts_append, runParts_cons, runParts_cons, ih]

/-- Inlining nested groups makes no difference to evaluation, however many of them are inlined, at
whatever depth: the same conditions are handed over in the same order, and the outcome is the same,
be it an answer or a failure. -/
theorem inlining_keeps_run (processors : Registry Processor) {e e' : Expr}
    (h : Relation.ReflTransGen Inlines e e') : e'.run processors = e.run processors := by
  induction h with
  | refl => rfl
  | tail _ hstep ih => rw [hstep.run_eq, ih]

/-- A condition that has nothing but its number. -/
def numbered (id : Int) : Expr :=
  .leaf ⟨id, some (.unknown .cart none), .equal, .null, none, []⟩

/-- A condition holds if its number is even, and fails if it is zero. -/
def byParity : Registry Processor :=
  [(Descriptor.invalidProcessor, fun c => if c.id = 0 then .error .processor else .ok (c.id % 2 == 0))]

/-- Groups within groups of their own connective, one of them without parts. -/
def layered : Expr :=
  .group (headOf .cart 1 .every false) [
    numbered 2,
    .group (headOf .cart 2 .every true) [],
    .group (headOf .cart 3 .some true) [
      numbered 1, .group (headOf .cart 4 .some true) [numbered 3, numbered 4], numbered 0],
    .group (headOf .cart 5 .every true) [numbered 6, numbered 0]]

/-- The same conditions with no group left that could be inlined. -/
def unlayered : Expr :=
  .group (headOf .cart 1 .every false) [
    numbered 2,
    .group (headOf .cart 3 .some true) [numbered 1, numbered 3, numbered 4, numbered 0],
    numbered 6, numbered 0]

theorem layered_runs_like_unlayered :
    Relation.ReflTransGen Inlines layered unlayered ∧
      ((layered.run byParity).trace.map (·.id), (layered.run byParity).outcome) =
        ([2, 1, 3, 4, 6, 0], .error .processor) ∧
      unlayered.run byParity = layered.run byParity := by
  have hempty : Inlines layered _ := @Inlines.part _ _ [numbered 2] [] _ rfl nofun
  have hinner := @Inlines.part (headOf .cart 3 .some true) (headOf .cart 4 .some true) [numbered 1]
    [numbered 3, numbered 4] [numbered 0] rfl (by simp)
  have hlast : Inlines _ unlayered := @Inlines.part _ (headOf .cart 5 .every true)
    [numbered 2, .group (headOf .cart 3 .some true) [numbered 1, numbered 3, numbered 4, numbered 0]]
    [numbered 6, numbered 0] [] rfl nofun
  have hsteps : Relation.ReflTransGen Inlines layered unlayered :=
    ((Relation.ReflTransGen.single hempty).tail
      (@Inlines.deeper _ [numbered 2] _ _ _ hinner)).tail hlast
  exact ⟨hsteps, rfl, inlining_keeps_run byParity hsteps⟩

-- Under "or" a group without parts may not be inlined: it holds, and its absence does not.
example :
    ((Expr.group (headOf .cart 1 .some false) [.group (headOf .cart 2 .some true) [],
        numbered 1]).run byParity).outcome = .ok true ∧
      ((Expr.group (headOf .cart 1 .some false) [numbered 1]).run byParity).outcome = .ok false :=
  ⟨rfl, rfl⟩

end Expr

end Rulebook
