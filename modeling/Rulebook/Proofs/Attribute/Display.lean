import Mathlib
import Rulebook.Proofs.Attribute.Interpretation
import Rulebook.Proofs.Enrichment.Completion

/-!
# What is displayed is what is decided

The rule set of an attribute is compiled for display, and compiled again when the attribute is to be
decided. Both times the same group comes out, whatever is cached in between, and the notes that are
put on it for display do not change what it decides. So the group that is shown decides the
attribute.
-/

namespace Rulebook

/-! ## Compiling twice -/

theorem Engine.kinds_settle (e : Engine) (s : Store) (asked : Bool) :
    (e.settle s asked).kinds s = e.kinds s := by
  cases asked with
  | false => rfl
  | true =>
    show ((e.load s).1.getOrLoad e.provider.scope fun _ => e.provider.load s).2 = (e.load s).2
    unfold load Cache.getOrLoad
    cases hcached : e.cache.get? e.provider.scope with
    | some stored => simp only [hcached]
    | none =>
      -- what has just been loaded is found the second time, and a load that fails fails again
      cases hload : e.provider.load s with
      | error f => simp only [hcached]
      | ok ds => simp only [Cache.get?_adopt]

theorem Engine.compiler_settle (e : Engine) (s : Store) (asked : Bool) :
    (e.settle s asked).compiler s = e.compiler s := by
  have hkinds := e.kinds_settle s asked
  have hsame : (e.settle s asked).provider = e.provider ∧ (e.settle s asked).maxDepth = e.maxDepth := by
    cases asked <;> exact ⟨rfl, rfl⟩
  simp only [compiler, visitor, hkinds, hsame]

/-! ## Display and decision -/

namespace Attribute

/-- What is decided follows what is displayed. -/
structure FollowsDisplay (selection : Selection) (shown : Result (Option Group))
    (decided : Result Bool) : Prop where
  /-- A group that is shown decides, with its outcome whatever it is. -/
  group : ∀ g, shown = .ok (some g) → decided = (g.run (processors selection)).outcome
  /-- Where nothing is shown, nothing stands in the way. -/
  nothing : shown = .ok none → decided = .ok true
  /-- An error of the rule engine is the same in both. -/
  error : ∀ e, shown = .error (.rule e) → decided = .error (.rule e)

namespace FollowsDisplay

variable {selection : Selection} {decided : Result Bool}

theorem of_group {g : Group} (h : decided = (g.run (processors selection)).outcome) :
    FollowsDisplay selection (.ok (some g)) decided :=
  ⟨fun _ hg => Option.some.inj (Except.ok.inj hg) ▸ h, nofun, nofun⟩

theorem of_nothing : FollowsDisplay selection (.ok none) (.ok true) where
  group _ h := by cases h
  nothing _ := rfl
  error _ h := by cases h

theorem of_failure {f : Failure} (h : ∀ e, f = .rule e → decided = .error (.rule e)) :
    FollowsDisplay selection (.error f) decided where
  group _ h := by cases h
  nothing h := by cases h
  error e he := h e (Except.error.inj he)

end FollowsDisplay

theorem followsDisplay_of_plain {c : Compiler} {annotator : Annotator}
    (hplain : ∀ e, ¬ annotator.MayFail (.rule e)) (a : VariantAttribute) (selection : Selection) :
    FollowsDisplay selection (displayGroup c annotator a false).result
      (matches? c (some a) selection none).result := by
  unfold displayGroup matches?
  simp only [Option.bind_some]
  cases a.ruleSetId with
  | none => exact .of_group (congrArg Run.outcome Expr.run_group_nil).symm
  | some id =>
    simp only [Outcome.result_bind, Outcome.result_ofResult]
    cases (c.compile false id).result with
    | error f => exact .of_failure fun e he => congrArg Except.error he
    | ok found =>
      cases found with
      | none => exact .of_nothing
      | some g =>
        show FollowsDisplay selection
          (Outcome.ofResult (annotator.annotate none g).toResult >>= fun g' => pure (some g')).result
          (decide selection none (some g))
        rw [decide_eq_outcome, Outcome.result_bind, Outcome.result_ofResult, Annotated.toResult]
        cases hfailure : (annotator.annotate none g).failure with
        | none =>
          -- the notes make no difference to the decision
          have hrun := Expr.run_noted (ignoresNotes_attribute selection)
            (annotate_noted annotator none g)
          exact .of_group hrun.outcome.symm
        | some f =>
          refine .of_failure fun e he => ?_
          exact absurd (he ▸ mayFail_of_annotate hfailure) (hplain e)

theorem not_mayFail_rule {e : Engine} {l : Localizer}
    (hproviders : e.optionsProviders = fun s => [VariantOptions.provider s l]) (s : Store)
    (error : RuleError) : ¬ (e.annotator s).MayFail (.rule error) := by
  rintro ⟨p, hp, language, c, hfails⟩
  change p ∈ e.optionsProviders s at hp
  rw [hproviders] at hp
  obtain rfl := List.mem_singleton.1 hp
  cases VariantOptions.selectedOptions_eq_error hfails

/-- An attribute is decided as its rule set is displayed: a group that is shown decides, nothing
shown means that it is offered, and an error of the rule engine is the same in both. This is so
whatever is cached, and whether or not the display has been asked for before. -/
theorem display_decides (l : Localizer) (language : String) (pageSize : Int) (maxDepth : Nat)
    (cache : Cache) (s : Store) (a : VariantAttribute) (selection : Selection) (asked : Bool) :
    let e : Engine := { Engine.attributes l language pageSize maxDepth with cache := cache }
    FollowsDisplay selection (displayGroup (e.compiler s) (e.annotator s) a false).result
      (matches? ((e.settle s asked).compiler s) (some a) selection none).result := by
  intro e
  rw [Engine.compiler_settle]
  exact followsDisplay_of_plain (not_mayFail_rule (l := l) rfl s) a selection

end Attribute

end Rulebook
