import Mathlib
import Rulebook.Proofs.Attribute.Interpretation
import Rulebook.Proofs.Compile.Nesting
import Rulebook.Proofs.Compile.Unfolding
import Rulebook.Proofs.Evaluation.Reordering

/-!
# Another connective for the occasion

When an attribute is decided, another connective may take the place of that of its rule set. It takes
the place at the root only: every group below keeps the connective that is stored for it.

The two connectives lie on either side of the stored one. "And" answers that the attribute is offered
only where every part of the root does, and "or" that it is not only where no part does. Then no part
fails, so every other choice gives the same answer.
-/

namespace Rulebook

/-! ## Parts that agree -/

namespace Connective

variable {k : Connective} {answers : List (Result Bool)} {b : Bool}

/-- Answers that agree are combined to what they say, by either connective. -/
theorem combine_of_agree (hne : answers ≠ []) (h : ∀ x ∈ answers, x = .ok b) :
    k.combine answers = .ok b := by
  have hok : ∀ x ∈ answers, ∃ b, x = .ok b := fun x hx => ⟨b, h x hx⟩
  obtain ⟨x, hx⟩ := List.exists_mem_of_ne_nil answers hne
  by_cases hstop : b = k.stopsAt
  · have hmem : .ok k.stopsAt ∈ answers := by rwa [← hstop, ← h x hx]
    rw [combine_of_mem hok hmem, hstop]
  · have hmem : .ok k.stopsAt ∉ answers := fun hmem =>
      hstop (Except.ok.inj (h _ hmem)).symm
    rw [combine_of_not_mem hok hne hmem, (Bool.eq_not_of_ne hstop).symm]

/-- Where the answer is the one at which the connective does not stop, all parts agree. -/
theorem agree_of_combine_open (hne : answers ≠ []) (h : k.combine answers = .ok (!k.stopsAt)) :
    ∀ x ∈ answers, x = .ok (!k.stopsAt) := by
  rw [combine, if_neg (by simpa using hne)] at h
  cases hfind : answers.find? k.isSettledBy with
  | some y =>
    -- an answer that settles the group is another one
    rw [hfind] at h
    exact absurd h (isSettledBy_iff.1 (List.find?_some hfind))
  | none =>
    intro x hx
    exact isSettledBy_eq_false_iff.1 (by simpa using List.find?_eq_none.1 hfind x hx)

theorem combine_of_every (h : every.combine answers = .ok true) (k : Connective) :
    k.combine answers = .ok true := by
  by_cases hne : answers = []
  · rw [hne]
    rfl
  · exact combine_of_agree hne (agree_of_combine_open hne h)

theorem combine_of_some (h : some.combine answers = .ok false) (k : Connective) :
    k.combine answers = .ok false := by
  have hne : answers ≠ [] := by
    rintro rfl
    cases h
  exact combine_of_agree hne (agree_of_combine_open hne h)

end Connective

/-! ## Connectives that are stored -/

namespace Compiler

variable {c : Compiler}

theorem spells_of_compile {hidden : Bool} {id : Int} {g : Group}
    (h : (c.compile hidden id).result = .ok (some g)) :
    ∃ s, c.store.findRuleSet id = .ok (some s) ∧
      Spells (some s.logicalOperator) g.head.connective := by
  rw [result_compile] at h
  obtain ⟨s, hentry, -⟩ := resultBelow_eq_some_iff.1 h
  cases entry_eq_iff.1 hentry with
  | entered _ _ hfound _ hopen =>
    obtain ⟨-, -, k, hk, hhead⟩ := opening_stored_eq_some_iff.1 hopen
    refine ⟨s, hfound, ?_⟩
    rw [hhead]
    exact connectiveOf?_eq_some_iff.1 hk

/-- Every group of a compiled one has the connective that is stored under its number. -/
theorem spells_of_mem_walk {hidden : Bool} {id : Int} {g : Group}
    (h : (c.compile hidden id).result = .ok (some g)) {head : GroupHead} {parts : List Expr}
    (hmem : .group head parts ∈ g.walk) :
    ∃ s, c.store.findRuleSet head.id = .ok (some s) ∧
      Spells (some s.logicalOperator) head.connective := by
  have hroot : (c.compileRoot hidden (.number id)).result = .ok (some g) := h
  exact spells_of_compile (result_compile_of_mem_walk hroot hmem)

end Compiler

/-! ## Decisions -/

namespace Attribute

variable {c : Compiler} {a : Option VariantAttribute} {selection : Selection}

/-- The answer of "and" that an attribute is offered is that of every connective. -/
theorem offered_of_every (h : (matches? c a selection (some .every)).result = .ok true)
    (override : Option Connective) : (matches? c a selection override).result = .ok true := by
  obtain ⟨found, hfound, -⟩ :=
    Result.bind_eq_ok_iff.1 ((result_matches? c a selection _).symm.trans h)
  rw [result_matches?_of_compiled hfound] at h ⊢
  cases found with
  | none => rfl
  | some g =>
    rw [decide_eq_outcome, Expr.outcome_run_group] at h ⊢
    exact Connective.combine_of_every h _

/-- The answer of "or" that an attribute is not offered is that of every connective. -/
theorem not_offered_of_some (h : (matches? c a selection (some .some)).result = .ok false)
    (override : Option Connective) : (matches? c a selection override).result = .ok false := by
  obtain ⟨found, hfound, -⟩ :=
    Result.bind_eq_ok_iff.1 ((result_matches? c a selection _).symm.trans h)
  rw [result_matches?_of_compiled hfound] at h ⊢
  cases found with
  | none => cases h
  | some g =>
    rw [decide_eq_outcome, Expr.outcome_run_group] at h ⊢
    exact Connective.combine_of_some h _

/-- What a connective that is given for the occasion does to the decision about an attribute. -/
structure ReplacesRoot (c : Compiler) (a : Option VariantAttribute) (selection : Selection) :
    Prop where
  /-- Where there is nothing to decide, and where the rule set does not compile, it does nothing. -/
  nothing : compiledRules c a = .ok none →
    ∀ override, (matches? c a selection override).result = .ok true
  failed : ∀ f, compiledRules c a = .error f →
    ∀ override, (matches? c a selection override).result = .error f
  /-- The group that has been compiled decides, with the connective in place of its own. -/
  replaced : ∀ g, compiledRules c a = .ok (some g) → ∀ override, ∃ trace,
    Decides (processors selection)
      (.group { g.head with connective := override.getD g.head.connective } g.parts) trace
      (matches? c a selection override).result
  /-- The groups below have the connectives that are stored for their rule sets. -/
  stored : ∀ g, compiledRules c a = .ok (some g) → ∀ head parts, .group head parts ∈ g.walk →
    ∃ s, c.store.findRuleSet head.id = .ok (some s) ∧
      Spells (some s.logicalOperator) head.connective
  /-- The connective that the group has anyway makes no difference. -/
  own : ∀ g, compiledRules c a = .ok (some g) →
    (matches? c a selection (some g.head.connective)).result = (matches? c a selection none).result
  every : (matches? c a selection (some .every)).result = .ok true →
    ∀ override, (matches? c a selection override).result = .ok true
  some : (matches? c a selection (some .some)).result = .ok false →
    ∀ override, (matches? c a selection override).result = .ok false

/-- A connective that is given for the occasion replaces that of the root only, and the decisions that
it leads to lie between those of "and" and "or": an attribute that "and" offers is offered, and one
that "or" does not offer is not, without a failure, whichever connective is given, and with none. -/
theorem override_concerns_root_only (c : Compiler) (a : Option VariantAttribute)
    (selection : Selection) : ReplacesRoot c a selection where
  nothing h override := result_matches?_of_compiled h selection override
  failed f h override := by
    rw [result_matches?, h]
    rfl
  replaced g h override := by
    rw [result_matches?_of_compiled h, decide_eq_outcome]
    exact ⟨_, Expr.decides _ _⟩
  stored g h head parts hmem := by
    unfold compiledRules at h
    split at h
    · cases h
    · exact Compiler.spells_of_mem_walk h hmem
  own g h := by
    rw [result_matches?_of_compiled h, result_matches?_of_compiled h, decide_eq_outcome,
      decide_eq_outcome]
    rfl
  every := offered_of_every
  some := not_offered_of_some

/-- A size for the fifth colour, or for the ninth; the season, which nothing can decide, is asked for
last. -/
def seasonal : Store where
  catalog := [⟨3, 0, ⟨some "Colour", .null⟩⟩]
  ruleSets := [
    ⟨1, none, "product_attribute", "or", true, false,
      [⟨10, "variant3", "in", some "5", 0⟩, ⟨11, "group", "eq", some "2", 1⟩]⟩,
    ⟨2, none, "product_attribute", "or", true, true,
      [⟨12, "variant3", "in", some "9", 0⟩, ⟨13, "variant3", "not_in", some "9", 1⟩,
        ⟨14, "season", "eq", some "summer", 2⟩]⟩]
  attributes := [⟨20, 1, 4, some 1, 0⟩]
  values := []

/-- The nested "or" remains under an "and" at the root, or the answer would be another one. -/
theorem seasonal_offered_by_either :
    (matches? (sizedEngine.compiler seasonal) seasonal.attributes.head?
        (Choice.toSelection [(3, [5])]) (some .every)).result = .ok true ∧
      (matches? (sizedEngine.compiler seasonal) seasonal.attributes.head?
        (Choice.toSelection [(3, [5])]) (some .some)).result = .ok true ∧
      (matches? (sizedEngine.compiler seasonal) seasonal.attributes.head?
        (Choice.toSelection [(3, [5])]) none).result = .ok true := by
  have hevery : (matches? (sizedEngine.compiler seasonal) seasonal.attributes.head?
      (Choice.toSelection [(3, [5])]) (some .every)).result = .ok true := by
    cbv
  have hbracket := (override_concerns_root_only (sizedEngine.compiler seasonal)
    seasonal.attributes.head? (Choice.toSelection [(3, [5])])).every hevery
  exact ⟨hevery, hbracket _, hbracket _⟩

end Attribute

end Rulebook
