import Mathlib
import Rulebook.Proofs.Attribute.Interpretation
import Rulebook.Proofs.Compile.Reordering

/-!
# The order of rows

Whether an attribute is offered does not depend on the display order of the rows, as long as every
condition that may be asked is about an attribute of the catalog. Such conditions always have an
answer, so the order in which they are asked cannot bring out a failure, or hide one. What is left are
the failures of compilation, which come in every order or in none.
-/

namespace Rulebook

/-! ## The catalog in another order of rules -/

theorem Attribute.loadDescriptors_congr {st st' : Store} (h : st'.catalog = st.catalog)
    (l : Localizer) (language : String) (pageSize : Int) :
    loadDescriptors st' l language pageSize = loadDescriptors st l language pageSize := by
  simp only [loadDescriptors, catalogPages, Store.listCatalog, h]

theorem Engine.kinds_congr {e : Engine} {st st' : Store}
    (h : e.provider.load st' = e.provider.load st) : e.kinds st' = e.kinds st := by
  simp only [kinds, load, h]

namespace Attribute

variable {e : Engine} {st st' : Store} {l : Localizer} {language : String} {pageSize : Int}

theorem reordered_compiler (hprovider : e.provider = .attributes l language pageSize)
    (h : st.Reordered st') : (e.compiler st).Reordered (e.compiler st') where
  visitor := by
    have hload : e.provider.load st' = e.provider.load st := by
      rw [hprovider]
      exact loadDescriptors_congr h.catalog l language pageSize
    exact congrArg (Visitor.mk _) (Engine.kinds_congr hload)
  depth := rfl
  store := h

/-! ## Answers of conditions -/

/-- Every condition that may be asked for the rule set of a number is about an attribute of the
catalog. -/
def NamesAttributes (st : Store) (root : Int) : Prop :=
  ∀ sets last, Chain st .productAttribute root sets last → ∀ r ∈ last.rules,
    r.isReference = false → ∃ a ∈ st.catalog, Text.lowercase r.ruleType = kindName a.id

/-- A condition that is about an attribute of the catalog has an answer. -/
theorem exists_answer_of_condition (choice : Choice) {v : Visitor} (hv : ReadsCatalog v st) {r : Rule}
    (hr : ∃ a ∈ st.catalog, Text.lowercase r.ruleType = kindName a.id) {c : Leaf}
    (h : v.condition r.toDraft = .ok (some (.leaf c))) :
    ∃ b, answerOf choice (.leaf c) = .ok b := by
  obtain ⟨a, ha, hname⟩ := hr
  have hkind : kindOf? st.catalog r.ruleType = some a.id :=
    kindOf?_eq_some_iff.2 ⟨⟨a, ha, rfl⟩, hname⟩
  have hanswer := conditionAnswer?_of_condition choice hv h
  rw [conditionAnswer?, hkind] at hanswer
  -- the row counts, so its operator and its values are known
  obtain ⟨o, -, hanswer⟩ := Option.bind_eq_some_iff.1 hanswer
  obtain ⟨compare, -, hanswer⟩ := Option.bind_eq_some_iff.1 hanswer
  obtain ⟨ids, -, hanswer⟩ := Option.bind_eq_some_iff.1 hanswer
  exact ⟨_, (Option.some.inj hanswer).symm⟩

/-- In a compiled group every condition has an answer. -/
theorem exists_answer_of_mem_leaves (choice : Choice) {c : Compiler} (hv : ReadsCatalog c.visitor c.store)
    (hscope : c.visitor.scope = .productAttribute) {root : Int} {hidden : Bool}
    (hnamed : NamesAttributes c.store root) {g : Group}
    (h : (c.compile hidden root).result = .ok (some g)) :
    ∀ l ∈ g.toExpr.leaves, ∃ b, answerOf choice (.leaf l) = .ok b := by
  intro l hl
  obtain ⟨sets, last, hchain, r, hr, href, hcondition⟩ := Compiler.exists_row_of_compile h hl
  rw [hscope] at hchain
  exact exists_answer_of_condition choice hv (hnamed sets last hchain r hr href) hcondition

/-! ## Decisions -/

/-- Groups that differ in the order of parts only decide the same, where every condition has an
answer. -/
theorem decide_shuffled (choice : Choice) (override : Option Connective) {g g' : Group}
    (h : Compiler.GroupShuffles g g')
    (hleaves : ∀ l ∈ g.toExpr.leaves, ∃ b, answerOf choice (.leaf l) = .ok b) :
    ∃ b, decide choice.toSelection override (some g) = .ok b ∧
      decide choice.toSelection override (some g') = .ok b := by
  obtain ⟨head, parts⟩ := g
  obtain ⟨head', parts'⟩ := g'
  cases h with
  | group _ hperm hparts =>
    -- the connective may be replaced for the occasion, in both
    have hreplaced : Expr.Shuffles
        (.group { head with connective := override.getD head.connective } parts)
        (.group { head with connective := override.getD head.connective } parts') :=
      .group _ hperm hparts
    rw [Group.toExpr, Expr.leaves_group] at hleaves
    have hsame := Expr.outcome_eq_of_shuffles hreplaced (by rw [Expr.leaves_group]; exact hleaves)
    rw [Expr.outcome_run_group, Expr.outcome_run_group] at hsame
    rw [decide_some, decide_some]
    exact hsame

/-- The display order of rows makes no difference to whether an attribute is offered: over two stores
that differ in nothing else deciding it fails in both, or has the same answer in both. -/
theorem decision_ignores_row_order (e : Engine) (st st' : Store) (l : Localizer) (language : String)
    (pageSize : Int) (hprovider : e.provider = .attributes l language pageSize)
    (hsize : 1 ≤ pageSize) (hfresh : e.IsFresh st) (hsame : st.Reordered st')
    (a : Option VariantAttribute)
    (hnamed : ∀ id, a.bind (·.ruleSetId) = some id → NamesAttributes st id) (choice : Choice)
    (override : Option Connective) :
    (∃ f f', (matches? (e.compiler st) a choice.toSelection override).result = .error f ∧
      (matches? (e.compiler st') a choice.toSelection override).result = .error f') ∨
    ∃ b, (matches? (e.compiler st) a choice.toSelection override).result = .ok b ∧
      (matches? (e.compiler st') a choice.toSelection override).result = .ok b := by
  have hv : ReadsCatalog (e.visitor st) st := readsCatalog_of_isFresh hprovider hsize hfresh
  have hscope : (e.visitor st).scope = .productAttribute := by
    show e.provider.scope = _
    rw [hprovider]
    rfl
  unfold matches?
  cases hid : a.bind (·.ruleSetId) with
  | none => exact .inr ⟨true, rfl, rfl⟩
  | some id =>
    have hstep : Result.InStep (Option.Rel Compiler.GroupShuffles)
        ((e.compiler st).compile false id).result ((e.compiler st').compile false id).result :=
      Compiler.resultBelow_inStep (reordered_compiler hprovider hsame) hv.loadsPlainly _ [] false id
    simp only [Outcome.result_bind, Outcome.result_ofResult]
    generalize hcompiled : ((e.compiler st).compile false id).result = compiled at hstep ⊢
    generalize ((e.compiler st').compile false id).result = compiled' at hstep ⊢
    cases hstep with
    | error _ => exact .inl ⟨_, _, rfl, rfl⟩
    | ok hgroup =>
      right
      cases hgroup with
      | none => exact ⟨true, rfl, rfl⟩
      | some hshuffles =>
        exact decide_shuffled choice override hshuffles
          (exists_answer_of_mem_leaves choice hv hscope (hnamed id hid) hcompiled)

/-- The sized shop, its rows in the opposite order. -/
def sizedBackwards : Store := sized.renumber fun _ r => -r.displayOrder

theorem sized_decides_alike_backwards :
    sized.Reordered sizedBackwards ∧ NamesAttributes sized 1 ∧
      (matches? (sizedEngine.compiler sizedBackwards) sized.attributes.head?
        (Choice.toSelection [(3, [5])]) none).result = .ok true := by
  have hsame : sized.Reordered sizedBackwards := sized.reordered_renumber _
  have hnamed : NamesAttributes sized 1 := by
    have hrows : ∀ s ∈ sized.ruleSets, ∀ r ∈ s.rules, r.isReference = false →
        ∃ a ∈ sized.catalog, Text.lowercase r.ruleType = kindName a.id := by decide
    exact fun sets last hchain => hrows last hchain.last_mem
  refine ⟨hsame, hnamed, ?_⟩
  rcases decision_ignores_row_order sizedEngine sized sizedBackwards ⟨[], "en"⟩ "en" 10 rfl
    (by decide) (Engine.isFresh_attributes _ _ _ _ _) hsame sized.attributes.head?
    (by rintro id ⟨⟩; exact hnamed) [(3, [5])] none with ⟨f, f', hf, -⟩ | ⟨b, hb, hb'⟩
  · rw [result_matches?_sized] at hf
    cases hf
  · rw [result_matches?_sized] at hb
    rw [hb', hb]

end Attribute

end Rulebook
