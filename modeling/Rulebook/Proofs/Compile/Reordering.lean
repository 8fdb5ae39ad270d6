import Mathlib
import Rulebook.Proofs.Compile.Chain
import Rulebook.Proofs.Compile.Nesting
import Rulebook.Proofs.Evaluation.Reordering

/-!
# The order of rules

Compilation reads the rules of a rule set in display order and stops at the first failure that is not
local. In another order another failure may come first. Whether there is one does not depend on the
order, and neither does what each rule adds: over a store whose rules are in another order compilation
fails as well, or it makes the same group with its parts in another order.
-/

namespace Rulebook

/-! ## Results in step -/

/-- Two results are both failures, local ones or not, or have answers that are related. -/
inductive Result.InStep {α β : Type} (R : α → β → Prop) : Result α → Result β → Prop where
  | ok {a : α} {b : β} (h : R a b) : InStep R (.ok a) (.ok b)
  | error {f f' : Failure} (hlocal : f.isLocal = f'.isLocal) : InStep R (.error f) (.error f')

theorem Result.InStep.bind {α β α' β' : Type} {R : α → β → Prop} {S : α' → β' → Prop}
    {x : Result α} {y : Result β} {k : α → Result α'} {l : β → Result β'} (h : InStep R x y)
    (hkl : ∀ a b, R a b → InStep S (k a) (l b)) : InStep S (x >>= k) (y >>= l) := by
  cases h with
  | ok h => exact hkl _ _ h
  | error hlocal => exact .error hlocal

theorem Result.InStep.refl {α : Type} {R : α → α → Prop} (hR : ∀ a, R a a) (x : Result α) :
    InStep R x x := by
  cases x with
  | ok a => exact .ok (hR a)
  | error f => exact .error rfl

/-! ## Stores in another order -/

/-- Two rule sets with the same rules, but for their display order. -/
structure RuleSet.Reordered (s s' : RuleSet) : Prop where
  id : s'.id = s.id
  scope : s'.scope = s.scope
  logicalOperator : s'.logicalOperator = s.logicalOperator
  isActive : s'.isActive = s.isActive
  isSubgroup : s'.isSubgroup = s.isSubgroup
  rules : (s.rules.map Rule.toDraft).Perm (s'.rules.map Rule.toDraft)

/-- Two stores with the same rule sets and the same catalog, but for the display order of rules. -/
structure Store.Reordered (st st' : Store) : Prop where
  catalog : st'.catalog = st.catalog
  ruleSets : List.Forall₂ RuleSet.Reordered st.ruleSets st'.ruleSets

/-- The store in which the rules have other places. -/
def Store.renumber (order : RuleSet → Rule → Int) (st : Store) : Store :=
  st.withRules fun s => s.rules.map fun r => { r with displayOrder := order s r }

theorem Store.reordered_renumber (order : RuleSet → Rule → Int) (st : Store) :
    st.Reordered (st.renumber order) where
  catalog := rfl
  ruleSets := by
    refine List.forall₂_map_right_iff.2 (List.forall₂_same.2 fun s _ => ?_)
    refine ⟨rfl, rfl, rfl, rfl, rfl, ?_⟩
    -- a draft knows nothing of the display order
    rw [List.map_map]
    exact .refl _

namespace RuleSet.Reordered

variable {s s' : RuleSet}

theorem toDraft_rules (h : s.Reordered s') : s.toDraft.rules.Perm s'.toDraft.rules := by
  have hdisplay (s : RuleSet) : s.toDraft.rules.Perm (s.rules.map Rule.toDraft) :=
    (List.mergeSort_perm s.rules _).map Rule.toDraft
  exact ((hdisplay s).trans h.rules).trans (hdisplay s').symm

/-- What is checked of a rule set does not depend on its rules. -/
theorem opening (h : s.Reordered s') (scope : Scope) (hidden : Bool) :
    Compiler.opening scope hidden s'.toDraft = Compiler.opening scope hidden s.toDraft := by
  have hdraft : s'.toDraft = { s.toDraft with rules := s'.toDraft.rules } := by
    simp only [toDraft, h.id, h.scope, h.logicalOperator, h.isActive, h.isSubgroup]
  rw [hdraft]
  rfl

end RuleSet.Reordered

theorem Store.Reordered.findRuleSet {st st' : Store} (h : st.Reordered st') (id : Int) :
    Result.InStep (Option.Rel RuleSet.Reordered) (st.findRuleSet id) (st'.findRuleSet id) := by
  have hsets := h.ruleSets
  unfold Store.findRuleSet rowOf?
  generalize st.ruleSets = sets at hsets ⊢
  generalize st'.ruleSets = sets' at hsets ⊢
  split
  · refine .ok ?_
    induction hsets with
    | nil => exact .none
    | @cons s s' rest rest' hs hrest ih =>
      rw [List.find?_cons, List.find?_cons, hs.id]
      cases decide (s.id = id) with
      | true => exact .some hs
      | false => exact ih
  · exact .error rfl

namespace Compiler

/-- What a number compiles to in two orders. -/
def GroupShuffles (g g' : Group) : Prop := g.toExpr.Shuffles g'.toExpr

/-- Two compilers over stores that differ in the display order of rules. -/
structure Reordered (c c' : Compiler) : Prop where
  visitor : c'.visitor = c.visitor
  depth : c'.maxDepth = c.maxDepth
  store : c.store.Reordered c'.store

/-! ## Rules in another order -/

section Parts

variable {v : Visitor} {nested nested' : Int → Result (Option Group)} {rules rules' : List DraftRule}

/-- The parts of a group are what its rules add, one by one. -/
theorem groupParts_eq_ok_iff {parts : List Expr} :
    groupParts v nested rules = .ok parts ↔
      ∃ added, List.Forall₂ (fun r e => contribution v nested r = .ok e) rules added ∧
        added.reduceOption = parts := by
  induction rules generalizing parts with
  | nil =>
    constructor
    · rintro ⟨⟩
      exact ⟨[], .nil, rfl⟩
    · rintro ⟨added, ⟨⟩, rfl⟩
      rfl
  | cons r rest ih =>
    have hcons (e : Option Expr) (added : List (Option Expr)) :
        (e :: added).reduceOption = e.toList ++ added.reduceOption := by
      cases e <;> rfl
    rw [groupParts_cons_eq_ok_iff]
    constructor
    · rintro ⟨e, more, he, hmore, rfl⟩
      obtain ⟨added, hadded, rfl⟩ := ih.1 hmore
      exact ⟨e :: added, .cons he hadded, hcons e added⟩
    · rintro ⟨added, hadded, rfl⟩
      cases hadded with
      | cons he hrest => exact ⟨_, _, he, ih.2 ⟨_, hrest, rfl⟩, hcons _ _⟩

theorem placed_inStep (rule : Option Int) {x y : Result (Option Group)}
    (h : Result.InStep (Option.Rel GroupShuffles) x y) :
    Result.InStep (Option.Rel Expr.Shuffles) (placed rule x) (placed rule y) := by
  cases h with
  | ok h =>
    cases h with
    | none => exact .ok .none
    | @some g g' h =>
      obtain ⟨head, parts⟩ := g
      obtain ⟨head', parts'⟩ := g'
      cases h with
      | group _ hperm h => exact .ok (.some (.group _ hperm h))
  | @error f f' hlocal =>
    cases hf : f.isLocal with
    | true =>
      rw [placed_local hf, placed_local (hlocal.symm.trans hf)]
      exact .ok .none
    | false =>
      rw [placed_error hf, placed_error (hlocal.symm.trans hf)]
      exact .error hlocal

theorem contribution_inStep
    (hnested : ∀ id, Result.InStep (Option.Rel GroupShuffles) (nested id) (nested' id))
    (r : DraftRule) :
    Result.InStep (Option.Rel Expr.Shuffles) (contribution v nested r)
      (contribution v nested' r) := by
  have hrefl (e : Option Expr) : Option.Rel Expr.Shuffles e e := by
    cases e with
    | none => exact .none
    | some e => exact .some (.refl e)
  unfold contribution
  split
  · cases r.reference? with
    | none => exact .ok .none
    | some id => exact placed_inStep r.id (hnested id)
  · exact .refl hrefl _

/-- The second parts are the first ones in another order, at any level. -/
def PartsShuffle (parts parts' : List Expr) : Prop :=
  ∃ moved, parts.Perm moved ∧ List.Forall₂ Expr.Shuffles moved parts'

/-- Rules in another order add the same parts, in another order. A rule that fails does so in every
order, though another one may come first. -/
theorem groupParts_inStep
    (hnested : ∀ id, Result.InStep (Option.Rel GroupShuffles) (nested id) (nested' id))
    (hperm : rules.Perm rules')
    (hlocal : ∀ f, groupParts v nested rules = .error f → f.isLocal = false)
    (hlocal' : ∀ f, groupParts v nested' rules' = .error f → f.isLocal = false) :
    Result.InStep PartsShuffle (groupParts v nested rules) (groupParts v nested' rules') := by
  cases hparts : groupParts v nested rules with
  | error f =>
    cases hparts' : groupParts v nested' rules' with
    | error f' => exact .error ((hlocal f hparts).trans (hlocal' f' hparts').symm)
    | ok parts' =>
      -- the rule that fails is there in both orders
      obtain ⟨r, hr, herror⟩ := exists_rule_of_groupParts_error hparts
      obtain ⟨e, he⟩ := exists_contribution_of_groupParts hparts' (hperm.mem_iff.1 hr)
      have hstep := contribution_inStep hnested r (v := v)
      rw [herror, he] at hstep
      cases hstep
  | ok parts =>
    obtain ⟨added, hadded, rfl⟩ := groupParts_eq_ok_iff.1 hparts
    -- first the rules move, and then what is nested in them does
    obtain ⟨moved, hmoved, hsame⟩ := List.perm_comp_forall₂ hperm.symm hadded
    obtain ⟨added', hadded', hshuffles⟩ : ∃ added',
        List.Forall₂ (fun r e => contribution v nested' r = .ok e) rules' added' ∧
          List.Forall₂ (Option.Rel Expr.Shuffles) moved added' := by
      clear hperm hlocal' hsame
      induction hmoved with
      | nil => exact ⟨[], .nil, .nil⟩
      | @cons r e rest more he _ ih =>
        obtain ⟨added', hadded', hshuffles⟩ := ih
        have hstep := contribution_inStep hnested r (v := v)
        rw [he] at hstep
        generalize hr : contribution v nested' r = x at hstep
        cases hstep with
        | @ok _ e' he' => exact ⟨e' :: added', .cons hr hadded', .cons he' hshuffles⟩
    rw [groupParts_eq_ok_iff.2 ⟨added', hadded', rfl⟩]
    exact .ok ⟨moved.reduceOption, hsame.symm.filterMap _,
      List.rel_filterMap (fun _ _ h => h) hshuffles⟩

end Parts

/-! ## Rule sets in another order -/

variable {c c' : Compiler}

theorem entry_inStep (h : c.Reordered c') (left : Nat) (path : List Int) (hidden : Bool) (id : Int) :
    Result.InStep (Option.Rel fun e e' => e.1.Reordered e'.1 ∧ e'.2 = e.2)
      (c.entry left path hidden id) (c'.entry left path hidden id) := by
  unfold entry
  split
  · exact .ok .none
  split
  · exact .error rfl
  refine (h.store.findRuleSet id).bind fun found found' hfound => ?_
  cases hfound with
  | none => exact .ok .none
  | @some s s' hs =>
    show Result.InStep _ (if left = 0 then _ else _) (if left = 0 then _ else _)
    split
    · exact .error rfl
    · rw [h.visitor, hs.opening]
      cases opening c.visitor.scope hidden s.toDraft with
      | error f => exact .error rfl
      | ok opened =>
        cases opened with
        | none => exact .ok .none
        | some head => exact .ok (.some ⟨hs, rfl⟩)

/-- Over stores that differ in the display order of rules, compilation fails alike, or makes the same
group with its parts in another order. -/
theorem resultBelow_inStep (h : c.Reordered c') (hkinds : c.visitor.LoadsPlainly) (left : Nat)
    (path : List Int) (hidden : Bool) (id : Int) :
    Result.InStep (Option.Rel GroupShuffles) (c.resultBelow left path hidden id)
      (c'.resultBelow left path hidden id) := by
  induction left using nesting_induction generalizing path hidden id with
  | step left ih =>
    have hentry := entry_inStep h left path hidden id
    rw [resultBelow_eq, resultBelow_eq]
    generalize hfirst : c.entry left path hidden id = x at hentry ⊢
    generalize c'.entry left path hidden id = y at hentry ⊢
    cases hentry with
    | error hlocal => exact .error hlocal
    | ok hentered =>
      cases hentered with
      | none => exact .ok .none
      | @some e e' he =>
        obtain ⟨s, head⟩ := e
        obtain ⟨s', head'⟩ := e'
        obtain ⟨hs, rfl⟩ := he
        show Result.InStep _ (groupParts _ _ s.toDraft.rules >>= _)
          (groupParts _ (c'.resultBelow _ (path ++ [s'.id]) _) s'.toDraft.rules >>= _)
        rw [h.visitor, hs.id]
        have hroom := ne_zero_of_entry hfirst
        have hparts := groupParts_inStep (fun id' => ih hroom (path ++ [s.id]) false id')
          hs.toDraft_rules (fun _ hf => isLocal_of_groupParts_error hkinds hf)
          (fun _ hf => isLocal_of_groupParts_error hkinds hf)
        exact hparts.bind fun _ _ ⟨_, hperm, hmoved⟩ => .ok (.some (.group head' hperm hmoved))

/-! ## Where conditions come from -/

/-- Every condition of compiled parts comes from a row of a rule set at the end of some chain. -/
theorem exists_row_of_mem_leaves {root : Int} {left : Nat} {path : List Int} {sets : List RuleSet}
    {last : RuleSet} {parts : List Expr} (hchain : Chain c.store c.visitor.scope root sets last)
    (h : groupParts c.visitor (c.resultBelow left path false) last.toDraft.rules = .ok parts)
    {l : Leaf} (hl : l ∈ parts.flatMap Expr.leaves) :
    ∃ sets last, Chain c.store c.visitor.scope root sets last ∧ ∃ r ∈ last.rules,
      r.isReference = false ∧ c.visitor.condition r.toDraft = .ok (some (.leaf l)) := by
  induction left using nesting_induction generalizing path sets last parts with
  | step left ih =>
    obtain ⟨e, he, hl⟩ := List.mem_flatMap.1 hl
    rcases exists_source_of_mem_parts h he with
      ⟨r, hr, href, hcondition⟩ | ⟨r, hr, id, g, href, hid, hg, rfl⟩
    · obtain ⟨stored, hstored, rfl⟩ := RuleSet.mem_toDraft_rules.1 hr
      obtain ⟨l', rfl⟩ := Visitor.exists_leaf_of_condition hcondition
      obtain rfl : l = l' := by simpa [Expr.leaves_leaf] using hl
      exact ⟨sets, last, hchain, stored, hstored, stored.isReference_toDraft ▸ href, hcondition⟩
    · -- the chain goes on to the rule set that the row refers to
      obtain ⟨s, hentry, hparts⟩ := resultBelow_eq_some_iff.1 hg
      rw [Expr.leaves_group] at hl
      cases entry_eq_iff.1 hentry with
      | entered hpos _ hfound hroom hopen =>
        have href' : last.RefersTo id := RuleSet.refersTo_toDraft.1 ⟨r, hr, href, hid⟩
        exact ih hroom (hchain.step href' hpos hfound (opens_iff.2 ⟨_, hopen⟩)) hparts hl

theorem exists_row_of_compile {root : Int} {hidden : Bool} {g : Group}
    (h : (c.compile hidden root).result = .ok (some g)) {l : Leaf} (hl : l ∈ g.toExpr.leaves) :
    ∃ sets last, Chain c.store c.visitor.scope root sets last ∧ ∃ r ∈ last.rules,
      r.isReference = false ∧ c.visitor.condition r.toDraft = .ok (some (.leaf l)) := by
  rw [result_compile] at h
  obtain ⟨s, hentry, hparts⟩ := resultBelow_eq_some_iff.1 h
  cases entry_eq_iff.1 hentry with
  | entered _ _ hfound _ _ =>
    rw [Group.toExpr, Expr.leaves_group] at hl
    exact exists_row_of_mem_leaves (.start hfound) hparts hl

end Compiler

end Rulebook
