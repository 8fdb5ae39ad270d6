import Mathlib
import Rulebook.Proofs.Compile.Chain
import Rulebook.Proofs.Compile.Nesting

/-!
# Hidden rule sets

Compilation may be asked to include hidden rule sets. This concerns the rule set that was asked for
and no other: the answer is that of a store in which it is active, and below it hidden rule sets are
left out all the same.

In the other store the rule set is active for everything that refers to it, too. No reference finds
out: it stands on the path of all rule sets below it, and the path is looked at before the store is.
-/

namespace Rulebook

/-- The rule set, made active if it is that of a number. -/
def RuleSet.activate (root : Int) (s : RuleSet) : RuleSet :=
  { s with isActive := s.isActive || s.id = root }

/-- The store in which the rule set of a number is active. -/
def Store.activate (root : Int) (st : Store) : Store :=
  { st with ruleSets := st.ruleSets.map (RuleSet.activate root) }

/-- The compiler over a store in which the rule set of a number is active. -/
def Compiler.activate (root : Int) (c : Compiler) : Compiler :=
  { c with store := c.store.activate root }

variable {root : Int}

theorem RuleSet.activate_of_ne {s : RuleSet} (h : s.id ≠ root) : s.activate root = s := by
  simp [activate, h]

theorem Store.findRuleSet_activate (root : Int) (st : Store) (id : Int) :
    (st.activate root).findRuleSet id = do
      return (← st.findRuleSet id).map (RuleSet.activate root) :=
  findRuleSet_map (RuleSet.activate root) (fun _ => rfl) st id

namespace Compiler

variable {c c' : Compiler} {left : Nat} {path : List Int} {hidden hidden' : Bool} {id : Int}

/-- Rule sets that are entered alike and have the same number and rules are compiled alike, if those
below them are. -/
theorem resultBelow_of_entry (change : RuleSet → RuleSet) (hvisitor : c'.visitor = c.visitor)
    (hid : ∀ s, (change s).id = s.id) (hrules : ∀ s, (change s).rules = s.rules)
    (hentry : c'.entry left path hidden' id = do
      return (← c.entry left path hidden id).map fun e => (change e.1, e.2))
    (hnested : left ≠ 0 → ∀ s, c.store.findRuleSet id = .ok (some s) →
      c'.resultBelow (left - 1) (path ++ [s.id]) false =
        c.resultBelow (left - 1) (path ++ [s.id]) false) :
    c'.resultBelow left path hidden' id = c.resultBelow left path hidden id := by
  rw [resultBelow_eq, resultBelow_eq, hentry]
  cases h : c.entry left path hidden id with
  | error f => rfl
  | ok entered =>
    rcases entered with _ | ⟨s, head⟩
    · rfl
    · cases entry_eq_iff.1 h with
      | entered _ _ hfound hleft _ =>
        have hdraft : (change s).toDraft.rules = s.toDraft.rules := by
          simp only [RuleSet.toDraft, RuleSet.orderedRules, hrules]
        show (groupParts _ (c'.resultBelow _ (path ++ [(change s).id]) _) _ >>= _) =
          (groupParts _ (c.resultBelow _ _ _) _ >>= _)
        rw [hid, hvisitor, hnested hleft s hfound, hdraft]

/-! ## Below the rule set -/

/-- With a number on the path it makes no difference whether its rule set is active: a reference to
it is a cycle before it is looked up. -/
theorem entry_activate_of_mem (hroot : root ∈ path) :
    (c.activate root).entry left path hidden id = do
      return (← c.entry left path hidden id).map fun e => (e.1.activate root, e.2) := by
  refine entry_of_change (RuleSet.activate root) rfl rfl (c.store.findRuleSet_activate root id)
    (fun _ => rfl) fun s hpath hfound => ?_
  have hne : s.id ≠ root := by
    rintro rfl
    rw [Store.id_of_findRuleSet hfound] at hroot
    exact hpath hroot
  rw [RuleSet.activate_of_ne hne]

theorem resultBelow_activate_of_mem (hroot : root ∈ path) :
    (c.activate root).resultBelow left path hidden id = c.resultBelow left path hidden id := by
  induction left using nesting_induction generalizing path hidden id with
  | step left ih =>
    refine resultBelow_of_entry (RuleSet.activate root) rfl (fun _ => rfl) (fun _ => rfl)
      (entry_activate_of_mem hroot) fun hleft s _ => ?_
    -- the path only grows, so the number stays on it
    exact funext fun id' => ih hleft (List.mem_append_left _ hroot)

/-! ## The rule set itself -/

/-- Once it is active, a rule set opens as it does if it may be seen. -/
theorem opening_activate {scope : Scope} {s : RuleSet} (hid : s.id = root)
    (hseen : hidden = true ∨ s.isActive = true) :
    opening scope false (s.activate root).toDraft = opening scope hidden s.toDraft := by
  have hactive : (!false && !(s.activate root).toDraft.isActive) = false := by
    simp [RuleSet.toDraft, RuleSet.activate, hid]
  have hseen' : (!hidden && !s.toDraft.isActive) = false := by
    rcases hseen with rfl | hseen
    · rfl
    · simp [RuleSet.toDraft, hseen]
  unfold opening
  rw [hactive, hseen']
  rfl

/-- A rule set that may be seen is compiled as it is once it is active. -/
theorem result_compile_activate (c : Compiler) (root : Int)
    (hseen : hidden = true ∨ ∀ s, c.store.findRuleSet root = .ok (some s) → s.isActive = true) :
    ((c.activate root).compile false root).result = (c.compile hidden root).result := by
  refine resultBelow_of_entry (RuleSet.activate root) rfl (fun _ => rfl) (fun _ => rfl) ?_ ?_
  · refine entry_of_change (RuleSet.activate root) rfl rfl (c.store.findRuleSet_activate root root)
      (fun _ => rfl) fun s _ hfound => ?_
    exact opening_activate (Store.id_of_findRuleSet hfound) (hseen.imp_right fun h => h s hfound)
  · -- from here on the rule set stands on the path
    intro _ s hfound
    refine funext fun id => resultBelow_activate_of_mem ?_
    simp [Store.id_of_findRuleSet hfound]

/-- Every group below a compiled one is that of an active rule set. -/
theorem exists_active_of_mem_walk {root : Root} {g : Group}
    (h : (c.compileRoot hidden root).result = .ok (some g)) {head : GroupHead} {parts : List Expr}
    (hmem : .group head parts ∈ g.walk) :
    ∃ s, c.store.findRuleSet head.id = .ok (some s) ∧ s.isActive = true := by
  obtain ⟨-, s, hfound, hopens⟩ := exists_opens_of_resultBelow (result_compile_of_mem_walk h hmem)
  exact ⟨s, hfound, hopens.visible.resolve_left Bool.false_ne_true⟩

/-- To include hidden rule sets concerns the rule set that is asked for only: the answer is that of
the store in which it is active, and the same either way where it is active already. Below it, no
group is that of a rule set that is not active. -/
theorem hidden_concerns_root_only (c : Compiler) (root : Int) :
    (c.compile true root).result = ((c.activate root).compile false root).result ∧
    ((∀ s, c.store.findRuleSet root = .ok (some s) → s.isActive = true) →
      (c.compile true root).result = (c.compile false root).result) ∧
    ∀ hidden g, (c.compile hidden root).result = .ok (some g) →
      ∀ head parts, .group head parts ∈ g.walk →
        ∃ s, c.store.findRuleSet head.id = .ok (some s) ∧ s.isActive = true := by
  have hroot := result_compile_activate c root (.inl rfl)
  refine ⟨hroot.symm, fun hactive => ?_, ?_⟩
  · exact hroot.symm.trans (result_compile_activate c root (.inr hactive))
  · intro hidden g hg head parts hmem
    have hg : (c.compileRoot hidden (.number root)).result = .ok (some g) := hg
    exact exists_active_of_mem_walk hg hmem

/-- A hidden rule set that refers to another hidden one and to one that is active. -/
def shaded : Compiler where
  visitor := ⟨.productAttribute, .ok ⟨[]⟩⟩
  store := {
    catalog := []
    ruleSets := [
      ⟨1, none, "product_attribute", "and", false, false,
        [⟨10, "group", "eq", some "2", 0⟩, ⟨11, "group", "eq", some "3", 1⟩]⟩,
      ⟨2, none, "product_attribute", "or", false, true, [⟨12, "colour", "eq", some "red", 0⟩]⟩,
      ⟨3, none, "product_attribute", "and", true, true, [⟨13, "colour", "eq", some "blue", 0⟩]⟩]
    attributes := []
    values := [] }
  maxDepth := 3

theorem shaded_compiles_like_active :
    (∀ s, (shaded.activate 1).store.findRuleSet 1 = .ok (some s) → s.isActive = true) ∧
      ((shaded.activate 1).compile true 1).result = ((shaded.activate 1).compile false 1).result ∧
      ∃ g, (shaded.compile true 1).result = .ok (some g) ∧
        ((shaded.activate 1).compile false 1).result = .ok (some g) ∧
        (∃ head parts, .group head parts ∈ g.walk) ∧
        ∀ head parts, .group head parts ∈ g.walk →
          ∃ s, shaded.store.findRuleSet head.id = .ok (some s) ∧ s.isActive = true := by
  have hactive : ∀ s, (shaded.activate 1).store.findRuleSet 1 = .ok (some s) →
      s.isActive = true := by
    rintro s ⟨⟩
    rfl
  have hcompiled : ∃ g, (shaded.compile true 1).result = .ok (some g) ∧
      ∃ head parts, .group head parts ∈ g.walk :=
    ⟨_, by cbv, _, _, List.mem_cons_self⟩
  obtain ⟨g, hg, hwalk⟩ := hcompiled
  obtain ⟨hsame, -, hbelow⟩ := hidden_concerns_root_only shaded 1
  exact ⟨hactive, (hidden_concerns_root_only (shaded.activate 1) 1).2.1 hactive, g, hg,
    hsame ▸ hg, hwalk, hbelow true g hg⟩

end Compiler

end Rulebook
