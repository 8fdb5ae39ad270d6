import Mathlib
import Rulebook.Proofs.Compile.Absence
import Rulebook.Proofs.Compile.Chain

/-!
# Idle rules

Some rules add nothing to the group of their rule set: conditions that cannot be converted, and
references that lead to no group. Such a rule leaves no trace, neither in the group nor on the path
that the rules after it are compiled below. Any number of them may be taken out of the store at once,
and every group is compiled as before.
-/

namespace Rulebook

namespace Compiler

variable {c : Compiler} {hidden : Bool} {left : Nat} {path : List Int}

/-- The rules that add nothing to a group. -/
inductive Idle (c : Compiler) (r : DraftRule) : Prop where
  /-- A condition that cannot be converted. -/
  | unconverted {rule : Option Int} {cause : ConversionCause} (href : r.isReference = false)
      (hread : (c.visitor.visitRule r).result = .fail (.conversion rule cause)) : Idle c r
  /-- A reference whose value is not a number. -/
  | unreadable (href : r.isReference = true) (hid : r.reference? = none) : Idle c r
  /-- A reference to a rule set that there is not, or could not be. -/
  | absent {id : Int} (href : r.isReference = true) (hid : r.reference? = some id)
      (hlacks : c.store.Lacks id) : Idle c r
  /-- A reference to a rule set that is not active. -/
  | inactive {id : Int} {s : RuleSet} (href : r.isReference = true) (hid : r.reference? = some id)
      (hfound : c.store.findRuleSet id = .ok (some s)) (hs : s.isActive = false) : Idle c r
  /-- A reference to a rule set whose connective is unknown. -/
  | unknownConnective {id : Int} {s : RuleSet} (href : r.isReference = true)
      (hid : r.reference? = some id) (hfound : c.store.findRuleSet id = .ok (some s))
      (hk : connectiveOf? (some s.logicalOperator) = none) : Idle c r

/-- A reference to a rule set that may not be read adds nothing, unless it stops compilation. -/
theorem contribution_sameUnless_nothing {r : DraftRule} {id : Int} (href : r.isReference = true)
    (hid : r.reference? = some id)
    (hclosed : ∀ s, 0 < id → c.store.findRuleSet id = .ok (some s) →
      ¬ s.Opens c.visitor.scope false) (left : Nat) (path : List Int) :
    SameUnless (fun f => f.isLocal = false)
      (contribution c.visitor (c.resultBelow left path false) r) (.ok none) := by
  rw [contribution_of_reference href hid]
  cases hresult : c.resultBelow left path false id with
  | error f =>
    cases hlocal : f.isLocal with
    | true => exact .inl (placed_local hlocal)
    | false => exact .inr ⟨f, hlocal, placed_error hlocal⟩
  | ok found =>
    cases found with
    | none => exact .refl _
    | some g =>
      -- a group would have come from a rule set that may be read
      obtain ⟨hpos, s, hfound, hopens⟩ := exists_opens_of_resultBelow hresult
      exact absurd hopens (hclosed s hpos hfound)

/-- An idle rule adds nothing wherever it is compiled, unless it stops compilation there. -/
theorem Idle.contribution {r : DraftRule} (h : c.Idle r) (left : Nat) (path : List Int) :
    SameUnless (fun f => f.isLocal = false)
      (contribution c.visitor (c.resultBelow left path false) r) (.ok none) := by
  cases h with
  | unconverted href hread =>
    left
    rw [contribution_of_condition href, Visitor.condition, hread]
    rfl
  | unreadable href hid =>
    left
    simp [Compiler.contribution, href, hid]
  | absent href hid hlacks =>
    refine contribution_sameUnless_nothing href hid (fun s hpos hfound _ => ?_) left path
    rcases hlacks with hle | hne
    · omega
    · exact hne s (Store.mem_of_findRuleSet hfound) (Store.id_of_findRuleSet hfound)
  | inactive href hid hfound hs =>
    refine contribution_sameUnless_nothing href hid (fun s' _ hfound' hopens => ?_) left path
    obtain rfl : _ = s' := Option.some.inj (Except.ok.inj (hfound.symm.trans hfound'))
    exact Bool.false_ne_true (hs.symm.trans (hopens.visible.resolve_left Bool.false_ne_true))
  | unknownConnective href hid hfound hk =>
    refine contribution_sameUnless_nothing href hid (fun s' _ hfound' hopens => ?_) left path
    obtain rfl : _ = s' := Option.some.inj (Except.ok.inj (hfound.symm.trans hfound'))
    obtain ⟨k, hk'⟩ := hopens.readable
    rw [hk] at hk'
    cases hk'

/-- Idle rules that are taken out of the store make no difference below a path, unless compilation
stops. -/
theorem resultBelow_sameUnless_idle {keep : RuleSet → Rule → Bool}
    (hstored : ∀ s ∈ c.store.ruleSets, ∀ r ∈ s.rules, keep s r = false → c.Idle r.toDraft)
    (left : Nat) (path : List Int) (hidden : Bool) (id : Int) :
    SameUnless (fun f => f.isLocal = false) (c.resultBelow left path hidden id)
      ((c.withRules fun s => s.rules.filter (keep s)).resultBelow left path hidden id) := by
  have hrules (s : RuleSet) :
      sortByPlace Rule.place (s.rules.filter (keep s)) = s.orderedRules.filter (keep s) :=
    (filter_sortByPlace Rule.place (keep s) s.rules).symm
  exact resultBelow_sameUnless_withRules_along _ (fun _ => True) (fun f hf => hf) hrules
    (fun _ _ _ _ => trivial)
    (fun s hs r hr hkeep left path _ => (hstored s hs r hr hkeep).contribution left path)
    left trivial hidden id

/-- Idle rules leave no trace: where a group is compiled, the same group is compiled from a store
without any number of them, and from a rule set at hand without any number of its own. -/
theorem idle_rules_leave_no_trace (c : Compiler) (hidden : Bool) (root : Root)
    (keep : RuleSet → Rule → Bool) (keepAtHand : DraftRule → Bool) (g : Group)
    (hstored : ∀ s ∈ c.store.ruleSets, ∀ r ∈ s.rules, keep s r = false → c.Idle r.toDraft)
    (hroot : ∀ r ∈ root.rules, keepAtHand r = false → c.Idle r)
    (h : (c.compileRoot hidden root).result = .ok (some g)) :
    ((c.withRules fun s => s.rules.filter (keep s)).compileRoot hidden
      (root.filterRules keepAtHand)).result = .ok (some g) := by
  have hsame : SameUnless (fun f => f.isLocal = false) (c.compileRoot hidden root).result
      ((c.withRules fun s => s.rules.filter (keep s)).compileRoot hidden
        (root.filterRules keepAtHand)).result :=
    compileRoot_sameUnless (fun f hf => hf) rfl rfl (resultBelow_sameUnless_idle hstored)
      fun r hr hkeep left path => (hroot r hr hkeep).contribution left path
  exact hsame.eq_of_ok h

/-- A rule set with a condition and a rule of every idle sort. -/
def cluttered : Compiler where
  visitor := ⟨.productAttribute, .ok ⟨[]⟩⟩
  store := {
    catalog := []
    ruleSets := [
      ⟨1, none, "product_attribute", "and", true, false,
        [⟨10, "colour", "eq", some "red", 5⟩, ⟨11, "colour", "like", some "red", 0⟩,
          ⟨12, "group", "eq", some "two", 1⟩, ⟨13, "group", "eq", some "99", 2⟩,
          ⟨14, "group", "eq", some "2", 3⟩, ⟨15, "group", "eq", some "3", 4⟩]⟩,
      ⟨2, none, "product_attribute", "and", false, true, []⟩,
      ⟨3, none, "product_attribute", "xor", true, true, []⟩]
    attributes := []
    values := [] }
  maxDepth := 3

theorem cluttered_compiles_alike_tidied :
    ∃ g, (cluttered.compileRoot false (.number 1)).result = .ok (some g) ∧
      ((cluttered.withRules fun s => s.rules.filter fun r => r.id = 10).compileRoot false
        (.number 1)).result = .ok (some g) := by
  have hidle : ∀ s ∈ cluttered.store.ruleSets, ∀ r ∈ s.rules, decide (r.id = 10) = false →
      cluttered.Idle r.toDraft := by
    simp only [cluttered, List.forall_mem_cons, List.not_mem_nil, false_imp_iff, implies_true,
      and_true]
    refine ⟨fun hkeep => absurd hkeep (by decide), ?_, ?_, ?_, ?_, ?_⟩
    · exact fun _ => .unconverted rfl (by cbv)
    · exact fun _ => .unreadable rfl (by cbv)
    · exact fun _ => .absent rfl (by cbv) (.inr (by decide))
    · exact fun _ => .inactive rfl (by cbv) rfl rfl
    · exact fun _ => .unknownConnective rfl (by cbv) rfl (by cbv)
  have hcompiled : ∃ g, (cluttered.compileRoot false (.number 1)).result = .ok (some g) :=
    ⟨_, by cbv⟩
  obtain ⟨g, hg⟩ := hcompiled
  exact ⟨g, hg, idle_rules_leave_no_trace cluttered false (.number 1) (fun _ r => r.id = 10)
    (fun _ => true) g hidle (fun _ hr => absurd hr List.not_mem_nil) hg⟩

end Compiler

end Rulebook
