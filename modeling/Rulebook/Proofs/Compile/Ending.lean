import Rulebook.Proofs.Compile.Agreement

/-!
# How compilation ends

Compilation always ends, and only in ways that are documented: with nothing, with a group, with one
of the failures that stop it wherever they arise (`Compiler.Stop`), or because the connective of the
very rule set that was asked for is unknown.

A rule set below it with an unknown connective costs its parent the rule that refers to it. The
other rules are compiled as if that rule were not there.
-/

namespace Rulebook

/-! ## Stored numbers -/

/-- The numbers of a root are such as the store gives out and takes. -/
inductive Root.Numbered : Root → Prop where
  | number {id : Int} (hfits : Checked.fitsWord id = true) : Numbered (.number id)
  | entity {s : DraftRuleSet} {id : Int} (hid : s.id = some id)
      (hrules : ∀ r ∈ s.rules, ∃ n, r.id = some n)
      (hfits : ∀ id, s.RefersTo id → Checked.fitsWord id = true) : Numbered (.entity s)

/-- The rule set that a root stands for. -/
def Root.draft? (st : Store) : Root → Option DraftRuleSet
  | .number id => (st.findRuleSet id).toOption.join.map RuleSet.toDraft
  | .entity s => some s

theorem RuleSet.numbered_toDraft_rules {s : RuleSet} :
    ∀ r ∈ s.toDraft.rules, ∃ n, r.id = some n := by
  intro r hr
  obtain ⟨stored, -, rfl⟩ := RuleSet.mem_toDraft_rules.1 hr
  exact ⟨stored.id, rfl⟩

namespace Compiler

variable {c : Compiler} {hidden : Bool} {root : Root} {f : Failure}

/-- A group that is compiled has the head of the rule set that was asked for, opened, and the parts
that its rules make below a path. -/
theorem exists_opening_of_compileRoot {g : Group}
    (h : (c.compileRoot hidden root).result = .ok (some g)) :
    ∃ s path, root.draft? c.store = some s ∧ opening c.visitor.scope hidden s = .ok (some g.head) ∧
      groupParts c.visitor (c.resultBelow (c.maxDepth - 1) path false) s.rules = .ok g.parts := by
  cases root with
  | number id =>
    obtain ⟨s, hentry, hparts⟩ := resultBelow_eq_some_iff.1 h
    cases entry_eq_iff.1 hentry with
    | entered hpos hpath hfound hleft hopen =>
      exact ⟨s.toDraft, _, by simp [Root.draft?, hfound, Except.toOption], hopen, hparts⟩
  | entity s =>
    change (c.compileDraft hidden s).result = _ at h
    rw [result_compileDraft] at h
    -- a rule set at hand is opened without being looked up
    obtain ⟨opened, hopen, h⟩ := Result.bind_eq_ok_iff.1 h
    cases opened with
    | none => cases h
    | some head =>
      obtain ⟨parts, hparts, h⟩ := Result.bind_eq_ok_iff.1 h
      cases h
      exact ⟨s, _, rfl, hopen, hparts⟩

/-! ## Failures that stop compilation -/

/-- The failures that stop compilation wherever they arise. -/
inductive Stop (c : Compiler) : Failure → Prop where
  | cycle (id : Int) (path : List Int) : Stop c (.rule (.cycle id path))
  | tooDeep (id : Int) : Stop c (.rule (.depthExceeded id c.maxDepth))
  | foreign (scope : Option String) (id : Option Int) :
      Stop c (.rule (.scopeMismatch scope c.visitor.scope id))

/-- All the ways in which compilation ends. -/
inductive Ending (c : Compiler) (root : Root) : Result (Option Group) → Prop where
  | nothing : Ending c root (.ok none)
  | group (g : Group) : Ending c root (.ok (some g))
  | stopped {f : Failure} (hf : c.Stop f) : Ending c root (.error f)
  /-- The connective of the rule set that was asked for is unknown. -/
  | unreadable {s : DraftRuleSet} (hs : root.draft? c.store = some s)
      (hk : connectiveOf? s.logicalOperator = none) :
      Ending c root (.fail (.invalidRuleSet root.id (s.logicalOperator.getD "")))

/-- The rules of a rule set stop compilation or make its parts, as long as the rule sets that they
refer to stop compilation or fail locally. -/
theorem stop_of_groupParts_error (hkinds : ∃ kinds, c.visitor.kinds = .ok kinds)
    {nested : Int → Result (Option Group)} {s : DraftRuleSet}
    (hrules : ∀ r ∈ s.rules, ∃ n, r.id = some n)
    (hnested : ∀ id, s.RefersTo id → ∀ f, nested id = .error f → c.Stop f ∨ f.isLocal = true)
    (h : groupParts c.visitor nested s.rules = .error f) : c.Stop f := by
  rcases blame_of_groupParts_error h with ⟨id, href, hf, hlocal⟩ | ⟨r, hr, hcondition⟩
  · rcases hnested id href f hf with hstop | hlocal'
    · exact hstop
    · rw [hlocal] at hlocal'
      cases hlocal'
  · -- the descriptors are loaded and the rule has a number, so its condition cannot fail
    obtain ⟨kinds, hkinds⟩ := hkinds
    obtain ⟨n, hn⟩ := hrules r hr
    rw [Visitor.condition_of_id hkinds hn] at hcondition
    cases hcondition

/-- A failure that blames a number for the unknown connective of its rule set. -/
def Blames (c : Compiler) (id : Int) (f : Failure) : Prop :=
  ∃ s, c.store.findRuleSet id = .ok (some s) ∧ connectiveOf? (some s.logicalOperator) = none ∧
    f = .rule (.invalidRuleSet (some id) s.logicalOperator)

theorem stop_or_blames_of_entry {left : Nat} {path : List Int} {id : Int}
    (hid : Checked.fitsWord id = true) (h : c.entry left path hidden id = .error f) :
    c.Stop f ∨ c.Blames id f := by
  cases (entryFailure_of_entry h).2 with
  | cycle hpath => exact .inl (.cycle _ _)
  | outOfRange hout => simp [hid] at hout
  | tooDeep hpath hfound hleft => exact .inl (.tooDeep _)
  | foreign hpath hfound hscope => exact .inl (.foreign _ _)
  | unreadable hpath hfound hscope hk => exact .inr ⟨_, hfound, hk, rfl⟩

/-- Compilation of a number stops or blames this very number: whatever is wrong with connectives
further down is contained there. -/
theorem stop_or_blames_of_resultBelow (hkinds : ∃ kinds, c.visitor.kinds = .ok kinds)
    (hfits : c.store.ReferencesFit) {left : Nat} {path : List Int} {id : Int}
    (hid : Checked.fitsWord id = true) (h : c.resultBelow left path hidden id = .error f) :
    c.Stop f ∨ c.Blames id f := by
  induction left using nesting_induction generalizing path hidden id f with
  | step left ih =>
    rcases resultBelow_eq_error_iff.1 h with hentry | ⟨s, head, hentry, hparts⟩
    · exact stop_or_blames_of_entry hid hentry
    · left
      have hroom := ne_zero_of_entry hentry
      cases entry_eq_iff.1 hentry with
      | entered _ _ hfound _ _ =>
        refine stop_of_groupParts_error hkinds RuleSet.numbered_toDraft_rules ?_ hparts
        intro id' href f' hf'
        have hid' : Checked.fitsWord id' = true :=
          hfits s (Store.mem_of_findRuleSet hfound) id' (RuleSet.refersTo_toDraft.1 href)
        -- a rule set that is blamed one level down fails locally
        rcases ih hroom hid' hf' with hstop | ⟨s', -, -, rfl⟩
        · exact .inl hstop
        · exact .inr rfl

/-! ## Every ending is documented -/

theorem ending_compileDraft (hkinds : ∃ kinds, c.visitor.kinds = .ok kinds)
    (hfits : c.store.ReferencesFit) {s : DraftRuleSet} (hs : (Root.entity s).Numbered) :
    c.Ending (.entity s) (c.compileDraft hidden s).result := by
  cases hs with
  | entity hid hrules hrefs =>
    rw [result_compileDraft]
    cases hopen : opening c.visitor.scope hidden s with
    | error f =>
      -- the scope is checked before the connective, and the number is there
      rcases opening_eq_error_iff.1 hopen with ⟨-, rfl⟩ | ⟨-, -, hhead⟩
      · exact .stopped (.foreign _ _)
      · rcases head_eq_error hhead with ⟨hk, rfl⟩ | ⟨hnone, -⟩
        · exact .unreadable rfl hk
        · rw [hid] at hnone
          cases hnone
    | ok opened =>
      cases opened with
      | none => exact .nothing
      | some head =>
        show Ending c _ (groupParts _ _ _ >>= _)
        cases hparts : groupParts c.visitor (c.resultBelow (c.maxDepth - 1) s.id.toList false)
            s.rules with
        | ok parts => exact .group _
        | error f =>
          -- whatever a rule set further down is blamed for stays with the rule that refers to it
          refine .stopped (stop_of_groupParts_error hkinds hrules ?_ hparts)
          intro id' href f' hf'
          rcases stop_or_blames_of_resultBelow hkinds hfits (hrefs id' href) hf' with
            hstop | ⟨s', -, -, rfl⟩
          · exact .inl hstop
          · exact .inr rfl

theorem ending_compileRoot (hkinds : ∃ kinds, c.visitor.kinds = .ok kinds)
    (hfits : c.store.ReferencesFit) (hroot : root.Numbered) :
    c.Ending root (c.compileRoot hidden root).result := by
  cases root with
  | entity s => exact ending_compileDraft hkinds hfits hroot
  | number id =>
    cases hroot with
    | number hid =>
      show c.Ending _ (c.compile hidden id).result
      rw [result_compile]
      cases hresult : c.resultBelow c.maxDepth [] hidden id with
      | ok found =>
        cases found with
        | none => exact .nothing
        | some g => exact .group g
      | error f =>
        rcases stop_or_blames_of_resultBelow hkinds hfits hid hresult with
          hstop | ⟨s, hfound, hk, rfl⟩
        · exact .stopped hstop
        · exact .unreadable (s := s.toDraft) (by simp [Root.draft?, hfound, Except.toOption]) hk

end Compiler

/-! ## Rules that refer to unreadable rule sets -/

/-- The connective of the rule set of a number is unknown. -/
def Store.isUnreadable (st : Store) (id : Int) : Bool :=
  (st.findRuleSet id).toOption.join.any fun s => (connectiveOf? (some s.logicalOperator)).isNone

/-- A rule refers to a rule set whose connective is unknown. -/
def Store.refersToUnreadable (st : Store) (r : DraftRule) : Bool :=
  r.isReference && r.reference?.any st.isUnreadable

theorem Store.isUnreadable_iff {st : Store} {id : Int} :
    st.isUnreadable id = true ↔
      ∃ s, st.findRuleSet id = .ok (some s) ∧ connectiveOf? (some s.logicalOperator) = none := by
  unfold isUnreadable
  rcases st.findRuleSet id with f | _ | s <;> simp [Except.toOption]

theorem Store.refersToUnreadable_iff {st : Store} {r : DraftRule} :
    st.refersToUnreadable r = true ↔
      r.isReference = true ∧ ∃ id, r.reference? = some id ∧ st.isUnreadable id = true := by
  simp [refersToUnreadable, Option.any_eq_true]

/-- A root without the rules that refer to rule sets whose connectives are unknown. -/
def Root.readable (st : Store) : Root → Root
  | .number id => .number id
  | .entity s => .entity { s with rules := s.rules.filter fun r => !st.refersToUnreadable r }

namespace Compiler

variable {c : Compiler}

/-- The compiler over a store without the rules that refer to rule sets whose connectives are
unknown. -/
def readable (c : Compiler) : Compiler := c.thin fun _ r => !c.store.refersToUnreadable r.toDraft

/-- The failures that stop compilation at a rule set whose connective is unknown, before the
connective has been looked at. -/
inductive StopAtUnreadable (c : Compiler) : Failure → Prop where
  | cycle {id : Int} (hid : c.store.isUnreadable id = true) (path : List Int) :
      StopAtUnreadable c (.rule (.cycle id path))
  | tooDeep {id : Int} (hid : c.store.isUnreadable id = true) :
      StopAtUnreadable c (.rule (.depthExceeded id c.maxDepth))
  | foreign {id : Int} (hid : c.store.isUnreadable id = true) (scope : Option String) :
      StopAtUnreadable c (.rule (.scopeMismatch scope c.visitor.scope (some id)))

theorem StopAtUnreadable.isLocal {f : Failure} (h : c.StopAtUnreadable f) : f.isLocal = false := by
  cases h <;> rfl

/-- A rule that refers to a rule set whose connective is unknown adds nothing to its group, unless
compilation stops at that rule set. -/
theorem contribution_of_refersToUnreadable {r : DraftRule}
    (h : c.store.refersToUnreadable r = true) (left : Nat) (path : List Int) :
    SameUnless c.StopAtUnreadable (contribution c.visitor (c.resultBelow left path false) r)
      (.ok none) := by
  obtain ⟨href, id, hid, hunreadable⟩ := Store.refersToUnreadable_iff.1 h
  obtain ⟨s, hfound, hk⟩ := Store.isUnreadable_iff.1 hunreadable
  rw [contribution_of_reference href hid]
  cases hentry : c.entry left path false id with
  | ok entered =>
    cases entered with
    | none => rw [resultBelow_eq_none_iff.2 hentry]; exact .refl _
    | some entered =>
      cases entry_eq_iff.1 hentry with
      | entered hpos hpath hfound' hleft hopen =>
        -- a rule set that is entered has a known connective
        obtain ⟨-, -, k, hk', -⟩ := opening_stored_eq_some_iff.1 hopen
        rw [hfound'] at hfound
        cases hfound
        rw [hk] at hk'
        cases hk'
  | error f =>
    rw [resultBelow_eq_error_iff.2 (.inl hentry)]
    -- the connective is looked at last, and then costs the rule its place
    cases (entryFailure_of_entry hentry).2 with
    | cycle hpath => exact .inr ⟨_, .cycle hunreadable _, rfl⟩
    | outOfRange hout => simp [(Store.findRuleSet_eq_ok_iff.1 hfound).1] at hout
    | tooDeep hpath hfound hleft => exact .inr ⟨_, .tooDeep hunreadable, rfl⟩
    | foreign hpath hfound hscope => exact .inr ⟨_, .foreign hunreadable _, rfl⟩
    | unreadable hpath hfound hscope hk => exact .refl _

theorem resultBelow_readable (left : Nat) (path : List Int) (hidden : Bool) (id : Int) :
    SameUnless c.StopAtUnreadable (c.resultBelow left path hidden id)
      (c.readable.resultBelow left path hidden id) := by
  refine resultBelow_sameUnless_thin (fun f hf => hf.isLocal) ?_ left path hidden id
  intro s hs r hr hkeep left path
  exact contribution_of_refersToUnreadable (by simpa using hkeep) left path

theorem result_compileRoot_readable (hidden : Bool) (root : Root) :
    SameUnless c.StopAtUnreadable (c.compileRoot hidden root).result
      (c.readable.compileRoot hidden (root.readable c.store)).result := by
  have hroot : root.readable c.store = root.filterRules fun r => !c.store.refersToUnreadable r := by
    cases root <;> rfl
  rw [hroot]
  refine compileRoot_sameUnless (fun f hf => hf.isLocal) rfl rfl resultBelow_readable ?_
  exact fun r _ hkeep left path => contribution_of_refersToUnreadable (by simpa using hkeep) left path

/-- Compilation ends in one of the documented ways, and an unknown connective further down costs no
more than the rules that refer to its rule set: without them all else is compiled the same, unless
compilation stops at such a rule set before its connective is looked at. -/
theorem ends_as_documented (c : Compiler) (hidden : Bool) (root : Root)
    (hkinds : ∃ kinds, c.visitor.kinds = .ok kinds) (hfits : c.store.ReferencesFit)
    (hroot : root.Numbered) :
    c.Ending root (c.compileRoot hidden root).result ∧
      SameUnless c.StopAtUnreadable (c.compileRoot hidden root).result
        (c.readable.compileRoot hidden (root.readable c.store)).result :=
  ⟨ending_compileRoot hkinds hfits hroot, result_compileRoot_readable hidden root⟩

/-- A rule set that refers to another one whose connective is unknown. -/
def misspelt : Compiler where
  visitor := ⟨.productAttribute, .ok ⟨[]⟩⟩
  store := {
    catalog := []
    ruleSets := [
      ⟨1, none, "product_attribute", "and", true, false,
        [⟨10, "group", "eq", some "2", 0⟩, ⟨11, "colour", "eq", some "red", 1⟩]⟩,
      ⟨2, none, "product_attribute", "xor", true, true, []⟩]
    attributes := []
    values := [] }
  maxDepth := 3

theorem ending_of_misspelt :
    (∃ kinds, misspelt.visitor.kinds = .ok kinds) ∧ misspelt.store.ReferencesFit ∧
      (Root.number 1).Numbered ∧
      misspelt.Ending (.number 1) (misspelt.compileRoot false (.number 1)).result ∧
      SameUnless misspelt.StopAtUnreadable (misspelt.compileRoot false (.number 1)).result
        (misspelt.readable.compileRoot false (.number 1)).result := by
  have hkinds : ∃ kinds, misspelt.visitor.kinds = .ok kinds := ⟨_, rfl⟩
  have hfits : misspelt.store.ReferencesFit := by decide
  have hroot : (Root.number 1).Numbered := .number (by decide)
  exact ⟨hkinds, hfits, hroot, ends_as_documented misspelt false (.number 1) hkinds hfits hroot⟩

end Compiler

end Rulebook
