import Mathlib
import Rulebook.Proofs.Compile.Ending

/-!
# Nested groups

A rule set below others is compiled below the path that leads to it, and with fewer nestings left
than at the top. Neither shows in its group: what comes out is what comes out at the top, except that
a nested group knows the rule that refers to it.
-/

namespace Rulebook

namespace Expr

theorem mem_listDescendants {e : Expr} {es : List Expr} :
    e ∈ listDescendants es ↔ ∃ part ∈ es, e ∈ part.withDescendants := by
  induction es with
  | nil => simp [listDescendants]
  | cons part rest ih => simp [listDescendants, ih]

@[simp] theorem mem_withDescendants_leaf {e : Expr} {l : Leaf} :
    e ∈ (leaf l).withDescendants ↔ e = .leaf l := by
  simp [withDescendants]

@[simp] theorem mem_withDescendants_group {e : Expr} {head : GroupHead} {parts : List Expr} :
    e ∈ (group head parts).withDescendants ↔ e = .group head parts ∨ e ∈ listDescendants parts := by
  simp [withDescendants]

end Expr

theorem Visitor.exists_leaf_of_condition {v : Visitor} {r : DraftRule} {e : Expr}
    (h : v.condition r = .ok (some e)) : ∃ l, e = .leaf l := by
  unfold condition at h
  cases hl : (v.visitRule r).result with
  | ok l =>
    rw [hl] at h
    cases h
    exact ⟨l, rfl⟩
  | error f =>
    rw [hl] at h
    -- a rule that cannot be read adds nothing, and other failures remain
    change Result.orNothing (.error f) = _ at h
    unfold Result.orNothing at h
    split at h <;> cases h

/-- A group that no rule refers to. -/
def GroupHead.unreferenced (head : GroupHead) : GroupHead := { head with refRuleId := none }

namespace Compiler

variable {c : Compiler} {hidden : Bool} {left : Nat} {path : List Int}

theorem head_of_resultBelow {id : Int} {g : Group}
    (h : c.resultBelow left path hidden id = .ok (some g)) :
    g.head.id = id ∧ g.head.unreferenced = g.head := by
  obtain ⟨s, hentry, -⟩ := resultBelow_eq_some_iff.1 h
  cases entry_eq_iff.1 hentry with
  | entered hpos hpath hfound hleft hopen =>
    -- the head is made from the rule set, and refers to no rule yet
    obtain ⟨-, -, k, -, hhead⟩ := opening_stored_eq_some_iff.1 hopen
    rw [hhead]
    exact ⟨Store.id_of_findRuleSet hfound, rfl⟩

/-- Every part of a group is the condition of a rule, or the group of a rule set that a rule refers
to. -/
theorem exists_source_of_mem_parts {v : Visitor} {nested : Int → Result (Option Group)}
    {rules : List DraftRule} {parts : List Expr} (h : groupParts v nested rules = .ok parts)
    {e : Expr} (he : e ∈ parts) :
    (∃ r ∈ rules, r.isReference = false ∧ v.condition r = .ok (some e)) ∨
      ∃ r ∈ rules, ∃ id g, r.isReference = true ∧ r.reference? = some id ∧
        nested id = .ok (some g) ∧ e = .group { g.head with refRuleId := r.id } g.parts := by
  obtain ⟨r, hr, hcontribution⟩ := exists_rule_of_mem_parts h he
  cases href : r.isReference with
  | false =>
    rw [contribution_of_condition href] at hcontribution
    exact .inl ⟨r, hr, href, hcontribution⟩
  | true =>
    right
    cases hid : r.reference? with
    | none => simp [contribution, href, hid] at hcontribution
    | some id =>
      rw [contribution_of_reference href hid] at hcontribution
      -- of all that the nested compilation may answer, only a group adds a part
      cases hnested : nested id with
      | error f =>
        rw [hnested] at hcontribution
        simp only [placed] at hcontribution
        split at hcontribution <;> cases hcontribution
      | ok found =>
        cases found with
        | none =>
          rw [hnested] at hcontribution
          cases hcontribution
        | some g =>
          rw [hnested, placed_group] at hcontribution
          cases hcontribution
          exact ⟨r, hr, id, g, href, hid, hnested, rfl⟩

/-- A part of a group that is a group itself is that of a rule set that some rule refers to. -/
theorem exists_nested_of_mem_parts {v : Visitor} {nested : Int → Result (Option Group)}
    {rules : List DraftRule} {parts : List Expr} (h : groupParts v nested rules = .ok parts)
    {e : Expr} (he : e ∈ parts) :
    (∃ l, e = .leaf l) ∨ ∃ id rule g, nested id = .ok (some g) ∧
      e = .group { g.head with refRuleId := rule } g.parts := by
  rcases exists_source_of_mem_parts h he with ⟨r, -, -, hcondition⟩ | ⟨r, -, id, g, -, -, hg, hgroup⟩
  · exact .inl (Visitor.exists_leaf_of_condition hcondition)
  · exact .inr ⟨id, r.id, g, hg, hgroup⟩

/-- Every group below the parts of a group has been compiled with no more nestings left than they
had. -/
theorem exists_resultBelow_of_mem_descendants {rules : List DraftRule} {parts : List Expr}
    (h : groupParts c.visitor (c.resultBelow left path false) rules = .ok parts) {head : GroupHead}
    {below : List Expr} (hmem : .group head below ∈ Expr.listDescendants parts) :
    ∃ left' path', left' ≤ left ∧
      c.resultBelow left' path' false head.id = .ok (some ⟨head.unreferenced, below⟩) := by
  induction left using nesting_induction generalizing path rules parts with
  | step left ih =>
    obtain ⟨e, he, hmem⟩ := Expr.mem_listDescendants.1 hmem
    rcases exists_nested_of_mem_parts h he with ⟨l, rfl⟩ | ⟨id, rule, g, hg, rfl⟩
    · simp at hmem
    rcases Expr.mem_withDescendants_group.1 hmem with hsame | hbelow
    · -- the group is the part itself
      obtain ⟨hid, hhead⟩ := head_of_resultBelow hg
      cases hsame
      refine ⟨left, path, Nat.le_refl _, ?_⟩
      show c.resultBelow _ _ _ g.head.id = .ok (some ⟨g.head.unreferenced, g.parts⟩)
      rw [hid, hhead]
      exact hg
    · -- the group is further down
      obtain ⟨s, hentry, hparts⟩ := resultBelow_eq_some_iff.1 hg
      obtain ⟨left', path', hleft, hresult⟩ := ih (ne_zero_of_entry hentry) hparts hbelow
      exact ⟨left', path', by omega, hresult⟩

/-- The failures that depend on where a rule set is compiled. -/
def IsPositional (f : Failure) : Prop :=
  (∃ id path, f = .rule (.cycle id path)) ∨ ∃ id depth, f = .rule (.depthExceeded id depth)

/-- A group that is compiled anywhere is compiled at the top. -/
theorem result_compile_of_resultBelow {id : Int} {g : Group} (hleft : left ≤ c.maxDepth)
    (h : c.resultBelow left path hidden id = .ok (some g)) :
    (c.compile hidden id).result = .ok (some g) := by
  -- every path holds what the empty one does, so the answers differ by positional failures only
  have hsame : SameUnless IsPositional (c.resultBelow left path hidden id)
      ((c.withDepth c.maxDepth).resultBelow c.maxDepth [] hidden id) := by
    refine resultBelow_sameUnless_deeper ?_ (fun id d => .inr ⟨id, d, rfl⟩)
      (.inr ⟨List.nil_subset _, fun id p => .inl ⟨id, p, rfl⟩⟩) hleft hidden id
    rintro f (⟨id, p, rfl⟩ | ⟨id, d, rfl⟩)
    · rfl
    · rfl
  exact hsame.eq_of_ok h

theorem result_compile_of_mem_walk {root : Root} {g : Group}
    (h : (c.compileRoot hidden root).result = .ok (some g)) {head : GroupHead} {parts : List Expr}
    (hmem : .group head parts ∈ g.walk) :
    (c.compile false head.id).result = .ok (some ⟨head.unreferenced, parts⟩) := by
  obtain ⟨s, path, -, -, hparts⟩ := exists_opening_of_compileRoot h
  obtain ⟨left', path', hleft, hresult⟩ := exists_resultBelow_of_mem_descendants hparts hmem
  exact result_compile_of_resultBelow (by omega) hresult

/-- Every group below a compiled one is, but for the rule that refers to it, the group that its rule
set is compiled to at the top; so wherever a rule set occurs below, its group is the same. -/
theorem nested_groups_compile_alike (c : Compiler) (hidden : Bool) (root : Root) (g : Group)
    (h : (c.compileRoot hidden root).result = .ok (some g)) :
    (∀ head parts, .group head parts ∈ g.walk →
      (c.compile false head.id).result = .ok (some ⟨head.unreferenced, parts⟩)) ∧
    ∀ head parts head' parts', .group head parts ∈ g.walk → .group head' parts' ∈ g.walk →
      head.id = head'.id → head.unreferenced = head'.unreferenced ∧ parts = parts' := by
  refine ⟨fun head parts hmem => result_compile_of_mem_walk h hmem, ?_⟩
  -- two groups of one number are compared with what that number is compiled to at the top
  intro head parts head' parts' hmem hmem' hid
  have hresult := result_compile_of_mem_walk h hmem
  have hresult' := result_compile_of_mem_walk h hmem'
  rw [hid, hresult'] at hresult
  have hgroup := Option.some.inj (Except.ok.inj hresult)
  exact ⟨(congrArg Group.head hgroup).symm, (congrArg Group.parts hgroup).symm⟩

/-- A rule set that refers to another one twice, once directly and once through a third. -/
def diamond : Compiler where
  visitor := ⟨.productAttribute, .ok ⟨[]⟩⟩
  store := {
    catalog := []
    ruleSets := [
      ⟨1, none, "product_attribute", "and", true, false,
        [⟨10, "group", "eq", some "2", 0⟩, ⟨11, "group", "eq", some "3", 1⟩]⟩,
      ⟨2, none, "product_attribute", "or", true, true, [⟨12, "group", "eq", some "3", 0⟩]⟩,
      ⟨3, none, "product_attribute", "and", true, true, [⟨13, "colour", "eq", some "red", 0⟩]⟩]
    attributes := []
    values := [] }
  maxDepth := 3

theorem groups_of_diamond_compile_alike :
    ∃ g, (diamond.compileRoot false (.number 1)).result = .ok (some g) ∧
      ∀ head parts, .group head parts ∈ g.walk →
        (diamond.compile false head.id).result = .ok (some ⟨head.unreferenced, parts⟩) := by
  have hcompiled : ∃ g, (diamond.compileRoot false (.number 1)).result = .ok (some g) :=
    ⟨_, by cbv⟩
  obtain ⟨g, hg⟩ := hcompiled
  exact ⟨g, hg, (nested_groups_compile_alike diamond false (.number 1) g hg).1⟩

end Compiler

end Rulebook
