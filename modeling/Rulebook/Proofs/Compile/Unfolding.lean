import Mathlib
import Rulebook.Proofs.Compile.Ending
import Rulebook.Proofs.Validation.Reading

/-!
# Unfolding stored rows

`Compiler.RulesUnfold` says what the parts of a group are, of the rules alone: in order, each rule
either adds one part or adds none, and it is said of each when it does the one or the other.

- A rule that is no reference adds a condition if it can be read (`Visitor.Reads`).
- A reference adds the group of the rule set that it brings in (`Store.BringsIn`), unfolded likewise.

No path, depth or failure occurs in this. Wherever compilation gives a group, that group is the
unfolding of its rule set, and the only one.
-/

namespace Rulebook

/-! ## Stored names -/

/-- A stored logical operator stands for a connective: for its name in any case, and for "and" where
nothing is stored. -/
inductive Spells : Option String → Connective → Prop where
  | unset : Spells none .every
  | empty : Spells (some "") .every
  | named {s : String} {k : Connective} (hne : s ≠ "") (hname : Text.lowercase s = k.name) :
      Spells (some s) k

theorem connectiveOf?_eq_some_iff {stored : Option String} {k : Connective} :
    connectiveOf? stored = some k ↔ Spells stored k := by
  constructor
  · intro h
    unfold connectiveOf? at h
    split at h
    · cases h
      exact .unset
    · next s =>
      split at h
      · next hempty =>
        cases h
        rw [String.isEmpty_iff.1 hempty]
        exact .empty
      · next hempty =>
        refine .named (fun hs => hempty ?_) (Connective.ofName?_eq_some_iff.1 h)
        rw [hs]
        rfl
  · rintro (- | - | ⟨hne, hname⟩)
    · rfl
    · rfl
    · simp [connectiveOf?, hne, Connective.ofName?_eq_some_iff, hname]

/-! ## Conditions -/

/-- What a rule is read as: a descriptor, an operator and a value. -/
inductive Visitor.Reads (v : Visitor) (kinds : Collection) (r : DraftRule) :
    Descriptor → Operator → Value → Prop where
  | known {d : Descriptor} {o : Operator} {value : Value} (hd : kinds.find? r.ruleType = some d)
      (ho : r.operator = some o.name) (hallowed : d.isValid = true → o ∈ d.operators)
      (hvalue : d.kind.convert r.value = .ok value) : Reads v kinds r d o value
  /-- Where no descriptor is found, any operator will do, and the value is kept as a text. -/
  | unknown {o : Operator} (hd : kinds.find? r.ruleType = none) (ho : r.operator = some o.name) :
      Reads v kinds r (.unknown v.scope r.ruleType) o (r.value.elim .null .text)

namespace Visitor

variable {v : Visitor} {kinds : Collection} {r : DraftRule} {d : Descriptor} {o : Operator}
  {value : Value}

theorem reads?_eq_some_iff :
    d.reads? r = some (o, value) ↔ r.operator = some o.name ∧
      (d.isValid = true → o ∈ d.operators) ∧ d.kind.convert r.value = .ok value := by
  have hname : r.operator.bind Operator.ofName? = some o ↔ r.operator = some o.name := by
    simp [Option.bind_eq_some_iff, Operator.ofName?_eq_some_iff]
  rw [← hname]
  unfold Descriptor.reads?
  cases r.operator.bind Operator.ofName? with
  | none => simp
  | some o' =>
    cases d.kind.convert r.value with
    | error e => simp
    | ok value' =>
      simp only [Option.ite_none_left_eq_some, Option.some.injEq, Prod.mk.injEq, Except.ok.injEq]
      constructor
      · rintro ⟨hallowed, rfl, rfl⟩
        exact ⟨rfl, fun hvalid => by simpa [hvalid] using hallowed, rfl⟩
      · rintro ⟨rfl, hallowed, rfl⟩
        refine ⟨fun hrefused => ?_, rfl, rfl⟩
        obtain ⟨hvalid, hrefused⟩ := Bool.and_eq_true_iff.1 hrefused
        simp [hallowed hvalid] at hrefused

theorem convert_unknown (v : Visitor) (r : DraftRule) :
    (Descriptor.unknown v.scope r.ruleType).kind.convert r.value =
      .ok (r.value.elim .null .text) := by
  cases r.value <;> rfl

theorem reads_iff : v.Reads kinds r d o value ↔
    d = v.kindOf kinds r ∧ d.reads? r = some (o, value) := by
  rw [reads?_eq_some_iff]
  constructor
  · intro h
    cases h with
    | known hd ho hallowed hvalue => exact ⟨by simp [kindOf, hd], ho, hallowed, hvalue⟩
    | unknown hd ho => exact ⟨by simp [kindOf, hd], ho, nofun, convert_unknown v r⟩
  · rintro ⟨rfl, ho, hallowed, hvalue⟩
    cases hd : kinds.find? r.ruleType with
    | some d =>
      have hkind : v.kindOf kinds r = d := by simp [kindOf, hd]
      rw [hkind] at hallowed hvalue ⊢
      exact .known hd ho hallowed hvalue
    | none =>
      have hkind : v.kindOf kinds r = .unknown v.scope r.ruleType := by simp [kindOf, hd]
      rw [hkind, convert_unknown] at hvalue
      cases hvalue
      rw [hkind]
      exact .unknown hd ho

/-- A rule is read in one way at most. -/
theorem Reads.unique {d' : Descriptor} {o' : Operator} {value' : Value}
    (h : v.Reads kinds r d o value) (h' : v.Reads kinds r d' o' value') :
    d = d' ∧ o = o' ∧ value = value' := by
  -- both readings are what the one descriptor of the rule reads
  obtain ⟨rfl, hreads⟩ := reads_iff.1 h
  obtain ⟨rfl, hreads'⟩ := reads_iff.1 h'
  rw [hreads] at hreads'
  cases hreads'
  exact ⟨rfl, rfl, rfl⟩

/-- Wherever a condition does not fail, the descriptors have been loaded. -/
theorem exists_kinds_of_condition (hplain : v.LoadsPlainly) {e : Option Expr}
    (h : v.condition r = .ok e) : ∃ kinds, v.kinds = .ok kinds := by
  cases hkinds : v.kinds with
  | ok kinds => exact ⟨kinds, rfl⟩
  | error f =>
    unfold condition at h
    rw [result_visitRule, hkinds] at h
    -- a failure to load is passed on, unless it is taken for one of the rule
    cases f with
    | rule e => exact absurd hkinds (hplain e)
    | _ => cases h

end Visitor

/-! ## References -/

/-- A reference brings in a rule set: its value is the number of one that is active and whose
connective is known. -/
structure Store.BringsIn (st : Store) (r : DraftRule) (s : RuleSet) : Prop where
  named : ∃ id, r.reference? = some id ∧ 0 < id ∧ st.findRuleSet id = .ok (some s)
  active : s.isActive = true
  readable : ∃ k, Spells (some s.logicalOperator) k

theorem Store.BringsIn.unique {st : Store} {r : DraftRule} {s s' : RuleSet}
    (h : st.BringsIn r s) (h' : st.BringsIn r s') : s = s' := by
  obtain ⟨id, hid, -, hfound⟩ := h.named
  obtain ⟨id', hid', -, hfound'⟩ := h'.named
  rw [hid] at hid'
  cases hid'
  rw [hfound] at hfound'
  cases hfound'
  rfl

/-- What the head of the group of a rule set says, where the group is expanded from a rule. -/
structure GroupHead.Describes (head : GroupHead) (scope : Scope) (s : DraftRuleSet)
    (rule : Option Int) : Prop where
  id : s.id = some head.id
  value : head.value = .int head.id
  rawValue : head.rawValue = some (toString head.id)
  connective : Spells s.logicalOperator head.connective
  isSubgroup : head.isSubgroup = s.isSubgroup
  descriptor : head.descriptor = .composite scope
  operator : head.operator = .equal
  notes : head.notes = []
  refRuleId : head.refRuleId = rule

theorem GroupHead.describes_iff {head : GroupHead} {scope : Scope} {s : DraftRuleSet}
    {rule : Option Int} :
    head.Describes scope s rule ↔ ∃ h, s.head scope = .ok h ∧ head = { h with refRuleId := rule } := by
  constructor
  · intro h
    refine ⟨_, Compiler.head_eq_ok_iff.2 ⟨head.connective, head.id,
      connectiveOf?_eq_some_iff.2 h.connective, h.id, rfl⟩, ?_⟩
    obtain ⟨-, hvalue, hraw, -, hsub, hdescriptor, hoperator, hnotes, hrule⟩ := h
    cases head
    dsimp only at *
    subst hvalue hraw hsub hdescriptor hoperator hnotes hrule
    rfl
  · rintro ⟨h, hhead, rfl⟩
    obtain ⟨k, id, hk, hid, rfl⟩ := Compiler.head_eq_ok_iff.1 hhead
    exact ⟨hid, rfl, rfl, connectiveOf?_eq_some_iff.1 hk, rfl, rfl, rfl, rfl, rfl⟩

theorem GroupHead.describes_of_head {head : GroupHead} {scope : Scope} {s : DraftRuleSet}
    (h : s.head scope = .ok head) : head.Describes scope s none := by
  obtain ⟨k, id, -, -, rfl⟩ := Compiler.head_eq_ok_iff.1 h
  exact GroupHead.describes_iff.2 ⟨_, h, rfl⟩

theorem GroupHead.Describes.unique {head head' : GroupHead} {scope : Scope} {s : DraftRuleSet}
    {rule : Option Int} (h : head.Describes scope s rule) (h' : head'.Describes scope s rule) :
    head = head' := by
  obtain ⟨h₁, hhead, rfl⟩ := GroupHead.describes_iff.1 h
  obtain ⟨h₂, hhead', rfl⟩ := GroupHead.describes_iff.1 h'
  rw [hhead] at hhead'
  cases hhead'
  rfl

namespace Compiler

/-! ## Unfolding -/

/-- The parts that rules unfold to, in their order. -/
inductive RulesUnfold (c : Compiler) : List DraftRule → List Expr → Prop where
  | nil : RulesUnfold c [] []
  | condition {r : DraftRule} {rest : List DraftRule} {kinds : Collection} {id : Int}
      {d : Descriptor} {o : Operator} {value : Value} {parts : List Expr}
      (href : r.isReference = false) (hkinds : c.visitor.kinds = .ok kinds)
      (hread : c.visitor.Reads kinds r d o value) (hid : r.id = some id)
      (hrest : RulesUnfold c rest parts) :
      RulesUnfold c (r :: rest) (.leaf ⟨id, some d, o, value, r.value, []⟩ :: parts)
  /-- A rule that cannot be read adds nothing. -/
  | unread {r : DraftRule} {rest : List DraftRule} {kinds : Collection} {parts : List Expr}
      (href : r.isReference = false) (hkinds : c.visitor.kinds = .ok kinds)
      (hread : ∀ d o value, ¬c.visitor.Reads kinds r d o value) (hrest : RulesUnfold c rest parts) :
      RulesUnfold c (r :: rest) parts
  /-- The group says which rule it has been expanded from, and is unfolded like any other. -/
  | reference {r : DraftRule} {rest : List DraftRule} {s : RuleSet} {head : GroupHead}
      {below parts : List Expr} (href : r.isReference = true) (hs : c.store.BringsIn r s)
      (hscope : s.scope = c.visitor.scope.name)
      (hhead : head.Describes c.visitor.scope s.toDraft r.id)
      (hbelow : RulesUnfold c s.toDraft.rules below) (hrest : RulesUnfold c rest parts) :
      RulesUnfold c (r :: rest) (.group head below :: parts)
  /-- A reference that brings nothing in adds nothing. -/
  | unreferred {r : DraftRule} {rest : List DraftRule} {parts : List Expr}
      (href : r.isReference = true) (hs : ∀ s, ¬c.store.BringsIn r s)
      (hrest : RulesUnfold c rest parts) : RulesUnfold c (r :: rest) parts

/-- A group is the unfolding of a rule set that is not referred to. -/
structure Unfolds (c : Compiler) (s : DraftRuleSet) (g : Group) : Prop where
  head : g.head.Describes c.visitor.scope s none
  parts : c.RulesUnfold s.rules g.parts

section Unique

variable {c : Compiler}

/-- Rules unfold in one way at most. -/
theorem RulesUnfold.unique {rules : List DraftRule} {parts parts' : List Expr}
    (h : c.RulesUnfold rules parts) (h' : c.RulesUnfold rules parts') : parts = parts' := by
  -- the conditions under which a rule adds a part and adds none exclude each other
  induction h generalizing parts' with
  | nil =>
    cases h'
    rfl
  | condition href hkinds hread hid hrest ih =>
    cases h' with
    | condition href' hkinds' hread' hid' hrest' =>
      rw [hkinds] at hkinds'
      cases hkinds'
      rw [hid] at hid'
      cases hid'
      obtain ⟨rfl, rfl, rfl⟩ := hread.unique hread'
      rw [ih hrest']
    | unread href' hkinds' hread' hrest' =>
      rw [hkinds] at hkinds'
      cases hkinds'
      exact absurd hread (hread' _ _ _)
    | reference href' => simp [href] at href'
    | unreferred href' => simp [href] at href'
  | unread href hkinds hread hrest ih =>
    cases h' with
    | condition href' hkinds' hread' hid' hrest' =>
      rw [hkinds] at hkinds'
      cases hkinds'
      exact absurd hread' (hread _ _ _)
    | unread href' hkinds' hread' hrest' => exact ih hrest'
    | reference href' => simp [href] at href'
    | unreferred href' => simp [href] at href'
  | reference href hs hscope hhead hbelow hrest ihbelow ihrest =>
    cases h' with
    | condition href' => simp [href] at href'
    | unread href' => simp [href] at href'
    | reference href' hs' hscope' hhead' hbelow' hrest' =>
      obtain rfl := hs.unique hs'
      rw [hhead.unique hhead', ihbelow hbelow', ihrest hrest']
    | unreferred href' hs' hrest' => exact absurd hs (hs' _)
  | unreferred href hs hrest ih =>
    cases h' with
    | condition href' => simp [href] at href'
    | unread href' => simp [href] at href'
    | reference href' hs' hscope' hhead' hbelow' hrest' => exact absurd hs' (hs _)
    | unreferred href' hs' hrest' => exact ih hrest'

theorem Unfolds.unique {s : DraftRuleSet} {g g' : Group} (h : c.Unfolds s g)
    (h' : c.Unfolds s g') : g = g' := by
  obtain ⟨head, parts⟩ := g
  obtain ⟨head', parts'⟩ := g'
  have hhead : head = head' := h.head.unique h'.head
  have hparts : parts = parts' := h.parts.unique h'.parts
  rw [hhead, hparts]

end Unique

/-! ## Compiled groups -/

variable {c : Compiler} {left : Nat} {path : List Int} {r : DraftRule}

theorem rulesUnfold_of_condition (hplain : c.visitor.LoadsPlainly) (href : r.isReference = false)
    {e : Option Expr} (h : c.visitor.condition r = .ok e) {rest : List DraftRule}
    {parts : List Expr} (hrest : c.RulesUnfold rest parts) :
    c.RulesUnfold (r :: rest) (e.toList ++ parts) := by
  obtain ⟨kinds, hkinds⟩ := Visitor.exists_kinds_of_condition hplain h
  rw [Visitor.condition_eq hkinds] at h
  cases hreads : (c.visitor.kindOf kinds r).reads? r with
  | none =>
    rw [hreads] at h
    cases h
    apply RulesUnfold.unread href hkinds _ hrest
    intro d o value hread
    obtain ⟨rfl, hread⟩ := Visitor.reads_iff.1 hread
    rw [hreads] at hread
    cases hread
  | some read =>
    rw [hreads] at h
    -- a rule that is read is shown, which takes a number
    cases hid : r.id with
    | none =>
      rw [hid] at h
      cases h
    | some id =>
      rw [hid] at h
      cases h
      exact .condition href hkinds (Visitor.reads_iff.2 ⟨rfl, hreads⟩) hid hrest

/-- The group that a reference adds is that of the rule set that it brings in. -/
theorem exists_bringsIn_of_group {id : Int} {g : Group} (hid : r.reference? = some id)
    (h : c.resultBelow left path false id = .ok (some g)) :
    ∃ s, c.store.BringsIn r s ∧ s.scope = c.visitor.scope.name ∧
      s.toDraft.head c.visitor.scope = .ok g.head ∧ left ≠ 0 ∧
      groupParts c.visitor (c.resultBelow (left - 1) (path ++ [s.id]) false) s.toDraft.rules =
        .ok g.parts := by
  obtain ⟨s, hentry, hparts⟩ := resultBelow_eq_some_iff.1 h
  cases entry_eq_iff.1 hentry with
  | entered hpos hpath hfound hleft hopen =>
    obtain ⟨hscope, hactive, k, hk, -⟩ := opening_stored_eq_some_iff.1 hopen
    refine ⟨s, ⟨⟨id, hid, hpos, hfound⟩, ?_, k, connectiveOf?_eq_some_iff.1 hk⟩, hscope,
      (opening_eq_some_iff.1 hopen).2.2, hleft, hparts⟩
    -- below the first rule set hidden ones are not opened
    exact hactive.resolve_left Bool.false_ne_true

/-- A reference that compilation gets nothing from brings nothing in. -/
theorem not_bringsIn_of_none {id : Int} (hid : r.reference? = some id)
    (h : c.resultBelow left path false id = .ok none) (s : RuleSet) : ¬c.store.BringsIn r s := by
  rintro ⟨⟨id', hid', hpos', hfound'⟩, hactive, -⟩
  rw [hid] at hid'
  cases hid'
  cases entry_eq_iff.1 (resultBelow_eq_none_iff.1 h) with
  | unnamed hpos => exact absurd hpos' (Int.not_lt.2 hpos)
  | missing hpos hpath hfound =>
    rw [hfound] at hfound'
    cases hfound'
  | unseen hpos hpath hfound hleft hopen =>
    rw [hfound] at hfound'
    cases hfound'
    have hhidden : s.isActive = false := (opening_eq_none_iff.1 hopen).2.2
    rw [hactive] at hhidden
    cases hhidden

/-- A failure that costs a reference its place is that of an unknown connective. -/
theorem not_bringsIn_of_error (hplain : c.visitor.LoadsPlainly) {id : Int} {f : Failure}
    (hid : r.reference? = some id) (h : c.resultBelow left path false id = .error f)
    (hf : f.isLocal = true) (s : RuleSet) : ¬c.store.BringsIn r s := by
  rintro ⟨⟨id', hid', -, hfound'⟩, -, k, hk⟩
  rw [hid] at hid'
  cases hid'
  rcases resultBelow_eq_error_iff.1 h with hentry | ⟨s', head, -, hparts⟩
  · -- of all that may keep a rule set from being entered, only its connective is its own fault
    cases (entryFailure_of_entry hentry).2 with
    | unreadable hpath hfound hscope hnone =>
      rw [hfound] at hfound'
      cases hfound'
      rw [connectiveOf?_eq_some_iff.2 hk] at hnone
      cases hnone
    | cycle hpath => cases hf
    | outOfRange hfits => cases hf
    | tooDeep hpath hfound hleft => cases hf
    | foreign hpath hfound hscope => cases hf
  · -- rules of a rule set that is entered never fail for themselves alone
    have hlocal := isLocal_of_groupParts_error hplain hparts
    rw [hf] at hlocal
    cases hlocal

/-- The parts that compilation makes of rules are those that the rules unfold to. -/
theorem rulesUnfold_of_groupParts (hplain : c.visitor.LoadsPlainly) {rules : List DraftRule}
    {parts : List Expr}
    (h : groupParts c.visitor (c.resultBelow left path false) rules = .ok parts) :
    c.RulesUnfold rules parts := by
  -- the outer induction is for the rule sets that are brought in, the inner one for the rules
  induction left using nesting_induction generalizing path rules parts with
  | step left ihleft =>
    induction rules generalizing parts with
    | nil =>
      cases h
      exact .nil
    | cons r rest ih =>
      obtain ⟨e, more, he, hmore, rfl⟩ := groupParts_cons_eq_ok_iff.1 h
      have hrest := ih hmore
      cases href : r.isReference with
      | false =>
        rw [contribution_of_condition href] at he
        exact rulesUnfold_of_condition hplain href he hrest
      | true =>
        cases hid : r.reference? with
        | none =>
          -- a value that is no number names nothing
          simp only [contribution, href, hid, if_true] at he
          cases he
          apply RulesUnfold.unreferred href _ hrest
          intro s hs
          obtain ⟨id, hid', -⟩ := hs.named
          rw [hid] at hid'
          cases hid'
        | some id =>
          rw [contribution_of_reference href hid] at he
          cases hnested : c.resultBelow left path false id with
          | error f =>
            -- a failure that is not that of the rule alone would have ended compilation
            rw [hnested] at he
            cases hf : f.isLocal with
            | false =>
              rw [placed_error hf] at he
              cases he
            | true =>
              rw [placed_local hf] at he
              cases he
              exact .unreferred href (not_bringsIn_of_error hplain hid hnested hf) hrest
          | ok found =>
            rw [hnested] at he
            cases found with
            | none =>
              cases he
              exact .unreferred href (not_bringsIn_of_none hid hnested) hrest
            | some g =>
              rw [placed_group] at he
              cases he
              obtain ⟨s, hs, hscope, hhead, hleft, hparts⟩ := exists_bringsIn_of_group hid hnested
              exact .reference href hs hscope (GroupHead.describes_iff.2 ⟨_, hhead, rfl⟩)
                (ihleft hleft hparts) hrest

theorem unfolds_of_compileRoot (hplain : c.visitor.LoadsPlainly) {hidden : Bool} {root : Root}
    {g : Group} (h : (c.compileRoot hidden root).result = .ok (some g)) :
    ∃ s, root.draft? c.store = some s ∧ s.scope = some c.visitor.scope.name ∧
      (hidden = true ∨ s.isActive = true) ∧ c.Unfolds s g := by
  obtain ⟨s, path, hs, hopen, hparts⟩ := exists_opening_of_compileRoot h
  obtain ⟨hscope, hvisible, hhead⟩ := opening_eq_some_iff.1 hopen
  have hunfolds : c.Unfolds s g :=
    ⟨GroupHead.describes_of_head hhead, rulesUnfold_of_groupParts hplain hparts⟩
  exact ⟨s, hs, hscope, hvisible, hunfolds⟩

/-- A compiled group is the unfolding of the rule set that was asked for, and nothing else is. The
rules of stored rule sets are taken in display order, each of them once. -/
theorem compiled_iff_unfolds (c : Compiler) (hidden : Bool) (root : Root) (g : Group)
    (hplain : c.visitor.LoadsPlainly) (h : (c.compileRoot hidden root).result = .ok (some g)) :
    (∃ s, root.draft? c.store = some s ∧ s.scope = some c.visitor.scope.name ∧
      (hidden = true ∨ s.isActive = true) ∧ ∀ g', c.Unfolds s g' ↔ g' = g) ∧
    ∀ s : RuleSet, ∃ rows : List Rule, s.toDraft.rules = rows.map Rule.toDraft ∧
      rows.Perm s.rules ∧ rows.Pairwise fun a b => inOrder a.place b.place := by
  constructor
  · obtain ⟨s, hs, hscope, hvisible, hunfolds⟩ := unfolds_of_compileRoot hplain h
    refine ⟨s, hs, hscope, hvisible, ?_⟩
    intro g'
    constructor
    · intro h'
      exact h'.unique hunfolds
    · intro hg
      rw [hg]
      exact hunfolds
  · intro s
    exact ⟨s.orderedRules, rfl, List.mergeSort_perm _ _, sortByPlace_sorted Rule.place s.rules⟩

/-- Rules that add parts and rules that add none, out of their order: a condition that can be read,
one whose operator is not allowed, one of an unknown kind, a reference to an active rule set and one
to a rule set that is missing. -/
def mixed : Compiler where
  visitor := ⟨.productAttribute, .ok ⟨[{
    scope := .productAttribute
    name := "Count"
    displayName := none
    groupKey := none
    kind := .int
    operators := [.equal, .greater]
    selectList := none
    processor := "fact"
    metadata := []
    isValid := true }]⟩⟩
  store := {
    catalog := []
    ruleSets := [
      ⟨1, none, "product_attribute", "AND", true, false,
        [⟨14, "group", "eq", some "3", 2⟩, ⟨13, "group", "eq", some "2", 0⟩,
          ⟨12, "colour", "eq", none, 1⟩, ⟨11, "count", "contains", some "4", 1⟩,
          ⟨10, "count", "gt", some "4", 1⟩]⟩,
      ⟨2, none, "product_attribute", "", true, true, [⟨20, "count", "eq", some " ", 0⟩]⟩]
    attributes := []
    values := [] }
  maxDepth := 2

theorem compiled_iff_unfolds_of_mixed :
    mixed.visitor.LoadsPlainly ∧ ∃ g, (mixed.compileRoot false (.number 1)).result = .ok (some g) ∧
      g.parts.map Expr.id = [2, 10, 12] ∧
      ∃ s, (Root.number 1).draft? mixed.store = some s ∧ ∀ g', mixed.Unfolds s g' ↔ g' = g := by
  have hplain : mixed.visitor.LoadsPlainly := Visitor.loadsPlainly_of_ok rfl
  have hcompiled : ∃ g, (mixed.compileRoot false (.number 1)).result = .ok (some g) ∧
      g.parts.map Expr.id = [2, 10, 12] := ⟨_, by cbv, by cbv⟩
  obtain ⟨g, hg, hparts⟩ := hcompiled
  obtain ⟨s, hs, -, -, hunfolds⟩ :=
    (compiled_iff_unfolds mixed false (.number 1) g hplain hg).1
  exact ⟨hplain, g, hg, hparts, s, hs, hunfolds⟩

end Compiler

end Rulebook
