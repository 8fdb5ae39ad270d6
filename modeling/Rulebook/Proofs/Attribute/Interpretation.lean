import Rulebook.Engine
import Rulebook.Proofs.Attribute.Kinds
import Rulebook.Proofs.Evaluation.ShortCircuit

/-!
# What stored rows decide

Whether an attribute is offered, said of the stored rows alone. In display order, each row either
counts and has an answer of its own, or does not count:

- a condition counts if its operator is known and, where its rule type names an attribute of the
  catalog, if the operator is one for lists and the value a list of numbers;
- a reference counts if it is the number of an active rule set whose connective is known, and its
  answer is that of the rows of this rule set.

No expression is built for this. Compiling the rows and deciding the compiled expression comes to
the same, wherever compilation succeeds.
-/

namespace Rulebook

namespace Attribute

/-! ## Answers of rows -/

/-- The numbers that are selected, by catalog attribute. -/
abbrev Choice := List (Int × List Int)

/-- The choice as a selection of values. -/
def Choice.toSelection (choice : Choice) : Selection :=
  choice.map fun e => (e.1, .list (e.2.map .int))

/-- The numbers that are selected for a catalog attribute. -/
def Choice.selectedFor (choice : Choice) (catalogId : Int) : List Int :=
  (choice.lookup catalogId).getD []

/-- The active rule set of a number. -/
def active? (st : Store) (id : Int) : Option RuleSet :=
  if 0 < id then (st.ruleSets.find? fun s => s.id = id).filter (·.isActive) else none

/-- The active rule set of a number and its connective, if that is known. -/
def referred? (st : Store) (id : Int) : Option (RuleSet × Connective) := do
  let s ← active? st id
  let k ← connectiveOf? (some s.logicalOperator)
  return (s, k)

/-- The answer of a condition that counts. -/
def conditionAnswer? (st : Store) (choice : Choice) (r : Rule) : Option (Result Bool) := do
  let o ← Operator.ofName? r.operator
  match kindOf? st.catalog r.ruleType with
  | none => return .fail (.processorNotFound (some Descriptor.invalidProcessor))
  | some k =>
    let compare ← compares? o
    let ids ← idsOf? r.value
    return .ok (compare (choice.selectedFor k) ids)

/-- The answers of the rows that count. -/
inductive RowsAnswer (st : Store) (choice : Choice) : List Rule → List (Result Bool) → Prop where
  | nil : RowsAnswer st choice [] []
  | condition {r : Rule} {rest : List Rule} {answers : List (Result Bool)}
      (href : r.isReference = false) (hrest : RowsAnswer st choice rest answers) :
      RowsAnswer st choice (r :: rest) ((conditionAnswer? st choice r).toList ++ answers)
  | reference {r : Rule} {rest : List Rule} {answers nested : List (Result Bool)} {s : RuleSet}
      {k : Connective} (href : r.isReference = true)
      (hs : (Number.readInt? (r.value.getD "")).bind (referred? st) = some (s, k))
      (hnested : RowsAnswer st choice s.orderedRules nested)
      (hrest : RowsAnswer st choice rest answers) :
      RowsAnswer st choice (r :: rest) (k.combine nested :: answers)
  | unreferred {r : Rule} {rest : List Rule} {answers : List (Result Bool)}
      (href : r.isReference = true)
      (hs : (Number.readInt? (r.value.getD "")).bind (referred? st) = none)
      (hrest : RowsAnswer st choice rest answers) : RowsAnswer st choice (r :: rest) answers

/-- Whether an attribute with a rule set of this number is offered. -/
inductive Offered (st : Store) (choice : Choice) (override : Option Connective) :
    Option Int → Result Bool → Prop where
  | unconstrained : Offered st choice override none (.ok true)
  | absent {id : Int} (hs : active? st id = none) :
      Offered st choice override (some id) (.ok true)
  | decided {id : Int} {s : RuleSet} {k : Connective} {answers : List (Result Bool)}
      (hs : active? st id = some s) (hk : connectiveOf? (some s.logicalOperator) = some k)
      (hrows : RowsAnswer st choice s.orderedRules answers) :
      Offered st choice override (some id) ((override.getD k).combine answers)

variable {st : Store} {choice : Choice}

/-- Rows have one list of answers. -/
theorem RowsAnswer.unique {rows : List Rule} {answers answers' : List (Result Bool)}
    (h : RowsAnswer st choice rows answers) (h' : RowsAnswer st choice rows answers') :
    answers = answers' := by
  induction h generalizing answers' with
  | nil => cases h'; rfl
  | condition href hrest ih =>
    cases h' with
    | condition href' hrest' => rw [ih hrest']
    | reference href' hs hnested hrest' => simp [href] at href'
    | unreferred href' hs hrest' => simp [href] at href'
  | reference href hs hnested hrest ihnested ihrest =>
    cases h' with
    | condition href' hrest' => simp [href] at href'
    | reference href' hs' hnested' hrest' =>
      rw [hs] at hs'
      cases hs'
      rw [ihnested hnested', ihrest hrest']
    | unreferred href' hs' hrest' => simp [hs] at hs'
  | unreferred href hs hrest ih =>
    cases h' with
    | condition href' hrest' => simp [href] at href'
    | reference href' hs' hnested' hrest' => simp [hs] at hs'
    | unreferred href' hs' hrest' => exact ih hrest'

theorem Offered.unique {override : Option Connective} {id : Option Int} {r r' : Result Bool}
    (h : Offered st choice override id r) (h' : Offered st choice override id r') : r = r' := by
  cases h with
  | unconstrained => cases h'; rfl
  | absent hs =>
    cases h' with
    | absent hs' => rfl
    | decided hs' hk' hrows' => simp [hs] at hs'
  | decided hs hk hrows =>
    cases h' with
    | absent hs' => simp [hs] at hs'
    | decided hs' hk' hrows' =>
      rw [hs] at hs'
      cases hs'
      rw [hk] at hk'
      cases hk'
      rw [hrows.unique hrows']

/-! ## Answers of compiled conditions -/

/-- The descriptors of a visitor, where they load, are the kinds of the catalog of a store. -/
structure ReadsCatalog (v : Visitor) (st : Store) : Prop where
  loadsPlainly : v.LoadsPlainly
  kinds {kinds : Collection} (h : v.kinds = .ok kinds) : ∃ l language,
    kinds = ⟨(sortByPlace CatalogAttribute.place st.catalog).map (descriptorOf l language)⟩

/-- The answer of an expression. -/
def answerOf (choice : Choice) (e : Expr) : Result Bool :=
  (e.run (processors choice.toSelection)).outcome

theorem selectedFor_toSelection (choice : Choice) (k : Int) :
    selectedFor choice.toSelection k = .ok (.list ((choice.selectedFor k).map .int)) := by
  have hlookup : choice.toSelection.lookup k =
      (choice.lookup k).map fun ids => .list (ids.map .int) := by
    induction choice with
    | nil => rfl
    | cons e rest ih =>
      show ((e.1, Value.list (e.2.map .int)) :: Choice.toSelection rest).lookup k = _
      rw [List.lookup_cons, List.lookup_cons, ih]
      cases k == e.1 <;> rfl
  rw [selectedFor, hlookup, Choice.selectedFor]
  cases choice.lookup k <;> rfl

/-- A condition on an attribute compares what is selected for it. -/
theorem answerOf_leaf_descriptorOf (choice : Choice) (l : Localizer) (language : String)
    (a : CatalogAttribute) (r : DraftRule) (id : Int) {o : Operator} {compare : List Int → List Int → Bool}
    (ho : compares? o = some compare) (ids : List Int) :
    answerOf choice (.leaf ((descriptorOf l language a).leaf r id o (.list (ids.map .int)))) =
      .ok (compare (choice.selectedFor a.id) ids) := by
  show processor choice.toSelection
    ((descriptorOf l language a).leaf r id o (.list (ids.map .int))) = _
  show (do
    let selected ← selectedFor choice.toSelection a.id
    return o.holds selected (.list (ids.map .int)) : Result Bool) = _
  rw [selectedFor_toSelection, ← holds_of_compares ho]
  rfl

/-- A condition of an unknown kind finds no processor. -/
theorem answerOf_leaf_unknown (scope : Scope) (name : Option String) (r : DraftRule) (id : Int)
    (o : Operator) (value : Value) :
    answerOf choice (.leaf ((Descriptor.unknown scope name).leaf r id o value)) =
      .fail (.processorNotFound (some Descriptor.invalidProcessor)) := rfl

theorem isSome_compares?_iff {o : Operator} :
    (compares? o).isSome = ValueKind.listOperators.contains o := by
  cases o <;> rfl

theorem reads?_descriptorOf (l : Localizer) (language : String) (a : CatalogAttribute)
    (r : Rule) :
    (descriptorOf l language a).reads? r.toDraft =
      (Operator.ofName? r.operator).bind fun o => (idsOf? r.value).bind fun ids =>
        if (compares? o).isSome then some (o, .list (ids.map .int)) else none := by
  have hvalue := toOption_convert_intArray r.value
  have hoperator : r.toDraft.operator.bind Operator.ofName? = Operator.ofName? r.operator := rfl
  have hkind : (descriptorOf l language a).kind.convert r.toDraft.value =
      ValueKind.intArray.convert r.value := rfl
  unfold Descriptor.reads?
  rw [hoperator, hkind]
  cases ho : Operator.ofName? r.operator with
  | none => rfl
  | some o =>
    cases hconvert : ValueKind.intArray.convert r.value <;> cases hids : idsOf? r.value <;>
      rw [hconvert, hids] at hvalue <;> cases hvalue
    · rfl
    · show (if (true && !ValueKind.listOperators.contains o) = true then none else _) =
        if (compares? o).isSome = true then _ else none
      rw [isSome_compares?_iff]
      cases ValueKind.listOperators.contains o <;> rfl

theorem reads?_unknown (scope : Scope) (name : Option String) (r : Rule) :
    ∃ value, (Descriptor.unknown scope name).reads? r.toDraft =
      (Operator.ofName? r.operator).map fun o => (o, value) := by
  have hvalue : ∃ value, (Descriptor.unknown scope name).kind.convert r.toDraft.value =
      .ok value := by
    show ∃ value, ValueKind.string.convert r.value = .ok value
    cases r.value <;> exact ⟨_, rfl⟩
  obtain ⟨value, hvalue⟩ := hvalue
  have hoperator : r.toDraft.operator.bind Operator.ofName? = Operator.ofName? r.operator := rfl
  refine ⟨value, ?_⟩
  unfold Descriptor.reads?
  rw [hoperator, hvalue]
  cases Operator.ofName? r.operator <;> rfl

section Kind

variable {catalog : List CatalogAttribute} {r : Rule}

/-- A rule type that names no attribute of the catalog is read under the stand-in. -/
theorem kindOf_of_unnamed (h : kindOf? catalog r.ruleType = none) (v : Visitor) (l : Localizer)
    (language : String) :
    v.kindOf ⟨(sortByPlace CatalogAttribute.place catalog).map (descriptorOf l language)⟩ r.toDraft =
      .unknown v.scope (some r.ruleType) := by
  have hfind := find?_kinds catalog l language r.ruleType
  rw [h] at hfind
  exact congrArg (Option.getD · _) hfind

theorem exists_kindOf_of_named {k : Int} (h : kindOf? catalog r.ruleType = some k) (v : Visitor)
    (l : Localizer) (language : String) : ∃ a ∈ catalog, a.id = k ∧
      v.kindOf ⟨(sortByPlace CatalogAttribute.place catalog).map (descriptorOf l language)⟩ r.toDraft =
        descriptorOf l language a := by
  have hfind := find?_kinds catalog l language r.ruleType
  rw [h] at hfind
  obtain ⟨a, ha, hid, hfound⟩ := hfind
  exact ⟨a, ha, hid, congrArg (Option.getD · _) hfound⟩

end Kind

/-- What a stored condition adds to its group answers as the row does, and a row that adds nothing
does not count. -/
theorem conditionAnswer?_of_condition (choice : Choice) {v : Visitor} (hv : ReadsCatalog v st) {r : Rule}
    {e : Option Expr} (h : v.condition r.toDraft = .ok e) :
    conditionAnswer? st choice r = e.map (answerOf choice) := by
  cases hkinds : v.kinds with
  | error f =>
    -- descriptors that cannot be loaded fail the rule, and not as one that cannot be converted
    have hplain := hv.loadsPlainly
    unfold Visitor.condition at h
    rw [Visitor.result_visitRule, hkinds] at h
    cases f with
    | rule error => exact absurd hkinds (hplain error)
    | _ => cases h
  | ok kinds =>
    obtain ⟨l, language, rfl⟩ := hv.kinds hkinds
    rw [Visitor.condition_of_id hkinds rfl] at h
    cases h
    cases hkind : kindOf? st.catalog r.ruleType with
    | none =>
      obtain ⟨value, hreads⟩ := reads?_unknown v.scope (some r.ruleType) r
      rw [kindOf_of_unnamed hkind, hreads, conditionAnswer?, hkind]
      -- the stand-in reads every value under every known operator
      cases Operator.ofName? r.operator with
      | none => rfl
      | some o => exact congrArg some (answerOf_leaf_unknown ..).symm
    | some k =>
      obtain ⟨a, -, rfl, hkindOf⟩ := exists_kindOf_of_named hkind v l language
      rw [hkindOf, reads?_descriptorOf, conditionAnswer?, hkind]
      cases Operator.ofName? r.operator with
      | none => rfl
      | some o =>
        cases hcompare : compares? o with
        | none =>
          -- the kinds of the catalog allow the operators for lists only
          cases idsOf? r.value <;> simp [hcompare]
        | some compare =>
          cases idsOf? r.value with
          | none => simp
          | some ids =>
            have hanswer := answerOf_leaf_descriptorOf choice l language a r.toDraft r.id hcompare ids
            simp [hcompare, hanswer]

/-! ## Answers of compiled rules -/

theorem answerOf_group (choice : Choice) (head : GroupHead) (parts : List Expr) :
    answerOf choice (.group head parts) =
      head.connective.combine (parts.map (answerOf choice)) :=
  Expr.outcome_run_group (processors choice.toSelection) head parts

/-- What compilation of a number answers is explained by the rows of its rule set. -/
def Explained (st : Store) (choice : Choice) (id : Int) : Result (Option Group) → Prop
  | .ok none => active? st id = none
  | .ok (some g) => ∃ s, referred? st id = some (s, g.head.connective) ∧
      RowsAnswer st choice s.orderedRules (g.parts.map (answerOf choice))
  | .error f => f.isLocal = true → referred? st id = none

theorem referred?_of_active? {id : Int} (h : active? st id = none) : referred? st id = none := by
  rw [referred?, h]
  rfl

/-- Along the rules of a group: the answers of the parts are those of the rows that count. -/
theorem rowsAnswer_of_groupParts {v : Visitor} (hv : ReadsCatalog v st)
    {nested : Int → Result (Option Group)} (hnested : ∀ id, Explained st choice id (nested id))
    {rows : List Rule} {parts : List Expr}
    (h : Compiler.groupParts v nested (rows.map Rule.toDraft) = .ok parts) :
    RowsAnswer st choice rows (parts.map (answerOf choice)) := by
  induction rows generalizing parts with
  | nil =>
    cases h
    exact .nil
  | cons r rest ih =>
    obtain ⟨e, more, he, hmore, rfl⟩ := Compiler.groupParts_cons_eq_ok_iff.1 h
    have hrest := ih hmore
    rw [List.map_append]
    cases href : r.isReference with
    | false =>
      rw [Compiler.contribution_of_condition (r.isReference_toDraft ▸ href)] at he
      have hanswer := conditionAnswer?_of_condition choice hv he
      have hlist : e.toList.map (answerOf choice) = (conditionAnswer? st choice r).toList := by
        rw [hanswer]
        cases e <;> rfl
      rw [hlist]
      exact .condition href hrest
    | true =>
      have href' : r.toDraft.isReference = true := r.isReference_toDraft ▸ href
      cases hid : r.toDraft.reference? with
      | none =>
        have hnone : e = none := by simpa [Compiler.contribution, href', hid] using he.symm
        rw [hnone]
        exact .unreferred href (congrArg (Option.bind · _) hid) hrest
      | some id =>
        have hreferred := congrArg (Option.bind · (referred? st)) hid
        have hexplained := hnested id
        rw [Compiler.contribution_of_reference href' hid] at he
        -- what the nested compilation answers decides both whether the row counts and its answer
        cases hcompiled : nested id with
        | error f =>
          rw [hcompiled] at he hexplained
          cases hlocal : f.isLocal with
          | false =>
            rw [Compiler.placed_error hlocal] at he
            cases he
          | true =>
            rw [Compiler.placed_local hlocal] at he
            cases he
            exact .unreferred href (hreferred.trans (hexplained hlocal)) hrest
        | ok found =>
          rw [hcompiled] at he hexplained
          cases found with
          | none =>
            cases he
            exact .unreferred href (hreferred.trans (referred?_of_active? hexplained)) hrest
          | some g =>
            cases he
            obtain ⟨s, hs, hrows⟩ := hexplained
            show RowsAnswer st choice (r :: rest) (answerOf choice (.group _ g.parts) :: _)
            rw [answerOf_group]
            exact .reference href (hreferred.trans hs) hrows hrest

theorem active?_of_findRuleSet {id : Int} {found : Option RuleSet} (hpos : 0 < id)
    (h : st.findRuleSet id = .ok found) : active? st id = found.filter (·.isActive) := by
  rw [active?, if_pos hpos, (Store.findRuleSet_eq_ok_iff.1 h).2]

theorem referred?_of_findRuleSet {id : Int} {s : RuleSet} (hpos : 0 < id)
    (h : st.findRuleSet id = .ok (some s)) (hactive : s.isActive = true) :
    referred? st id = (connectiveOf? (some s.logicalOperator)).map fun k => (s, k) := by
  rw [referred?, active?_of_findRuleSet hpos h, Option.filter_some, if_pos hactive]
  show ((connectiveOf? (some s.logicalOperator)).bind fun k => some (s, k)) = _
  cases connectiveOf? (some s.logicalOperator) <;> rfl

/-- A number without a rule set to enter has no active one. -/
theorem active?_of_entry_none {c : Compiler} {left : Nat} {path : List Int} {id : Int}
    (h : c.entry left path false id = .ok none) : active? c.store id = none := by
  cases Compiler.entry_eq_iff.1 h with
  | unnamed hpos => exact if_neg (Int.not_lt.2 hpos)
  | missing hpos hpath hfound => exact active?_of_findRuleSet hpos hfound
  | unseen hpos hpath hfound hleft hopen =>
    obtain ⟨-, -, hactive⟩ := Compiler.opening_eq_none_iff.1 hopen
    rw [active?_of_findRuleSet hpos hfound, Option.filter_some, if_neg]
    simpa [RuleSet.toDraft] using hactive

/-- A rule set that is entered is the active one of the number. -/
theorem referred?_of_entry_some {c : Compiler} {left : Nat} {path : List Int} {id : Int}
    {s : RuleSet} {head : GroupHead} (h : c.entry left path false id = .ok (some (s, head))) :
    referred? c.store id = some (s, head.connective) := by
  cases Compiler.entry_eq_iff.1 h with
  | entered hpos hpath hfound hleft hopen =>
    obtain ⟨-, hvisible, k, hk, rfl⟩ := Compiler.opening_stored_eq_some_iff.1 hopen
    rw [referred?_of_findRuleSet hpos hfound (by simpa using hvisible), hk]
    rfl

theorem referred?_of_entry_error {c : Compiler} {left : Nat} {path : List Int} {id : Int}
    {f : Failure} (h : c.entry left path false id = .error f) (hlocal : f.isLocal = true) :
    referred? c.store id = none := by
  obtain ⟨hpos, hfailure⟩ := Compiler.entryFailure_of_entry h
  cases hfailure with
  | unreadable hpath hfound hscope hk =>
    rename_i s
    -- active or not, it is none whose connective is known
    cases hactive : s.isActive with
    | true => rw [referred?_of_findRuleSet hpos hfound hactive, hk]; rfl
    | false =>
      apply referred?_of_active?
      rw [active?_of_findRuleSet hpos hfound, Option.filter_some, if_neg (by simp [hactive])]
  | cycle _ => cases hlocal
  | outOfRange _ => cases hlocal
  | tooDeep _ _ _ => cases hlocal
  | foreign _ _ _ => cases hlocal

/-- Compilation below any path is explained by the rows. -/
theorem explained_resultBelow (choice : Choice) {c : Compiler}
    (hv : ReadsCatalog c.visitor c.store) (left : Nat) (path : List Int) (id : Int) :
    Explained c.store choice id (c.resultBelow left path false id) := by
  induction left using Compiler.nesting_induction generalizing path id with
  | step left ih =>
    cases hresult : c.resultBelow left path false id with
    | ok found =>
      cases found with
      | none => exact active?_of_entry_none (Compiler.resultBelow_eq_none_iff.1 hresult)
      | some g =>
        obtain ⟨s, hentry, hparts⟩ := Compiler.resultBelow_eq_some_iff.1 hresult
        have hroom := Compiler.ne_zero_of_entry hentry
        refine ⟨s, referred?_of_entry_some hentry, ?_⟩
        exact rowsAnswer_of_groupParts hv (fun id' => ih hroom (path ++ [s.id]) id') hparts
    | error f =>
      intro hlocal
      rcases Compiler.resultBelow_eq_error_iff.1 hresult with hentry | ⟨s, head, -, hparts⟩
      · exact referred?_of_entry_error hentry hlocal
      · -- what fails among the rules does not fail locally
        rw [Compiler.isLocal_of_groupParts_error hv.loadsPlainly hparts] at hlocal
        cases hlocal

/-! ## Attributes that are offered -/

/-- A group decides as it runs with the connective that is given in place of its own. That a group
without parts is not run at all makes no difference, as it holds either way. -/
theorem decide_eq_outcome (selection : Selection) (override : Option Connective) (g : Group) :
    decide selection override (some g) =
      ((Expr.group { g.head with connective := override.getD g.head.connective } g.parts).run
        (processors selection)).outcome := by
  have hreplaced : (withConnective override g).run (processors selection) =
      (Expr.group { g.head with connective := override.getD g.head.connective } g.parts).run
        (processors selection) := by
    cases override <;> rfl
  rw [decide, hreplaced]
  by_cases hempty : g.parts = []
  · rw [hempty, Expr.run_group_nil]
    rfl
  · rw [if_neg (by simpa using hempty)]

theorem decide_some (choice : Choice) (override : Option Connective) (g : Group) :
    decide choice.toSelection override (some g) =
      (override.getD g.head.connective).combine (g.parts.map (answerOf choice)) := by
  rw [decide_eq_outcome]
  exact answerOf_group choice _ g.parts

/-- What the rule set of an attribute is compiled to. An attribute without one has no group. -/
def compiledRules (c : Compiler) (a : Option VariantAttribute) : Result (Option Group) :=
  match a.bind (·.ruleSetId) with
  | none => .ok none
  | some id => (c.compile false id).result

/-- First the rule set of an attribute is compiled, and then what it is compiled to decides. -/
theorem result_matches? (c : Compiler) (a : Option VariantAttribute) (selection : Selection)
    (override : Option Connective) :
    (matches? c a selection override).result =
      compiledRules c a >>= decide selection override := by
  unfold matches? compiledRules
  cases a.bind (·.ruleSetId) with
  | none => rfl
  | some id =>
    rw [Outcome.result_bind]
    rfl

/-- What the rule set is compiled to decides. -/
theorem result_matches?_of_compiled {c : Compiler} {a : Option VariantAttribute}
    {found : Option Group} (h : compiledRules c a = .ok found) (selection : Selection)
    (override : Option Connective) :
    (matches? c a selection override).result = decide selection override found := by
  rw [result_matches?, h]
  rfl

/-- Where its rule set compiles, an attribute is offered as its rows say. -/
theorem offered_matches? {c : Compiler} (hv : ReadsCatalog c.visitor c.store)
    (a : Option VariantAttribute) (choice : Choice) (override : Option Connective)
    (hcompiles : ∀ id, a.bind (·.ruleSetId) = some id →
      ∃ found, (c.compile false id).result = .ok found) :
    Offered c.store choice override (a.bind (·.ruleSetId))
      (matches? c a choice.toSelection override).result := by
  unfold matches?
  cases hid : a.bind (·.ruleSetId) with
  | none => exact .unconstrained
  | some id =>
    obtain ⟨found, hfound⟩ := hcompiles id hid
    have hexplained := explained_resultBelow choice hv c.maxDepth [] id
    rw [← Compiler.result_compile, hfound] at hexplained
    simp only [Outcome.result_bind, hfound, Outcome.result_ofResult]
    cases found with
    | none => exact .absent hexplained
    | some g =>
      show Offered _ _ _ _ (decide choice.toSelection override (some g))
      obtain ⟨s, hs, hrows⟩ := hexplained
      obtain ⟨s', hs', k, hk, hsame⟩ : ∃ s', active? c.store id = some s' ∧
          ∃ k, connectiveOf? (some s'.logicalOperator) = some k ∧ (s', k) = (s, g.head.connective) := by
        simpa [referred?, Option.bind_eq_some_iff] using hs
      -- the connective of the group is that of the rule set, unless it is replaced
      cases hsame
      rw [decide_some]
      exact .decided hs' hk hrows

end Attribute

/-! ## Freshly loaded kinds -/

/-- What the engine has cached for its scope is what the store holds. -/
def Engine.IsFresh (e : Engine) (st : Store) : Prop :=
  ∀ kinds, e.cache.get? e.provider.scope = some kinds → e.provider.load st = .ok kinds.descriptors

theorem Engine.isFresh_attributes (l : Localizer) (language : String) (pageSize : Int)
    (maxDepth : Nat) (st : Store) : (attributes l language pageSize maxDepth).IsFresh st := by
  intro kinds hcached
  cases hcached

/-- What is cached once the descriptors have been asked for was cached before, or has been loaded. -/
theorem Engine.cached_or_loaded {e : Engine} {st : Store} {kinds : Collection}
    (h : (e.load st).1.get? e.provider.scope = some kinds) :
    e.cache.get? e.provider.scope = some kinds ∨ e.provider.load st = .ok kinds.descriptors := by
  unfold load Cache.getOrLoad at h
  cases hstored : e.cache.get? e.provider.scope with
  | some stored =>
    simp only [hstored] at h
    exact .inl h
  | none =>
    right
    -- only descriptors that have just been loaded are stored now
    cases hload : e.provider.load st with
    | error f => simp [hstored, hload] at h
    | ok ds =>
      simp only [hstored, hload, Cache.get?_adopt] at h
      simp only [Cache.adopt, hstored, Option.some.injEq] at h
      cases h
      rfl

/-- A piece of work on a store leaves the engine fresh for it. -/
theorem Engine.IsFresh.settle {e : Engine} {st : Store} (h : e.IsFresh st) (asked : Bool) :
    (e.settle st asked).IsFresh st := by
  intro kinds hcached
  cases asked with
  | false => exact h kinds hcached
  | true =>
    rcases Engine.cached_or_loaded hcached with hstored | hloaded
    · exact h kinds hstored
    · exact hloaded

theorem Engine.kinds_of_isFresh {e : Engine} {st : Store} (h : e.IsFresh st) :
    e.kinds st = (e.provider.load st).map Collection.mk := by
  unfold kinds load Cache.getOrLoad
  cases hcached : e.cache.get? e.provider.scope with
  | some stored => rw [h stored hcached]; rfl
  | none =>
    cases hload : e.provider.load st with
    | error f => rfl
    | ok ds => simp [Cache.adopt, hcached, Except.map]

namespace Attribute

theorem readsCatalog_of_isFresh {e : Engine} {st : Store} {l : Localizer} {language : String}
    {pageSize : Int} (hprovider : e.provider = .attributes l language pageSize)
    (hsize : 1 ≤ pageSize) (hfresh : e.IsFresh st) : ReadsCatalog (e.visitor st) st := by
  have hkinds : (e.visitor st).kinds =
      (loadDescriptors st l language pageSize).map Collection.mk := by
    show e.kinds st = _
    rw [Engine.kinds_of_isFresh hfresh, hprovider]
    rfl
  constructor
  · -- reading the catalog fails only where a page does not fit the store
    intro error herror
    rw [hkinds] at herror
    cases hload : loadDescriptors st l language pageSize with
    | ok ds => simp [hload, Except.map] at herror
    | error f =>
      rw [hload, loadDescriptors_eq_error hload] at herror
      cases herror
  · intro kinds hok
    rw [hkinds] at hok
    cases hload : loadDescriptors st l language pageSize with
    | error f => simp [hload, Except.map] at hok
    | ok ds =>
      rw [hload, loadDescriptors_eq_ok hsize hload] at hok
      cases hok
      exact ⟨l, language, rfl⟩

/-- Whether an attribute is offered depends on the stored rows alone, and on them as they stand:
wherever its rule set compiles, and whatever is selected, the answer is the one that the rows have
without being compiled. -/
theorem result_eq_iff_offered (e : Engine) (st : Store) (l : Localizer) (language : String)
    (pageSize : Int) (hprovider : e.provider = .attributes l language pageSize)
    (hsize : 1 ≤ pageSize) (hfresh : e.IsFresh st) (a : Option VariantAttribute) (choice : Choice)
    (override : Option Connective)
    (hcompiles : ∀ id, a.bind (·.ruleSetId) = some id →
      ∃ found, ((e.compiler st).compile false id).result = .ok found) (r : Result Bool) :
    (matches? (e.compiler st) a choice.toSelection override).result = r ↔
      Offered st choice override (a.bind (·.ruleSetId)) r := by
  have hoffered := offered_matches? (c := e.compiler st)
    (readsCatalog_of_isFresh hprovider hsize hfresh) a choice override hcompiles
  constructor
  · rintro rfl
    exact hoffered
  · exact hoffered.unique

/-- A size that is offered in the fifth or sixth colour, unless the seventh is selected too. -/
def sized : Store where
  catalog := [⟨3, 0, ⟨some "Colour", .null⟩⟩, ⟨4, 1, ⟨some "Size", .null⟩⟩]
  ruleSets := [
    ⟨1, none, "product_attribute", "and", true, false,
      [⟨10, "Variant3", "in", some "5, 6", 1⟩, ⟨11, "group", "eq", some "2", 0⟩,
        ⟨12, "variant3", "eq", some "5", 2⟩]⟩,
    ⟨2, none, "product_attribute", "OR", true, true, [⟨13, "variant3", "not_in", some "7", 0⟩]⟩]
  attributes := [⟨20, 1, 4, some 1, 0⟩]
  values := []

def sizedEngine : Engine := .attributes ⟨[], "en"⟩ "en" 10 5

theorem result_matches?_sized : (matches? (sizedEngine.compiler sized) sized.attributes.head?
    (Choice.toSelection [(3, [5])]) none).result = .ok true := by
  cbv

theorem offered_sized : Offered sized [(3, [5])] none (some 1) (.ok true) := by
  have hcompiles : ∀ id, some (1 : Int) = some id →
      ∃ found, ((sizedEngine.compiler sized).compile false id).result = .ok found := by
    rintro id ⟨⟩
    have hresult := result_matches?_sized
    change ((sizedEngine.compiler sized).compile false 1 >>= _).result = _ at hresult
    rw [Outcome.result_bind] at hresult
    obtain ⟨found, hfound, -⟩ := Result.bind_eq_ok_iff.1 hresult
    exact ⟨found, hfound⟩
  have hfresh : sizedEngine.IsFresh sized := Engine.isFresh_attributes _ _ _ _ _
  exact (result_eq_iff_offered sizedEngine sized ⟨[], "en"⟩ "en" 10 rfl (by omega) hfresh
    sized.attributes.head? [(3, [5])] none hcompiles (.ok true)).1 result_matches?_sized

end Attribute

end Rulebook
