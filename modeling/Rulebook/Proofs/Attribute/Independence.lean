import Mathlib
import Rulebook.Proofs.Attribute.Catalog
import Rulebook.Proofs.Attribute.Interpretation

/-!
# What decisions do not depend on

Two shops may show the same rules under other names: their catalogs have the same numbers, but names,
languages, display order, stored values and the size of pages are free to differ. Rule sets then
compile alike in both, down to what the kinds of conditions are called (`Twins`), and fail alike.
Twins answer alike wherever the same values are selected for the attributes that they ask about, in
whatever order and however often. So the same attributes are offered.
-/

namespace Rulebook

/-! ## Results that agree -/

/-- Two results fail alike, or have answers that are related. -/
inductive Result.Alike {α β : Type} (R : α → β → Prop) : Result α → Result β → Prop where
  | ok {a : α} {b : β} (h : R a b) : Alike R (.ok a) (.ok b)
  | error (f : Failure) : Alike R (.error f) (.error f)

theorem Result.Alike.bind {α β α' β' : Type} {R : α → β → Prop} {S : α' → β' → Prop}
    {x : Result α} {y : Result β} {k : α → Result α'} {l : β → Result β'} (h : Alike R x y)
    (hkl : ∀ a b, R a b → Alike S (k a) (l b)) : Alike S (x >>= k) (y >>= l) := by
  cases h with
  | ok h => exact hkl _ _ h
  | error f => exact .error f

namespace Attribute

open Rulebook.Checked (wordLimit)

/-! ## Twins -/

/-- A condition in one shop and in the other. The kind of both has the same number, or is unknown to
both. -/
inductive Twin : Leaf → Leaf → Prop where
  | kind {l l' : Localizer} {language language' : String} {a a' : CatalogAttribute} (r : DraftRule)
      (id : Int) {o : Operator} {compare : List Int → List Int → Bool}
      (ho : compares? o = some compare) (ids : List Int) (hid : a'.id = a.id) :
      Twin ((descriptorOf l language a).leaf r id o (.list (ids.map .int)))
        ((descriptorOf l' language' a').leaf r id o (.list (ids.map .int)))
  | unknown (scope : Scope) (name : Option String) (r : DraftRule) (id : Int) (o : Operator)
      (value : Value) :
      Twin ((Descriptor.unknown scope name).leaf r id o value)
        ((Descriptor.unknown scope name).leaf r id o value)

/-- An expression in one shop and in the other. -/
inductive Twins : Expr → Expr → Prop where
  | leaf {c c' : Leaf} (h : Twin c c') : Twins (.leaf c) (.leaf c')
  | group (head : GroupHead) {parts parts' : List Expr} (h : List.Forall₂ Twins parts parts') :
      Twins (.group head parts) (.group head parts')

/-- What a number compiles to in one shop and in the other. -/
def GroupTwins (g g' : Group) : Prop := Twins g.toExpr g'.toExpr

/-- Two compilers over shops that differ in what they show. -/
structure SameButDisplay (c c' : Compiler) : Prop where
  scope : c'.visitor.scope = c.visitor.scope
  depth : c'.maxDepth = c.maxDepth
  ruleSets : ∀ id, c'.store.findRuleSet id = c.store.findRuleSet id
  catalog : ∀ k, k ∈ c'.store.catalog.map (·.id) ↔ k ∈ c.store.catalog.map (·.id)
  kinds : ∃ l language, c.visitor.kinds =
    .ok (kindsOf l language (sortByPlace CatalogAttribute.place c.store.catalog))
  kinds' : ∃ l language, c'.visitor.kinds =
    .ok (kindsOf l language (sortByPlace CatalogAttribute.place c'.store.catalog))

/-! ## Compiling in both shops -/

theorem kindOf?_congr {catalog catalog' : List CatalogAttribute}
    (h : ∀ k, k ∈ catalog'.map (·.id) ↔ k ∈ catalog.map (·.id)) (ruleType : String) :
    kindOf? catalog' ruleType = kindOf? catalog ruleType := by
  ext k
  have hk : (∃ a ∈ catalog', a.id = k) ↔ ∃ a ∈ catalog, a.id = k := by simpa using h k
  rw [kindOf?_eq_some_iff, kindOf?_eq_some_iff, hk]

section Compiling

variable {c c' : Compiler}

theorem condition_alike (h : SameButDisplay c c') (r : Rule) :
    Result.Alike (Option.Rel Twins) (c.visitor.condition r.toDraft)
      (c'.visitor.condition r.toDraft) := by
  obtain ⟨l, language, hkinds⟩ := h.kinds
  obtain ⟨l', language', hkinds'⟩ := h.kinds'
  rw [Visitor.condition_of_id hkinds rfl, Visitor.condition_of_id hkinds' rfl, kindsOf, kindsOf]
  have hsame := kindOf?_congr h.catalog r.ruleType
  cases hkind : kindOf? c.store.catalog r.ruleType with
  | none =>
    -- the stand-in is the same in both
    rw [kindOf_of_unnamed hkind, kindOf_of_unnamed (hsame.trans hkind), h.scope]
    cases (Descriptor.unknown c.visitor.scope (some r.ruleType)).reads? r.toDraft with
    | none => exact .ok .none
    | some read => exact .ok (.some (.leaf (.unknown ..)))
  | some k =>
    obtain ⟨a, -, rfl, hd⟩ := exists_kindOf_of_named hkind c.visitor l language
    obtain ⟨a', -, hid, hd'⟩ := exists_kindOf_of_named (hsame.trans hkind) c'.visitor l' language'
    rw [hd, hd', reads?_descriptorOf, reads?_descriptorOf]
    -- what a row is read as under the kind of an attribute does not depend on the attribute
    cases Operator.ofName? r.operator with
    | none => exact .ok .none
    | some o =>
      cases idsOf? r.value with
      | none => exact .ok .none
      | some ids =>
        cases ho : compares? o with
        | none =>
          simp only [Option.bind_some, ho]
          exact .ok .none
        | some compare =>
          simp only [Option.bind_some, ho]
          exact .ok (.some (.leaf (.kind r.toDraft r.id ho ids hid)))

theorem placed_alike (rule : Option Int) {x y : Result (Option Group)}
    (h : Result.Alike (Option.Rel GroupTwins) x y) :
    Result.Alike (Option.Rel Twins) (Compiler.placed rule x) (Compiler.placed rule y) := by
  cases h with
  | ok h =>
    cases h with
    | none => exact .ok .none
    | some h =>
      rename_i g g'
      obtain ⟨head, parts⟩ := g
      obtain ⟨head', parts'⟩ := g'
      cases h with
      | group _ h => exact .ok (.some (.group _ h))
  | error f =>
    cases hlocal : f.isLocal with
    | true =>
      rw [Compiler.placed_local hlocal]
      exact .ok .none
    | false =>
      rw [Compiler.placed_error hlocal]
      exact .error f

variable {nested nested' : Int → Result (Option Group)}

theorem contribution_alike (h : SameButDisplay c c')
    (hnested : ∀ id, Result.Alike (Option.Rel GroupTwins) (nested id) (nested' id)) (r : Rule) :
    Result.Alike (Option.Rel Twins) (Compiler.contribution c.visitor nested r.toDraft)
      (Compiler.contribution c'.visitor nested' r.toDraft) := by
  unfold Compiler.contribution
  split
  · -- what a reference refers to does not depend on the shop
    cases r.toDraft.reference? with
    | none => exact .ok .none
    | some id => exact placed_alike r.toDraft.id (hnested id)
  · exact condition_alike h r

theorem groupParts_alike (h : SameButDisplay c c')
    (hnested : ∀ id, Result.Alike (Option.Rel GroupTwins) (nested id) (nested' id))
    (rows : List Rule) :
    Result.Alike (List.Forall₂ Twins)
      (Compiler.groupParts c.visitor nested (rows.map Rule.toDraft))
      (Compiler.groupParts c'.visitor nested' (rows.map Rule.toDraft)) := by
  induction rows with
  | nil => exact .ok .nil
  | cons r rest ih =>
    refine (contribution_alike h hnested r).bind fun e e' he => ih.bind fun more more' hmore => ?_
    cases he with
    | none => exact .ok hmore
    | some he => exact .ok (.cons he hmore)

/-- The checks on a number look at nothing that is shown. -/
theorem entry_eq_of_same (h : SameButDisplay c c') (left : Nat) (path : List Int) (hidden : Bool)
    (id : Int) : c'.entry left path hidden id = c.entry left path hidden id := by
  rw [Compiler.entry, Compiler.entry, h.ruleSets, h.scope, h.depth]

theorem resultBelow_alike (h : SameButDisplay c c') (left : Nat) (path : List Int) (hidden : Bool)
    (id : Int) :
    Result.Alike (Option.Rel GroupTwins) (c.resultBelow left path hidden id)
      (c'.resultBelow left path hidden id) := by
  induction left using Compiler.nesting_induction generalizing path hidden id with
  | step left ih =>
    rw [Compiler.resultBelow_eq, Compiler.resultBelow_eq, entry_eq_of_same h]
    cases hentry : c.entry left path hidden id with
    | error f => exact .error f
    | ok entered =>
      rcases entered with _ | ⟨s, head⟩
      · exact .ok .none
      · have hroom := Compiler.ne_zero_of_entry hentry
        have hparts := groupParts_alike h (fun id' => ih hroom (path ++ [s.id]) false id')
          s.orderedRules
        exact hparts.bind fun parts parts' hparts => .ok (.some (.group head hparts))

end Compiling

/-! ## Deciding in both shops -/

section Deciding

variable {choice choice' : Choice}

/-- The same values are selected for the attribute that a condition asks about. -/
def AgreeOn (choice choice' : Choice) (c : Leaf) : Prop :=
  ∀ k, VariantOptions.parentOf c = some (.int k) →
    ∀ n, n ∈ choice'.selectedFor k ↔ n ∈ choice.selectedFor k

/-- Order and repetition do not matter where values are compared. -/
theorem compare_congr {o : Operator} {compare : List Int → List Int → Bool}
    (ho : compares? o = some compare) {selected selected' : List Int}
    (h : ∀ n, n ∈ selected' ↔ n ∈ selected) (ids : List Int) :
    compare selected' ids = compare selected ids := by
  have hany : (selected'.any fun n => ids.contains n) = selected.any fun n => ids.contains n := by
    rw [Bool.eq_iff_iff]
    simp [h]
  have hall : (ids.all fun n => selected'.contains n) = ids.all fun n => selected.contains n := by
    rw [Bool.eq_iff_iff]
    simp [h]
  cases o <;> cases ho <;> simp only [hany, hall]

theorem answerOf_twin {c c' : Leaf} (h : Twin c c') (hagree : AgreeOn choice choice' c) :
    answerOf choice' (.leaf c') = answerOf choice (.leaf c) := by
  cases h with
  | kind r id ho ids hid =>
    rw [answerOf_leaf_descriptorOf choice' _ _ _ r id ho ids,
      answerOf_leaf_descriptorOf choice _ _ _ r id ho ids, hid,
      compare_congr ho (hagree _ rfl) ids]
  | unknown scope name r id o value => rw [answerOf_leaf_unknown, answerOf_leaf_unknown]

theorem map_answerOf_twins {parts parts' : List Expr} (h : List.Forall₂ Twins parts parts')
    (heach : ∀ e ∈ parts, ∀ e', Twins e e' → answerOf choice' e' = answerOf choice e) :
    parts'.map (answerOf choice') = parts.map (answerOf choice) := by
  induction h with
  | nil => rfl
  | cons he hrest ih =>
    rw [List.forall_mem_cons] at heach
    rw [List.map_cons, List.map_cons, heach.1 _ he, ih heach.2]

theorem answerOf_twins {e e' : Expr} (h : Twins e e')
    (hagree : ∀ c ∈ e.leaves, AgreeOn choice choice' c) :
    answerOf choice' e' = answerOf choice e := by
  induction e using Expr.parts_induction generalizing e' with
  | leaf c =>
    cases h with
    | leaf h => exact answerOf_twin h (hagree c (by simp [Expr.leaves_leaf]))
  | group head parts ih =>
    cases h with
    | group _ h =>
      rw [Expr.leaves_group] at hagree
      rw [answerOf_group, answerOf_group, map_answerOf_twins h]
      intro e he e' htwins
      exact ih e he htwins fun c hc => hagree c (List.mem_flatMap.2 ⟨e, he, hc⟩)

theorem decide_twins (override : Option Connective) {g g' : Group} (h : GroupTwins g g')
    (hagree : ∀ c ∈ g.toExpr.leaves, AgreeOn choice choice' c) :
    decide choice'.toSelection override (some g') = decide choice.toSelection override (some g) := by
  obtain ⟨head, parts⟩ := g
  obtain ⟨head', parts'⟩ := g'
  cases h with
  | group _ h =>
    rw [Group.toExpr, Expr.leaves_group] at hagree
    rw [decide_some, decide_some, map_answerOf_twins h]
    intro e he e' htwins
    exact answerOf_twins htwins fun c hc => hagree c (List.mem_flatMap.2 ⟨e, he, hc⟩)

end Deciding

/-! ## Shops -/

/-- An engine that reads the catalog of a store, in pages that the store takes, and has cached nothing
but what it holds. The catalog has no more rows than the store can count. -/
structure Serves (e : Engine) (st : Store) : Prop where
  provider : ∃ l language size, e.provider = .attributes l language size ∧ 1 ≤ size ∧
    size + 1 < wordLimit
  fresh : e.IsFresh st
  rows : st.catalog.length ≤ wordLimit

theorem Serves.exists_kinds {e : Engine} {st : Store} (h : Serves e st) : ∃ l language,
    (e.visitor st).kinds =
      .ok (kindsOf l language (sortByPlace CatalogAttribute.place st.catalog)) := by
  obtain ⟨l, language, size, hprovider, hsize, hfits⟩ := h.provider
  refine ⟨l, language, ?_⟩
  show e.kinds st = _
  rw [Engine.kinds_of_isFresh h.fresh, hprovider]
  show (loadDescriptors st l language size).map Collection.mk = _
  rw [loadDescriptors_eq h.rows hsize hfits]
  rfl

theorem Serves.scope {e : Engine} {st : Store} (h : Serves e st) :
    (e.visitor st).scope = .productAttribute := by
  obtain ⟨l, language, size, hprovider, -⟩ := h.provider
  show e.provider.scope = _
  rw [hprovider]
  rfl

/-- Two stores with the same rule set under each number, whose catalogs have the same numbers. -/
structure SameRules (st st' : Store) : Prop where
  ruleSets : ∀ id, st'.findRuleSet id = st.findRuleSet id
  catalog : ∀ k, k ∈ st'.catalog.map (·.id) ↔ k ∈ st.catalog.map (·.id)

variable {e e' : Engine} {st st' : Store}

theorem sameButDisplay_compiler (he : Serves e st) (he' : Serves e' st')
    (hdepth : e'.maxDepth = e.maxDepth) (hsame : SameRules st st') :
    SameButDisplay (e.compiler st) (e'.compiler st') where
  scope := he'.scope.trans he.scope.symm
  depth := hdepth
  ruleSets := hsame.ruleSets
  catalog := hsame.catalog
  kinds := he.exists_kinds
  kinds' := he'.exists_kinds

/-- Whether an attribute is offered depends on the rule sets, on the numbers of the catalog, and on
which values are selected for the attributes that its rule set asks about. Names, languages, display
order, stored values, the size of the pages, the order and repetition of what is selected and all
else that is selected make no difference: the attribute is offered in both shops, or in neither, or
deciding it fails in both for the same reason. -/
theorem decision_ignores_display (he : Serves e st) (he' : Serves e' st')
    (hdepth : e'.maxDepth = e.maxDepth) (hsame : SameRules st st') (a a' : Option VariantAttribute)
    (ha : a'.bind (·.ruleSetId) = a.bind (·.ruleSetId)) (override : Option Connective)
    (choice choice' : Choice)
    (hagree : ∀ id g, a.bind (·.ruleSetId) = some id →
      ((e.compiler st).compile false id).result = .ok (some g) →
      ∀ c ∈ g.toExpr.leaves, AgreeOn choice choice' c) :
    (matches? (e'.compiler st') a' choice'.toSelection override).result =
      (matches? (e.compiler st) a choice.toSelection override).result := by
  unfold matches?
  rw [ha]
  cases hid : a.bind (·.ruleSetId) with
  | none => rfl
  | some id =>
    have halike := resultBelow_alike (sameButDisplay_compiler he he' hdepth hsame)
      (e.compiler st).maxDepth [] false id
    have hdepth' : (e'.compiler st').maxDepth = (e.compiler st).maxDepth := hdepth
    rw [← Compiler.result_compile, ← hdepth', ← Compiler.result_compile] at halike
    simp only [Outcome.result_bind, Outcome.result_ofResult]
    -- the compiled trees are twins, so what they answer is the same
    generalize hcompiled : ((e.compiler st).compile false id).result = compiled at halike ⊢
    generalize ((e'.compiler st').compile false id).result = compiled' at halike ⊢
    cases halike with
    | error f => rfl
    | ok h =>
      cases h with
      | none => rfl
      | some h => exact decide_twins override h (hagree id _ hid hcompiled)

/-- The rule sets of the sized shop, shown in another language and in another order. -/
def resized : Store where
  catalog := [⟨4, -1, ⟨some "Größe", .null⟩⟩, ⟨3, 9, ⟨some "Farbe", .null⟩⟩]
  ruleSets := sized.ruleSets
  attributes := [⟨21, 6, 4, some 1, 3⟩]
  values := [⟨5, 21, 0, ⟨some "rot", .null⟩⟩]

def resizedEngine : Engine := .attributes ⟨[], "de"⟩ "de" 1 5

theorem resized_decides_alike :
    (matches? (resizedEngine.compiler resized) resized.attributes.head?
        (Choice.toSelection [(4, [8]), (3, [5, 5])]) (some .every)).result =
      (matches? (sizedEngine.compiler sized) sized.attributes.head?
        (Choice.toSelection [(3, [5])]) (some .every)).result := by
  have hserves : Serves sizedEngine sized :=
    ⟨⟨_, _, 10, rfl, by decide, by decide⟩, Engine.isFresh_attributes _ _ _ _ _, by decide⟩
  have hserves' : Serves resizedEngine resized :=
    ⟨⟨_, _, 1, rfl, by decide, by decide⟩, Engine.isFresh_attributes _ _ _ _ _, by decide⟩
  have hsame : SameRules sized resized :=
    ⟨fun _ => rfl, fun k => by simp [sized, resized, or_comm]⟩
  -- every condition asks about the colour
  have hasked : ((sizedEngine.compiler sized).compile false 1).result.map
      (Option.map fun g => g.toExpr.leaves.map VariantOptions.parentOf) =
        .ok (some [some (.int 3), some (.int 3)]) := by cbv
  refine decision_ignores_display hserves hserves' rfl hsame sized.attributes.head?
    resized.attributes.head? rfl (some .every) [(3, [5])] [(4, [8]), (3, [5, 5])] ?_
  rintro id g ⟨⟩ hcompiled c hc k hk n
  rw [hcompiled] at hasked
  have hparents : g.toExpr.leaves.map VariantOptions.parentOf = [some (.int 3), some (.int 3)] :=
    Option.some.inj (Except.ok.inj hasked)
  have hmem := List.mem_map_of_mem (f := VariantOptions.parentOf) hc
  rw [hparents, hk] at hmem
  obtain rfl : k = 3 := by simpa using hmem
  simp [Choice.selectedFor, List.lookup]

end Attribute

end Rulebook
