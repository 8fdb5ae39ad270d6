import Mathlib
import Rulebook.Proofs.Attribute.Interpretation
import Rulebook.Proofs.Compile.Reordering
import Rulebook.Proofs.Evaluation.Monotonicity

/-!
# Larger selections

A condition that asks for values to be selected holds for every selection that contains one for which
it holds, and a condition that asks for values not to be selected holds for every part of one. A rule
set whose conditions all ask in the same way passes this on to the attribute: selecting more never
takes it away, or never brings it back.

The kinds of conditions need not be those of the catalog at hand. They may have been cached when the
catalog was another one, as long as every condition of the rule set has a kind that is known.
-/

namespace Rulebook

open Rulebook.Attribute (descriptorOf)

/-! ## Kinds that a catalog contributes -/

/-- Every kind is one that some catalog contributes. -/
def Collection.FromCatalog (kinds : Collection) : Prop :=
  ∀ d ∈ kinds.descriptors, ∃ l language a, d = descriptorOf l language a

/-- What is cached for the scope comes from some catalog, be it that of another store. -/
def Engine.CachesCatalog (e : Engine) : Prop :=
  ∀ kinds, e.cache.get? e.provider.scope = some kinds → kinds.FromCatalog

/-- The engine reads the kinds of conditions from the catalog, whatever the language of their names
and the size of the pages. -/
def Engine.ReadsAttributes (e : Engine) : Prop :=
  ∃ l language pageSize, e.provider = .attributes l language pageSize

theorem Visitor.exists_kinds_of_part {v : Visitor} {r : DraftRule} {e : Expr}
    (h : v.condition r = .ok (some e)) : ∃ kinds, v.kinds = .ok kinds := by
  cases hkinds : v.kinds with
  | ok kinds => exact ⟨kinds, rfl⟩
  | error f =>
    unfold condition at h
    rw [result_visitRule, hkinds] at h
    -- a failure to load adds no part, whatever it is taken for
    change Result.orNothing (.error f) = _ at h
    unfold Result.orNothing at h
    split at h <;> cases h

/-- A part that a rule adds is the condition that the rule is read as. -/
theorem Visitor.exists_reads_of_part {v : Visitor} {r : DraftRule} {e : Expr}
    (h : v.condition r = .ok (some e)) : ∃ kinds id o value, v.kinds = .ok kinds ∧
      (v.kindOf kinds r).reads? r = some (o, value) ∧
      e = .leaf ((v.kindOf kinds r).leaf r id o value) := by
  obtain ⟨kinds, hkinds⟩ := exists_kinds_of_part h
  rw [condition_eq hkinds] at h
  cases hreads : (v.kindOf kinds r).reads? r with
  | none =>
    rw [hreads] at h
    cases h
  | some read =>
    rw [hreads] at h
    cases hid : r.id with
    | none =>
      rw [hid] at h
      cases h
    | some id =>
      rw [hid] at h
      cases h
      exact ⟨kinds, id, read.1, read.2, hkinds, hreads, rfl⟩

/-- A rule is read under a kind that some catalog contributes, or under the stand-in. -/
theorem Collection.FromCatalog.kindOf {kinds : Collection} (h : kinds.FromCatalog) (v : Visitor)
    (r : DraftRule) : (∃ l language a, v.kindOf kinds r = descriptorOf l language a) ∨
      v.kindOf kinds r = .unknown v.scope r.ruleType := by
  cases hfind : kinds.find? r.ruleType with
  | none =>
    right
    rw [Visitor.kindOf, hfind]
    rfl
  | some d =>
    left
    obtain ⟨l, language, a, hd⟩ := h d (Collection.mem_of_find? hfind)
    exact ⟨l, language, a, by rw [Visitor.kindOf, hfind, hd]; rfl⟩

namespace Engine

variable {e : Engine}

theorem cachesCatalog_attributes (l : Localizer) (language : String) (pageSize : Int)
    (maxDepth : Nat) : (attributes l language pageSize maxDepth).CachesCatalog := by
  intro kinds hcached
  cases hcached

theorem ReadsAttributes.fromCatalog (h : e.ReadsAttributes) {st : Store} {ds : List Descriptor}
    (hload : e.provider.load st = .ok ds) : Collection.FromCatalog ⟨ds⟩ := by
  obtain ⟨l, language, pageSize, hprovider⟩ := h
  rw [hprovider] at hload
  obtain ⟨pages, -, hds⟩ := Result.bind_eq_ok_iff.1 hload
  cases hds
  intro d hd
  obtain ⟨a, -, rfl⟩ := List.mem_map.1 hd
  exact ⟨l, language, a, rfl⟩

/-- A piece of work on any store leaves kinds of some catalog in the cache. -/
theorem CachesCatalog.settle (h : e.CachesCatalog) (hreads : e.ReadsAttributes) (st : Store)
    (asked : Bool) : (e.settle st asked).CachesCatalog := by
  intro kinds hcached
  cases asked with
  | false => exact h kinds hcached
  | true =>
    rcases cached_or_loaded hcached with hstored | hloaded
    · exact h kinds hstored
    · exact hreads.fromCatalog hloaded

/-- What the descriptors are is what is cached after they have been asked for. -/
theorem cached_of_kinds {st : Store} {kinds : Collection} (h : e.kinds st = .ok kinds) :
    (e.load st).1.get? e.provider.scope = some kinds := by
  unfold Engine.kinds load Cache.getOrLoad at h
  unfold load Cache.getOrLoad
  cases hstored : e.cache.get? e.provider.scope with
  | some stored =>
    simp only [hstored] at h ⊢
    cases h
    rfl
  | none =>
    cases hload : e.provider.load st with
    | error f => simp [hstored, hload] at h
    | ok ds =>
      simp only [hstored, hload] at h ⊢
      cases h
      exact Cache.get?_adopt _ _ _

theorem CachesCatalog.fromCatalog (h : e.CachesCatalog) (hreads : e.ReadsAttributes) {st : Store}
    {kinds : Collection} (hkinds : (e.visitor st).kinds = .ok kinds) : kinds.FromCatalog :=
  h.settle hreads st true kinds (cached_of_kinds hkinds)

end Engine

namespace Attribute

/-! ## Conditions of a known kind -/

/-- The condition compares the values selected for an attribute of some catalog with the numbers that
it lists. -/
def Compares (c : Leaf) : Prop :=
  ∃ k compare ids, compares? c.operator = some compare ∧
    ∀ choice, answerOf choice (.leaf c) = .ok (compare (Choice.selectedFor choice k) ids)

theorem compares_of_valid {v : Visitor}
    (hkinds : ∀ kinds, v.kinds = .ok kinds → kinds.FromCatalog) {r : Rule} {c : Leaf}
    (h : v.condition r.toDraft = .ok (some (.leaf c))) {d : Descriptor}
    (hd : c.descriptor = some d) (hvalid : d.isValid = true) : Compares c := by
  obtain ⟨kinds, id, o, value, hv, hread, hleaf⟩ := Visitor.exists_reads_of_part h
  cases hleaf
  cases hd
  rcases (hkinds kinds hv).kindOf v r.toDraft with ⟨l, language, a, hkind⟩ | hkind
  · rw [hkind, reads?_descriptorOf] at hread
    obtain ⟨o', -, hread⟩ := Option.bind_eq_some_iff.1 hread
    obtain ⟨ids, -, hread⟩ := Option.bind_eq_some_iff.1 hread
    rw [Option.ite_none_right_eq_some] at hread
    obtain ⟨hlist, hread⟩ := hread
    cases hread
    obtain ⟨compare, hcompare⟩ := Option.isSome_iff_exists.1 hlist
    refine ⟨a.id, compare, ids, hcompare, fun choice => ?_⟩
    rw [hkind]
    exact answerOf_leaf_descriptorOf choice l language a r.toDraft id hcompare ids
  · -- the stand-in for unknown kinds is not valid
    rw [hkind] at hvalid
    cases hvalid

/-- In rules that are compiled with the kinds of some catalog, all conditions of a known kind compare
what is selected. -/
theorem compares_of_mem_leaves {c : Compiler}
    (hkinds : ∀ kinds, c.visitor.kinds = .ok kinds → kinds.FromCatalog) {a : Option VariantAttribute}
    {g : Group} (h : compiledRules c a = .ok (some g)) {l : Leaf} (hl : l ∈ g.toExpr.leaves)
    (hvalid : ∃ d, l.descriptor = some d ∧ d.isValid = true) : Compares l := by
  obtain ⟨d, hd, hvalid⟩ := hvalid
  unfold compiledRules at h
  split at h
  · cases h
  · obtain ⟨-, -, -, r, -, -, hcondition⟩ := Compiler.exists_row_of_compile h hl
    exact compares_of_valid hkinds hcondition hd hvalid

/-! ## Selections that contain another -/

/-- Whatever is selected for an attribute in the first choice is selected in the second one. -/
def Choice.Within (choice choice' : Choice) : Prop :=
  ∀ k, choice.selectedFor k ⊆ choice'.selectedFor k

section Comparisons

variable {selected selected' ids : List Int}

/-- Some listed number is selected: this remains where more is selected. -/
theorem any_of_subset (h : selected ⊆ selected')
    (hany : (selected.any fun n => ids.contains n) = true) :
    (selected'.any fun n => ids.contains n) = true := by
  obtain ⟨n, hn, hlisted⟩ := List.any_eq_true.1 hany
  exact List.any_eq_true.2 ⟨n, h hn, hlisted⟩

/-- Every listed number is selected: this remains where more is selected. -/
theorem all_of_subset (h : selected ⊆ selected')
    (hall : (ids.all fun n => selected.contains n) = true) :
    (ids.all fun n => selected'.contains n) = true := by
  rw [List.all_eq_true] at hall ⊢
  intro n hn
  rw [List.contains_iff_mem]
  exact h (List.contains_iff_mem.1 (hall n hn))

end Comparisons

section Answers

variable {choice choice' : Choice} {c : Leaf}

/-- A condition that asks for values to be selected. -/
theorem answerOf_atMost_of_asking (hc : Compares c) (h : choice.Within choice')
    (ho : c.operator = .anyIn ∨ c.operator = .allIn) :
    (answerOf choice (.leaf c)).AtMost (answerOf choice' (.leaf c)) := by
  obtain ⟨k, compare, ids, hcompare, hanswer⟩ := hc
  rw [hanswer, hanswer]
  rcases ho with ho | ho <;> rw [ho] at hcompare <;> cases hcompare
  · exact .answers (any_of_subset (h k))
  · exact .answers (all_of_subset (h k))

/-- A condition that asks for values not to be selected. -/
theorem answerOf_atMost_of_refusing (hc : Compares c) (h : choice.Within choice')
    (ho : c.operator = .noneIn ∨ c.operator = .notAllIn) :
    (answerOf choice' (.leaf c)).AtMost (answerOf choice (.leaf c)) := by
  obtain ⟨k, compare, ids, hcompare, hanswer⟩ := hc
  rw [hanswer, hanswer]
  -- such a condition says the opposite of one that asks for them
  rcases ho with ho | ho <;> rw [ho] at hcompare <;> cases hcompare
  · exact .opposite (any_of_subset (h k))
  · exact .opposite (all_of_subset (h k))

theorem decide_atMost (override : Option Connective) {g : Group}
    (h : ∀ c ∈ g.toExpr.leaves, (answerOf choice (.leaf c)).AtMost (answerOf choice' (.leaf c))) :
    (decide choice.toSelection override (some g)).AtMost
      (decide choice'.toSelection override (some g)) := by
  rw [decide_eq_outcome, decide_eq_outcome]
  refine Expr.outcome_atMost fun c hc => ?_
  rw [Expr.leaves_group] at hc
  have hleaf := h c (by rwa [Group.toExpr, Expr.leaves_group])
  rwa [answerOf, answerOf, Expr.run, Expr.run] at hleaf

end Answers

/-- Whether an attribute is offered follows the selection, where all conditions of its rule set are of
a known kind and ask in the same way. If all of them ask for values to be selected, one or all of a
list, an attribute that is offered stays so when more is selected. If all of them ask for values not
to be selected, it stays so when less is selected. Deciding it fails in neither case, and any connective
may replace that of the rule set. -/
theorem decision_follows_selection {e : Engine} (hreads : e.ReadsAttributes)
    (hcache : e.CachesCatalog) (st : Store) {a : Option VariantAttribute} {g : Group}
    (hcompiled : compiledRules (e.compiler st) a = .ok (some g))
    (hvalid : ∀ c ∈ g.toExpr.leaves, ∃ d, c.descriptor = some d ∧ d.isValid = true)
    (override : Option Connective) {choice choice' : Choice} (hwithin : choice.Within choice') :
    ((∀ c ∈ g.toExpr.leaves, c.operator = .anyIn ∨ c.operator = .allIn) →
      (matches? (e.compiler st) a choice.toSelection override).result.AtMost
        (matches? (e.compiler st) a choice'.toSelection override).result) ∧
    ((∀ c ∈ g.toExpr.leaves, c.operator = .noneIn ∨ c.operator = .notAllIn) →
      (matches? (e.compiler st) a choice'.toSelection override).result.AtMost
        (matches? (e.compiler st) a choice.toSelection override).result) := by
  have hcompares : ∀ c ∈ g.toExpr.leaves, Compares c := fun c hc =>
    compares_of_mem_leaves (fun kinds => hcache.fromCatalog hreads) hcompiled hc (hvalid c hc)
  rw [result_matches?_of_compiled hcompiled, result_matches?_of_compiled hcompiled]
  constructor
  · intro ho
    exact decide_atMost override fun c hc =>
      answerOf_atMost_of_asking (hcompares c hc) hwithin (ho c hc)
  · intro ho
    exact decide_atMost override fun c hc =>
      answerOf_atMost_of_refusing (hcompares c hc) hwithin (ho c hc)

/-- The sized shop without colours in its catalog, and with rules that still ask for them. -/
def restocked : Store where
  catalog := [⟨4, 1, ⟨some "Size", .null⟩⟩]
  ruleSets := [
    ⟨1, none, "product_attribute", "or", true, false,
      [⟨10, "variant3", "all_in", some "5,6", 0⟩, ⟨11, "group", "eq", some "2", 1⟩]⟩,
    ⟨2, none, "product_attribute", "and", true, true, [⟨12, "Variant3", "in", some "5", 0⟩]⟩]
  attributes := [⟨20, 1, 4, some 1, 0⟩]
  values := []

/-- The engine after some work on the shop while the colours were in the catalog. -/
def seasonedEngine : Engine := sizedEngine.settle sized true

/-- The group of the rule set: what is known of its conditions, and what it decides where the fifth
colour is selected. -/
theorem compiledRules_restocked : ∃ g,
    compiledRules (seasonedEngine.compiler restocked) restocked.attributes.head? = .ok (some g) ∧
      g.toExpr.leaves.map (fun c => (c.descriptor.map (·.isValid), c.operator)) =
        [(some true, .allIn), (some true, .anyIn)] ∧
      decide (Choice.toSelection [(3, [5])]) none (some g) = .ok true := by
  have hread : (compiledRules (seasonedEngine.compiler restocked) restocked.attributes.head?).map
      (Option.map fun g => (g.toExpr.leaves.map fun c => (c.descriptor.map (·.isValid), c.operator),
        decide (Choice.toSelection [(3, [5])]) none (some g))) =
      .ok (some ([(some true, .allIn), (some true, .anyIn)], .ok true)) := by
    cbv
  generalize compiledRules (seasonedEngine.compiler restocked) restocked.attributes.head? = compiled
    at hread ⊢
  rcases compiled with f | _ | g
  · cases hread
  · cases hread
  · obtain ⟨hleaves, hdecided⟩ := Prod.mk.inj (Option.some.inj (Except.ok.inj hread))
    exact ⟨g, rfl, hleaves, hdecided⟩

theorem restocked_follows_selection :
    seasonedEngine.ReadsAttributes ∧ seasonedEngine.CachesCatalog ∧
      Choice.Within [(3, [5])] [(4, [7]), (3, [9, 5])] ∧
      (matches? (seasonedEngine.compiler restocked) restocked.attributes.head?
        (Choice.toSelection [(4, [7]), (3, [9, 5])]) none).result = .ok true := by
  have hreads : seasonedEngine.ReadsAttributes := ⟨_, _, _, rfl⟩
  have hcache : seasonedEngine.CachesCatalog :=
    (Engine.cachesCatalog_attributes _ _ _ _).settle ⟨_, _, _, rfl⟩ sized true
  have hwithin : Choice.Within [(3, [5])] [(4, [7]), (3, [9, 5])] := by
    intro k n hn
    by_cases h3 : k = 3
    · subst h3
      revert n
      decide
    · simp [Choice.selectedFor, List.lookup_cons, beq_eq_false_iff_ne.2 h3] at hn
  obtain ⟨g, hcompiled, hleaves, hdecided⟩ := compiledRules_restocked
  -- colours are still known, and every condition asks for values to be selected
  have hmem : ∀ c ∈ g.toExpr.leaves, c.descriptor.map (·.isValid) = some true ∧
      (c.operator = .anyIn ∨ c.operator = .allIn) := by
    intro c hc
    have hpair := List.mem_map_of_mem (f := fun c : Leaf =>
      (c.descriptor.map (·.isValid), c.operator)) hc
    rw [hleaves] at hpair
    simp only [List.mem_cons, Prod.mk.injEq, List.not_mem_nil, or_false] at hpair
    rcases hpair with ⟨hvalid, ho⟩ | ⟨hvalid, ho⟩
    · exact ⟨hvalid, .inr ho⟩
    · exact ⟨hvalid, .inl ho⟩
  have hfollows := (decision_follows_selection hreads hcache restocked hcompiled
    (fun c hc => Option.map_eq_some_iff.1 (hmem c hc).1) none hwithin).1 fun c hc => (hmem c hc).2
  exact ⟨hreads, hcache, hwithin,
    hfollows.eq_true ((result_matches?_of_compiled hcompiled _ _).trans hdecided)⟩

end Attribute

end Rulebook
