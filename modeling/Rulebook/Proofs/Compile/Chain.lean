import Mathlib
import Rulebook.Proofs.Compile.Condition

/-!
# Chains of rule sets

A chain leads from a rule set to one that it refers to, from there to one that this refers to, and
so on; only rule sets that may stand below others count. Compilation walks along chains: its path
always holds the numbers of one.

- Soundness: an error of nesting names a chain. A cycle is closed by the last rule set of a chain
  without repetition, and a chain that is too long has no room for one more.
- Completeness: where a group is compiled, no chain from its rule set repeats a rule set, returns to
  one of its own or is longer than allowed.
-/

namespace Rulebook

/-- A rule set that may be read in a scope, hidden ones only on demand. -/
structure RuleSet.Opens (scope : Scope) (hidden : Bool) (s : RuleSet) : Prop where
  visible : hidden = true ∨ s.isActive = true
  inScope : s.scope = scope.name
  readable : ∃ k, connectiveOf? (some s.logicalOperator) = some k

theorem Compiler.opens_iff {scope : Scope} {hidden : Bool} {s : RuleSet} :
    s.Opens scope hidden ↔ ∃ head, opening scope hidden s.toDraft = .ok (some head) := by
  simp only [opening_stored_eq_some_iff]
  constructor
  · rintro ⟨hvisible, hscope, k, hk⟩
    exact ⟨_, hscope, hvisible, k, hk, rfl⟩
  · rintro ⟨head, hscope, hvisible, k, hk, -⟩
    exact ⟨hvisible, hscope, k, hk⟩

/-- A group is compiled from a rule set that is found and may be read. -/
theorem Compiler.exists_opens_of_resultBelow {c : Compiler} {left : Nat} {path : List Int}
    {hidden : Bool} {id : Int} {g : Group} (h : c.resultBelow left path hidden id = .ok (some g)) :
    0 < id ∧ ∃ s, c.store.findRuleSet id = .ok (some s) ∧ s.Opens c.visitor.scope hidden := by
  obtain ⟨s, hentry, -⟩ := resultBelow_eq_some_iff.1 h
  cases entry_eq_iff.1 hentry with
  | entered hpos _ hfound _ hopen => exact ⟨hpos, s, hfound, opens_iff.2 ⟨_, hopen⟩⟩

/-- A chain of rule sets from the one of a number to a last one: each but the first is referred to
by the one before it and may be read there. -/
inductive Chain (st : Store) (scope : Scope) (root : Int) : List RuleSet → RuleSet → Prop where
  | start {s : RuleSet} (hfound : st.findRuleSet root = .ok (some s)) : Chain st scope root [s] s
  | step {sets : List RuleSet} {last s : RuleSet} {id : Int} (h : Chain st scope root sets last)
      (href : last.RefersTo id) (hpos : 0 < id) (hfound : st.findRuleSet id = .ok (some s))
      (hs : s.Opens scope false) : Chain st scope root (sets ++ [s]) s

/-- The numbers of rule sets. -/
def idsOf (sets : List RuleSet) : List Int := sets.map (·.id)

@[simp] theorem idsOf_append (sets : List RuleSet) (s : RuleSet) :
    idsOf (sets ++ [s]) = idsOf sets ++ [s.id] := by
  simp [idsOf]

theorem Chain.last_mem {st : Store} {scope : Scope} {root : Int} {sets : List RuleSet}
    {last : RuleSet} (h : Chain st scope root sets last) : last ∈ st.ruleSets := by
  cases h with
  | start hfound => exact Store.mem_of_findRuleSet hfound
  | step _ _ _ hfound _ => exact Store.mem_of_findRuleSet hfound

/-- Every rule set of a chain is stored under its number, which is the first one or positive. -/
theorem Chain.found_of_mem {st : Store} {scope : Scope} {root : Int} {sets : List RuleSet}
    {last : RuleSet} (h : Chain st scope root sets last) {s : RuleSet} (hs : s ∈ sets) :
    st.findRuleSet s.id = .ok (some s) ∧ (s.id = root ∨ 0 < s.id) := by
  induction h with
  | start hfound =>
    obtain rfl := List.mem_singleton.1 hs
    rw [Store.id_of_findRuleSet hfound]
    exact ⟨hfound, .inl rfl⟩
  | step h href hpos hfound hopens ih =>
    rcases List.mem_append.1 hs with hs | hs
    · exact ih hs
    · obtain rfl := List.mem_singleton.1 hs
      rw [Store.id_of_findRuleSet hfound]
      exact ⟨hfound, .inr hpos⟩

theorem Chain.idsOf_subset {st : Store} {scope : Scope} {root : Int} {sets : List RuleSet}
    {last : RuleSet} (h : Chain st scope root sets last) : idsOf sets ⊆ idsOf st.ruleSets := by
  intro id hid
  obtain ⟨s, hs, rfl⟩ := List.mem_map.1 hid
  exact List.mem_map_of_mem (Store.mem_of_findRuleSet (h.found_of_mem hs).1)

theorem Chain.pos {st : Store} {scope : Scope} {root : Int} {sets : List RuleSet}
    {last : RuleSet} (h : Chain st scope root sets last) (hroot : 0 < root) {id : Int}
    (hid : id ∈ idsOf sets) : 0 < id := by
  obtain ⟨s, hs, rfl⟩ := List.mem_map.1 hid
  rcases (h.found_of_mem hs).2 with hfirst | hpos
  · exact hfirst ▸ hroot
  · exact hpos

namespace Compiler

variable {c : Compiler} {root : Int} {hidden : Bool}

/-! ## Soundness -/

/-- A failure that arises at the end of a chain: from a number that its last rule set refers to, or
from a condition of that rule set. -/
def ArisesAt (c : Compiler) (sets : List RuleSet) (last : RuleSet) (f : Failure) : Prop :=
  (f.isLocal = false ∧ ∃ id, last.RefersTo id ∧
    c.entry (c.maxDepth - sets.length) (idsOf sets) false id = .error f) ∨
  ∃ r ∈ last.rules, c.visitor.condition r.toDraft = .error f

/-- A chain without repetition that is no longer than allowed. -/
structure Walk (c : Compiler) (root : Int) (sets : List RuleSet) (last : RuleSet) : Prop where
  chain : Chain c.store c.visitor.scope root sets last
  nodup : (idsOf sets).Nodup
  bounded : sets.length ≤ c.maxDepth

/-- Entering a rule set that the last one of a walk refers to makes the walk longer by one. -/
theorem Walk.extend {sets : List RuleSet} {last s : RuleSet} {id : Int} {left : Nat}
    {head : GroupHead} (hwalk : c.Walk root sets last) (href : last.RefersTo id)
    (hleft : sets.length + left = c.maxDepth)
    (hentry : c.entry left (idsOf sets) false id = .ok (some (s, head))) :
    c.Walk root (sets ++ [s]) s ∧ (sets ++ [s]).length + (left - 1) = c.maxDepth := by
  cases entry_eq_iff.1 hentry with
  | entered hpos hpath hfound hroom hopen =>
    have hid : s.id = id := Store.id_of_findRuleSet hfound
    refine ⟨⟨hwalk.chain.step href hpos hfound (opens_iff.2 ⟨_, hopen⟩), ?_, ?_⟩, ?_⟩
    · -- the number has been compared with the path
      rw [idsOf_append, List.nodup_append]
      refine ⟨hwalk.nodup, by simp, ?_⟩
      intro a ha b hb hab
      rw [List.mem_singleton.1 hb, hid] at hab
      exact hpath (hab ▸ ha)
    · -- a nesting was left for it
      simp only [List.length_append, List.length_singleton]
      omega
    · simp only [List.length_append, List.length_singleton]
      omega

/-- A failure below the last rule set of a walk arises at the end of some walk. -/
theorem exists_walk_of_nested_error {f : Failure} {left : Nat} {sets : List RuleSet}
    {last : RuleSet} {id : Int} (hwalk : c.Walk root sets last)
    (hleft : sets.length + left = c.maxDepth) (href : last.RefersTo id)
    (hlocal : f.isLocal = false) (h : c.resultBelow left (idsOf sets) false id = .error f) :
    ∃ sets last, c.Walk root sets last ∧ c.ArisesAt sets last f := by
  induction left using nesting_induction generalizing sets last id with
  | step left ih =>
    rcases resultBelow_eq_error_iff.1 h with hentry | ⟨s, head, hentry, hparts⟩
    · -- the walk ends here
      refine ⟨sets, last, hwalk, .inl ⟨hlocal, id, href, ?_⟩⟩
      rwa [show c.maxDepth - sets.length = left by omega]
    · -- the walk goes on to the rule set that is entered
      have hroom := ne_zero_of_entry hentry
      obtain ⟨hwalk', hleft'⟩ := hwalk.extend href hleft hentry
      rcases blame_of_groupParts_error hparts with ⟨id', href', hnested, -⟩ | ⟨r, hr, hcondition⟩
      · rw [← idsOf_append] at hnested
        exact ih hroom hwalk' hleft' (RuleSet.refersTo_toDraft.1 href') hnested
      · obtain ⟨stored, hstored, rfl⟩ := RuleSet.mem_toDraft_rules.1 hr
        exact ⟨_, _, hwalk', .inr ⟨stored, hstored, hcondition⟩⟩

/-- Entering the first rule set makes a walk of it alone. -/
theorem Walk.ofEntry {s : RuleSet} {head : GroupHead}
    (hentry : c.entry c.maxDepth [] hidden root = .ok (some (s, head))) :
    c.Walk root [s] s := by
  cases entry_eq_iff.1 hentry with
  | entered _ _ hfound hroom _ =>
    exact ⟨.start hfound, by simp [idsOf], Nat.one_le_iff_ne_zero.2 hroom⟩

/-- A failure of compilation is one of entering the first rule set, or arises at the end of some
walk. -/
theorem exists_walk_of_error {f : Failure} (h : (c.compile hidden root).result = .error f) :
    c.entry c.maxDepth [] hidden root = .error f ∨
      ∃ sets last, c.Walk root sets last ∧ c.ArisesAt sets last f := by
  rw [result_compile] at h
  rcases resultBelow_eq_error_iff.1 h with hentry | ⟨s, head, hentry, hparts⟩
  · exact .inl hentry
  · -- the rules of the first rule set are compiled below the path that holds it alone
    right
    have hwalk : c.Walk root [s] s := .ofEntry hentry
    rcases blame_of_groupParts_error hparts with ⟨id, href, hnested, hlocal⟩ | ⟨r, hr, hcondition⟩
    · have hleft : [s].length + (c.maxDepth - 1) = c.maxDepth := by
        have hbounded := hwalk.bounded
        simp only [List.length_singleton] at hbounded ⊢
        omega
      exact exists_walk_of_nested_error hwalk hleft (RuleSet.refersTo_toDraft.1 href) hlocal hnested
    · obtain ⟨stored, hstored, rfl⟩ := RuleSet.mem_toDraft_rules.1 hr
      exact ⟨_, _, hwalk, .inr ⟨stored, hstored, hcondition⟩⟩

/-- A cycle is closed by the last rule set of a walk. -/
theorem exists_walk_of_cycle (hkinds : c.visitor.LoadsPlainly) {id : Int} {path : List Int}
    (h : (c.compile hidden root).result = .error (.rule (.cycle id path))) :
    ∃ sets last, c.Walk root sets last ∧ path = idsOf sets ∧ last.RefersTo id ∧ id ∈ path := by
  rcases exists_walk_of_error h with hentry | ⟨sets, last, hwalk, ⟨-, id', href, hentry⟩ | ⟨r, -, hr⟩⟩
  · -- nothing is on the path yet
    cases (entryFailure_of_entry hentry).2 with
    | cycle hpath => simp at hpath
  · cases (entryFailure_of_entry hentry).2 with
    | cycle hpath => exact ⟨sets, last, hwalk, rfl, href, hpath⟩
  · exact absurd (Visitor.kinds_eq_of_stored_condition_error hr) (hkinds _)

/-- Rule sets are nested too deeply where the last rule set of a longest walk refers to one more. -/
theorem exists_walk_of_depthExceeded (hdepth : 1 ≤ c.maxDepth) (hkinds : c.visitor.LoadsPlainly)
    {id : Int} {depth : Nat}
    (h : (c.compile hidden root).result = .error (.rule (.depthExceeded id depth))) :
    depth = c.maxDepth ∧ ∃ sets last s, c.Walk root sets last ∧ sets.length = c.maxDepth ∧
      last.RefersTo id ∧ c.store.findRuleSet id = .ok (some s) ∧ id ∉ idsOf sets := by
  rcases exists_walk_of_error h with hentry | ⟨sets, last, hwalk, ⟨-, id', href, hentry⟩ | ⟨r, -, hr⟩⟩
  · -- at the top at least one nesting is left
    cases (entryFailure_of_entry hentry).2 with
    | tooDeep hpath hfound hleft => omega
  · cases (entryFailure_of_entry hentry).2 with
    | tooDeep hpath hfound hleft =>
      -- no nesting is left, so the walk is as long as allowed
      have hlength : sets.length = c.maxDepth := by
        have hbounded := hwalk.bounded
        omega
      exact ⟨rfl, sets, last, _, hwalk, hlength, href, hfound, hpath⟩
  · exact absurd (Visitor.kinds_eq_of_stored_condition_error hr) (hkinds _)

/-- Every rule set of a chain and one more that is not on it are stored. -/
theorem length_lt_of_walk {sets : List RuleSet} {last s : RuleSet} {id : Int}
    (hwalk : c.Walk root sets last) (hfound : c.store.findRuleSet id = .ok (some s))
    (hid : id ∉ idsOf sets) : sets.length < c.store.ruleSets.length := by
  -- different numbers, all of them stored, are no more than there are stored rule sets
  have hnodup : (id :: idsOf sets).Nodup := List.nodup_cons.2 ⟨hid, hwalk.nodup⟩
  have hsubset : id :: idsOf sets ⊆ idsOf c.store.ruleSets := by
    intro x hx
    rcases List.mem_cons.1 hx with rfl | hx
    · rw [← Store.id_of_findRuleSet hfound]
      exact List.mem_map_of_mem (Store.mem_of_findRuleSet hfound)
    · exact hwalk.chain.idsOf_subset hx
  have hlength := (List.subperm_of_subset hnodup hsubset).length_le
  simp only [List.length_cons, idsOf, List.length_map] at hlength
  omega

/-! ## Completeness -/

/-- The parts of the last rule set of a walk have been made. -/
def Compiled (c : Compiler) (sets : List RuleSet) (last : RuleSet) : Prop :=
  ∃ parts, groupParts c.visitor (c.resultBelow (c.maxDepth - sets.length) (idsOf sets) false)
    last.toDraft.rules = .ok parts

/-- A compiled rule set refers to none that cannot be entered, local failures apart. -/
theorem Compiled.isLocal {sets : List RuleSet} {last : RuleSet} (h : c.Compiled sets last) {id : Int}
    {f : Failure} (href : last.RefersTo id)
    (hf : c.resultBelow (c.maxDepth - sets.length) (idsOf sets) false id = .error f) :
    f.isLocal = true := by
  obtain ⟨parts, hparts⟩ := h
  exact isLocal_of_groupParts_ok hparts (RuleSet.refersTo_toDraft.2 href) hf

/-- Where a group is compiled, every chain is a walk, and the rules of its last rule set have been
compiled below its path. -/
theorem walk_of_chain (hkinds : c.visitor.LoadsPlainly) {g : Group}
    (h : (c.compile hidden root).result = .ok (some g)) {sets : List RuleSet} {last : RuleSet}
    (hchain : Chain c.store c.visitor.scope root sets last) :
    c.Walk root sets last ∧ c.Compiled sets last := by
  induction hchain with
  | start hfound =>
    rw [result_compile] at h
    obtain ⟨s, hentry, hparts⟩ := resultBelow_eq_some_iff.1 h
    cases entry_eq_iff.1 hentry with
    | entered _ _ hfound' _ _ =>
      -- the rule set of a number is one only
      obtain rfl : s = _ := by simpa using hfound'.symm.trans hfound
      exact ⟨.ofEntry hentry, _, hparts⟩
  | @step sets last s id hchain href hpos hfound hs ih =>
    obtain ⟨hwalk, hcompiled⟩ := ih
    have hid : s.id = id := Store.id_of_findRuleSet hfound
    -- a number on the path, and one too many, would have failed the rule that refers to it
    have hpath : id ∉ idsOf sets := by
      intro hmem
      have hentry : c.entry (c.maxDepth - sets.length) (idsOf sets) false id =
          .fail (.cycle id (idsOf sets)) := entry_eq_of_entry (.cycle hpos hmem)
      cases hcompiled.isLocal href (resultBelow_eq_error_iff.2 (.inl hentry))
    have hroom : c.maxDepth - sets.length ≠ 0 := by
      intro hleft
      have hentry : c.entry (c.maxDepth - sets.length) (idsOf sets) false id =
          .fail (.depthExceeded s.id c.maxDepth) :=
        entry_eq_of_entry (.tooDeep hpos hpath hfound hleft)
      cases hcompiled.isLocal href (resultBelow_eq_error_iff.2 (.inl hentry))
    obtain ⟨head, hopen⟩ := opens_iff.1 hs
    have hentry := entry_eq_of_entry (.entered hpos hpath hfound hroom hopen)
    have hleft : sets.length + (c.maxDepth - sets.length) = c.maxDepth := by omega
    obtain ⟨hwalk', hleft'⟩ := hwalk.extend href hleft hentry
    refine ⟨hwalk', ?_⟩
    cases hparts : groupParts c.visitor (c.resultBelow (c.maxDepth - sets.length - 1)
        (idsOf sets ++ [s.id]) false) s.toDraft.rules with
    | ok parts =>
      refine ⟨parts, ?_⟩
      rw [idsOf_append, List.length_append, List.length_singleton, Nat.sub_add_eq]
      exact hparts
    | error f =>
      -- no rule fails locally, so the rule set before this one would have failed as well
      have hlocal := hcompiled.isLocal href
        (resultBelow_eq_error_iff.2 (.inr ⟨s, _, hentry, hparts⟩))
      rw [isLocal_of_groupParts_error hkinds hparts] at hlocal
      cases hlocal

/-! ## Detection -/

/-- Some chain from the rule set of a number returns to a rule set of its own. -/
def Closes (c : Compiler) (root : Int) : Prop :=
  ∃ sets last id, Chain c.store c.visitor.scope root sets last ∧ last.RefersTo id ∧ id ∈ idsOf sets

/-- Some chain from the rule set of a number ends at one that refers to a rule set of another
scope. -/
def LeavesScope (c : Compiler) (root : Int) : Prop :=
  ∃ sets last id s, Chain c.store c.visitor.scope root sets last ∧ last.RefersTo id ∧
    c.store.findRuleSet id = .ok (some s) ∧ s.scope ≠ c.visitor.scope.name

/-- Where a group is compiled, no chain returns to a rule set of its own. -/
theorem not_closes_of_group (hkinds : c.visitor.LoadsPlainly) {g : Group}
    (h : (c.compile hidden root).result = .ok (some g)) : ¬c.Closes root := by
  rintro ⟨sets, last, id, hchain, href, hmem⟩
  obtain ⟨hwalk, hcompiled⟩ := walk_of_chain hkinds h hchain
  -- the number that closes the chain is positive, so it has been compared with the path
  have hroot : 0 < root := by
    obtain ⟨s, hentry, -⟩ := resultBelow_eq_some_iff.1 (result_compile .. ▸ h)
    cases entry_eq_iff.1 hentry with
    | entered hpos _ _ _ _ => exact hpos
  have hpos : 0 < id := hchain.pos hroot hmem
  have hentry : c.entry (c.maxDepth - sets.length) (idsOf sets) false id =
      .fail (.cycle id (idsOf sets)) := entry_eq_of_entry (.cycle hpos hmem)
  cases hcompiled.isLocal href (resultBelow_eq_error_iff.2 (.inl hentry))

theorem not_depthExceeded_of_length_le (hdepth : 1 ≤ c.maxDepth) (hkinds : c.visitor.LoadsPlainly)
    (hroom : c.store.ruleSets.length ≤ c.maxDepth) (id : Int) (depth : Nat) :
    (c.compile hidden root).result ≠ .fail (.depthExceeded id depth) := by
  intro h
  obtain ⟨-, sets, last, s, hwalk, hlength, -, hfound, hid⟩ :=
    exists_walk_of_depthExceeded hdepth hkinds h
  have hlt := length_lt_of_walk hwalk hfound hid
  omega

/-- With room for all rule sets, compilation of one that can be read ends with a cycle if some chain
closes, with a group if none does, or where a chain leaves the scope. -/
theorem verdict_of_room (hdepth : 1 ≤ c.maxDepth) {kinds : Collection}
    (hkinds : c.visitor.kinds = .ok kinds) (hfits : c.store.ReferencesFit)
    (hroom : c.store.ruleSets.length ≤ c.maxDepth) {s : RuleSet} (hroot : 0 < root)
    (hfound : c.store.findRuleSet root = .ok (some s)) (hs : s.Opens c.visitor.scope hidden) :
    (c.Closes root ∧ ∃ id path, (c.compile hidden root).result = .fail (.cycle id path)) ∨
      (¬c.Closes root ∧ ∃ g, (c.compile hidden root).result = .ok (some g)) ∨
      (c.LeavesScope root ∧ ∃ scope id, (c.compile hidden root).result =
        .fail (.scopeMismatch (some scope) c.visitor.scope (some id))) := by
  have hplain : c.visitor.LoadsPlainly := Visitor.loadsPlainly_of_ok hkinds
  obtain ⟨head, hopen⟩ := opens_iff.1 hs
  have hentry : c.entry c.maxDepth [] hidden root = .ok (some (s, head)) :=
    entry_eq_of_entry (.entered hroot (by simp) hfound (by omega) hopen)
  cases hresult : (c.compile hidden root).result with
  | ok found =>
    cases found with
    | some g => exact .inr (.inl ⟨not_closes_of_group hplain hresult, g, rfl⟩)
    | none =>
      rw [result_compile, resultBelow_eq_none_iff, hentry] at hresult
      cases hresult
  | error f =>
    rcases exists_walk_of_error hresult with
      hentry' | ⟨sets, last, hwalk, ⟨hlocal, id, href, hentry'⟩ | ⟨r, -, hr⟩⟩
    · rw [hentry] at hentry'
      cases hentry'
    · -- what remains of the failures at the end of a walk is a cycle or another scope
      cases (entryFailure_of_entry hentry').2 with
      | cycle hpath => exact .inl ⟨⟨sets, last, id, hwalk.chain, href, hpath⟩, _, _, rfl⟩
      | outOfRange hout => simp [hfits last hwalk.chain.last_mem id href] at hout
      | tooDeep hpath hfound hleft =>
        exact absurd hresult (not_depthExceeded_of_length_le hdepth hplain hroom _ _)
      | foreign hpath hfound hscope =>
        exact .inr (.inr ⟨⟨sets, last, id, _, hwalk.chain, href, hfound, hscope⟩, _, _, rfl⟩)
      | unreadable _ _ _ _ => cases hlocal
    · rw [Visitor.kinds_eq_of_stored_condition_error hr] at hkinds
      cases hkinds

/-- The checks against cycles and against deep nesting are sound and complete: each error names a
chain that justifies it, and a group is compiled only where no chain would. With room for all rule
sets the depth is never exceeded, and every cycle is found before anything else than a rule set of
another scope. -/
theorem nesting_checks_sound_and_complete (c : Compiler) (root : Int) (hidden : Bool)
    (hdepth : 1 ≤ c.maxDepth) (hkinds : c.visitor.LoadsPlainly) :
    (∀ id path, (c.compile hidden root).result = .fail (.cycle id path) →
      ∃ sets last, c.Walk root sets last ∧ path = idsOf sets ∧ last.RefersTo id ∧ id ∈ path) ∧
    (∀ id depth, (c.compile hidden root).result = .fail (.depthExceeded id depth) →
      depth = c.maxDepth ∧ ∃ sets last s, c.Walk root sets last ∧ sets.length = c.maxDepth ∧
        last.RefersTo id ∧ c.store.findRuleSet id = .ok (some s) ∧ id ∉ idsOf sets) ∧
    (∀ g, (c.compile hidden root).result = .ok (some g) →
      ∀ sets last, Chain c.store c.visitor.scope root sets last →
        c.Walk root sets last ∧ ∀ id, last.RefersTo id → id ∉ idsOf sets) ∧
    (c.store.ruleSets.length ≤ c.maxDepth →
      (∀ id depth, (c.compile hidden root).result ≠ .fail (.depthExceeded id depth)) ∧
      ∀ kinds s, c.visitor.kinds = .ok kinds → c.store.ReferencesFit → 0 < root →
        c.store.findRuleSet root = .ok (some s) → s.Opens c.visitor.scope hidden →
        (c.Closes root ∧ ∃ id path, (c.compile hidden root).result = .fail (.cycle id path)) ∨
        (¬c.Closes root ∧ ∃ g, (c.compile hidden root).result = .ok (some g)) ∨
        (c.LeavesScope root ∧ ∃ scope id, (c.compile hidden root).result =
          .fail (.scopeMismatch (some scope) c.visitor.scope (some id)))) := by
  refine ⟨fun id path h => exists_walk_of_cycle hkinds h,
    fun id depth h => exists_walk_of_depthExceeded hdepth hkinds h, ?_, ?_⟩
  · intro g hg sets last hchain
    refine ⟨(walk_of_chain hkinds hg hchain).1, ?_⟩
    intro id href hmem
    exact not_closes_of_group hkinds hg ⟨sets, last, id, hchain, href, hmem⟩
  · intro hroom
    refine ⟨not_depthExceeded_of_length_le hdepth hkinds hroom, ?_⟩
    intro kinds s hkinds' hfits hroot hfound hs
    exact verdict_of_room hdepth hkinds' hfits hroom hroot hfound hs

/-- Two rule sets that refer to each other. -/
def circle : Compiler where
  visitor := ⟨.productAttribute, .ok ⟨[]⟩⟩
  store := {
    catalog := []
    ruleSets := [
      ⟨1, none, "product_attribute", "and", true, false, [⟨10, "group", "eq", some "2", 0⟩]⟩,
      ⟨2, none, "product_attribute", "or", true, true, [⟨11, "group", "eq", some " 1 ", 0⟩]⟩]
    attributes := []
    values := [] }
  maxDepth := 2

theorem exists_walk_of_circle :
    1 ≤ circle.maxDepth ∧ circle.visitor.LoadsPlainly ∧
      (circle.compile false 1).result = .fail (.cycle 1 [1, 2]) ∧
      ∃ sets last, circle.Walk 1 sets last ∧ [1, 2] = idsOf sets ∧ last.RefersTo 1 ∧
        (1 : Int) ∈ [(1 : Int), 2] := by
  have hdepth : 1 ≤ circle.maxDepth := by decide
  have hplain : circle.visitor.LoadsPlainly := Visitor.loadsPlainly_of_ok rfl
  have hcycle : (circle.compile false 1).result = .fail (.cycle 1 [1, 2]) := by cbv
  have hchecks := nesting_checks_sound_and_complete circle 1 false hdepth hplain
  exact ⟨hdepth, hplain, hcycle, hchecks.1 1 [1, 2] hcycle⟩

end Compiler

end Rulebook
