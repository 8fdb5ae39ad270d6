import Mathlib
import Rulebook.Proofs.Compile.Nesting
import Rulebook.Proofs.Number.Decimal

/-!
# Absent rule sets

A number that names no rule set compiles to nothing, and a rule that refers to one adds nothing to
its group, wherever it stands. This is so as long as the store can be asked for the number. A number
beyond the words of the store cannot be looked up at all, and then compilation fails: at the top, and
also below, unless the text of the number is too long to be read.
-/

namespace Rulebook

open Rulebook.Checked (wordLimit)
open Rulebook.Number (digitLimit digitsOf)

/-- A number that names no rule set of the store. -/
def Store.Lacks (st : Store) (id : Int) : Prop := id ≤ 0 ∨ ∀ s ∈ st.ruleSets, s.id ≠ id

/-- A number that is read from its text, but that the store cannot be asked for. -/
def Store.Refuses (id : Int) : Prop :=
  wordLimit ≤ id ∧ (digitsOf id.natAbs).length ≤ digitLimit

instance (id : Int) : Decidable (Store.Refuses id) := inferInstanceAs (Decidable (_ ∧ _))

/-- The rule refers to a rule set by the decimal text of its number. -/
structure Rule.NamesSet (r : Rule) (id : Int) : Prop where
  isReference : r.isReference = true
  value : r.value = some (toString id)

/-- The rules of a rule set, with a further one among them if the rule set is that of a number. -/
def RuleSet.rulesWith (target : Int) (place : Nat) (r : Rule) (s : RuleSet) : List Rule :=
  if s.id = target then s.rules.take place ++ r :: s.rules.drop place else s.rules

/-- The rule set with a further rule, if it is that of a number. -/
def RuleSet.insertRule (target : Int) (place : Nat) (r : Rule) (s : RuleSet) : RuleSet :=
  { s with rules := s.rulesWith target place r }

/-- The compiler over a store in which the rule set of a number has a further rule. -/
def Compiler.insertRule (target : Int) (place : Nat) (r : Rule) (c : Compiler) : Compiler :=
  c.withRules (RuleSet.rulesWith target place r)

/-- A stored rule set as it is asked for: by its number, or as it was read from the store. -/
def Root.ofStored (byNumber : Bool) (s : RuleSet) : Root :=
  if byNumber then .number s.id else .entity s.toDraft

/-- The group of a rule set is the group itself or stands below it. -/
def Group.Includes (g : Group) (ruleSet : Int) : Prop :=
  ∃ head parts, .group head parts ∈ g.toExpr.withDescendants ∧ head.id = ruleSet

namespace Compiler

variable {c : Compiler} {hidden : Bool} {id : Int}

/-! ## The number itself -/

theorem entry_of_lacks (hlacks : c.store.Lacks id) {left : Nat} {path : List Int}
    (hpath : 0 < id → id ∉ path) :
    c.entry left path hidden id = if id < wordLimit then .ok none else .error .outOfRange := by
  rw [entry_eq_iff]
  have hlimit : (0 : Int) < wordLimit := by decide
  rcases lt_or_ge 0 id with hpos | hpos
  · have habsent : c.store.ruleSets.find? (fun s => decide (s.id = id)) = none := by
      rcases hlacks with hle | hne
      · omega
      · simpa using hne
    by_cases hword : id < wordLimit
    · rw [if_pos hword]
      refine .missing hpos (hpath hpos) (Store.findRuleSet_eq_ok_iff.2 ⟨?_, habsent⟩)
      simp only [Checked.fitsWord, Bool.and_eq_true, decide_eq_true_eq]
      omega
    · rw [if_neg hword]
      refine .unread hpos (hpath hpos) ?_
      rw [Store.findRuleSet, Store.rowOf?, if_neg]
      simp only [Checked.fitsWord, Bool.and_eq_true, decide_eq_true_eq]
      omega
  · rw [if_pos (by omega)]
    exact .unnamed hpos

theorem resultBelow_of_lacks (hlacks : c.store.Lacks id) {left : Nat} {path : List Int}
    (hpath : 0 < id → id ∉ path) :
    c.resultBelow left path hidden id = if id < wordLimit then .ok none else .error .outOfRange := by
  have hentry : c.entry left path hidden id = _ := entry_of_lacks hlacks hpath
  split at hentry
  · next hword => rw [if_pos hword, resultBelow_eq_none_iff.2 hentry]
  · next hword => rw [if_neg hword, resultBelow_eq_error_iff.2 (.inl hentry)]

/-! ## A rule that refers to it -/

theorem reference?_of_namesSet {r : Rule} (h : r.NamesSet id) :
    r.toDraft.reference? =
      if digitLimit < (digitsOf id.natAbs).length then none else some id := by
  rw [DraftRule.reference?, Rule.toDraft, h.value]
  exact Number.readInt?_toString id

/-- A rule that names an absent rule set adds nothing, unless the store refuses the number. -/
theorem contribution_of_lacks {r : Rule} (hr : r.NamesSet id) (hlacks : c.store.Lacks id)
    {left : Nat} {path : List Int} (hpath : 0 < id → id ∉ path) :
    contribution c.visitor (c.resultBelow left path false) r.toDraft =
      if Store.Refuses id then .error .outOfRange else .ok none := by
  have href : r.toDraft.isReference = true := by rw [r.isReference_toDraft, hr.isReference]
  have hid := reference?_of_namesSet hr
  by_cases hread : (digitsOf id.natAbs).length ≤ digitLimit
  · rw [if_neg (by omega)] at hid
    rw [contribution_of_reference href hid, resultBelow_of_lacks hlacks hpath]
    by_cases hword : id < wordLimit
    · rw [if_pos hword, if_neg fun hrefuses => absurd hrefuses.1 (by omega)]
      rfl
    · rw [if_neg hword, if_pos ⟨by omega, hread⟩]
      rfl
  · -- the text is no number, and costs the rule its place
    rw [if_pos (by omega)] at hid
    rw [if_neg fun hrefuses => hread hrefuses.2]
    simp [contribution, href, hid]

/-- On any path, a rule that names an absent rule set whose number is refused stops compilation. -/
theorem contribution_ne_ok_of_refuses {r : Rule} (hr : r.NamesSet id) (hlacks : c.store.Lacks id)
    (hrefuses : Store.Refuses id) (left : Nat) (path : List Int) (e : Option Expr) :
    contribution c.visitor (c.resultBelow left path false) r.toDraft ≠ .ok e := by
  by_cases hpath : id ∈ path
  · have hid := reference?_of_namesSet hr
    rw [if_neg (by have := hrefuses.2; omega)] at hid
    have hpos : 0 < id := Int.lt_of_lt_of_le (by decide) hrefuses.1
    have hentry : c.entry left path false id = .fail (.cycle id path) :=
      entry_eq_iff.2 (.cycle hpos hpath)
    rw [contribution_of_reference (by rw [r.isReference_toDraft, hr.isReference]) hid,
      resultBelow_eq_error_iff.2 (.inl hentry), placed_error rfl]
    exact nofun
  · rw [contribution_of_lacks hr hlacks fun _ => hpath, if_pos hrefuses]
    exact nofun

/-! ## A further rule -/

section Insertion

variable {target : Int} {place : Nat} {r : Rule}

theorem lacks_insertRule (h : c.store.Lacks id) : (c.insertRule target place r).store.Lacks id := by
  rcases h with hle | hne
  · exact .inl hle
  · refine .inr fun s hs => ?_
    obtain ⟨s', hs', rfl⟩ := List.mem_map.1 hs
    exact hne s' hs'

theorem mem_insertRule {s : RuleSet} (hs : s ∈ c.store.ruleSets) :
    s.insertRule target place r ∈ (c.insertRule target place r).store.ruleSets :=
  List.mem_map_of_mem hs

/-- Leaving out the rules that equal a given one undoes its insertion, too. -/
theorem thin_ruleSet_insertRule (s : RuleSet) :
    (s.insertRule target place r).thin (fun r' => r' ≠ r) = s.thin fun r' => r' ≠ r := by
  have hrules : (s.rulesWith target place r).filter (· ≠ r) = s.rules.filter (· ≠ r) := by
    rw [RuleSet.rulesWith]
    split
    · rw [List.filter_append, List.filter_cons_of_neg (by simp), ← List.filter_append,
        List.take_append_drop]
    · rfl
  simp only [RuleSet.thin, RuleSet.orderedRules, RuleSet.insertRule, filter_sortByPlace, hrules]

theorem thin_insertRule (c : Compiler) :
    (c.insertRule target place r).thin (fun _ r' => r' ≠ r) = c.thin fun _ r' => r' ≠ r := by
  simp only [thin, Store.thin, insertRule, withRules, Store.withRules, List.map_map]
  congr 2
  exact List.map_congr_left fun s _ => thin_ruleSet_insertRule s

end Insertion

/-! ## Roots that are stored -/

section Stored

variable {s : RuleSet} {g : Group}

theorem compileDraft_stored_eq_some_iff :
    (c.compileDraft hidden s.toDraft).result = .ok (some g) ↔
      opening c.visitor.scope hidden s.toDraft = .ok (some g.head) ∧
        groupParts c.visitor (c.resultBelow (c.maxDepth - 1) [s.id] false) s.toDraft.rules =
          .ok g.parts := by
  rw [result_compileDraft, Result.bind_eq_ok_iff]
  constructor
  · rintro ⟨opened, hopen, h⟩
    cases opened with
    | none => cases h
    | some head =>
      obtain ⟨parts, hparts, h⟩ := Result.bind_eq_ok_iff.1 h
      cases h
      exact ⟨hopen, hparts⟩
  · rintro ⟨hopen, hparts⟩
    exact ⟨_, hopen, Result.bind_eq_ok_iff.2 ⟨_, hparts, rfl⟩⟩

theorem result_ofStored_sameUnless_thin {bad : Failure → Prop} {keep : RuleSet → Rule → Bool}
    (along : List Int → Prop) (hbad : ∀ f, bad f → f.isLocal = false) (hstart : along [])
    (hgrow : ∀ s ∈ c.store.ruleSets, ∀ path, along path → along (path ++ [s.id]))
    (hdropped : ∀ s ∈ c.store.ruleSets, ∀ r ∈ s.rules, keep s r = false → ∀ left path, along path →
      SameUnless bad (contribution c.visitor (c.resultBelow left path false) r.toDraft) (.ok none))
    (byNumber : Bool) (hs : s ∈ c.store.ruleSets) :
    SameUnless bad (c.compileRoot hidden (.ofStored byNumber s)).result
      ((c.thin keep).compileRoot hidden (.ofStored byNumber (s.thin (keep s)))).result := by
  cases byNumber with
  | true =>
    exact resultBelow_sameUnless_thin_along along hbad hgrow hdropped c.maxDepth hstart hidden s.id
  | false =>
    have hpath : along [s.id] := hgrow s hs [] hstart
    have hparts := groupParts_sameUnless hbad Rule.toDraft (keep s)
      (fun id => resultBelow_sameUnless_thin_along along hbad hgrow hdropped (c.maxDepth - 1)
        hpath false id) s.orderedRules
      fun r hr hkeep => hdropped s hs r (RuleSet.mem_orderedRules.1 hr) hkeep _ _ hpath
    rw [← RuleSet.orderedRules_thin] at hparts
    exact compileDraft_sameUnless rfl hparts

end Stored

/-! ## Rule sets that do not occur -/

theorem groupParts_of_contributions {v : Visitor} {nested nested' : Int → Result (Option Group)}
    {rules : List DraftRule} {parts : List Expr} (h : groupParts v nested rules = .ok parts)
    (hsame : ∀ r ∈ rules, ∀ e, contribution v nested r = .ok e → (∀ part ∈ e, part ∈ parts) →
      contribution v nested' r = .ok e) :
    groupParts v nested' rules = .ok parts := by
  induction rules generalizing parts with
  | nil => exact h
  | cons r rest ih =>
    obtain ⟨e, more, he, hmore, rfl⟩ := groupParts_cons_eq_ok_iff.1 h
    refine groupParts_cons_eq_ok_iff.2 ⟨e, more, ?_, ?_, rfl⟩
    · exact hsame r List.mem_cons_self e he fun part hpart =>
        List.mem_append_left _ (Option.mem_toList.2 hpart)
    · exact ih hmore fun r' hr' e' he' hparts => hsame r' (List.mem_cons_of_mem _ hr') e' he'
        fun part hpart => List.mem_append_right _ (hparts part hpart)

theorem includes_of_part {g : Group} {head : GroupHead} {parts : List Expr} {rule : Option Int}
    {ruleSet : Int} (hpart : .group { head with refRuleId := rule } parts ∈ g.parts)
    (h : Group.Includes ⟨head, parts⟩ ruleSet) : g.Includes ruleSet := by
  have hbelow {e : Expr} (he : e ∈ Expr.withDescendants (.group { head with refRuleId := rule } parts)) :
      e ∈ g.toExpr.withDescendants :=
    Expr.mem_withDescendants_group.2 (.inr (Expr.mem_listDescendants.2 ⟨_, hpart, he⟩))
  obtain ⟨head', parts', hmem, rfl⟩ := h
  rcases Expr.mem_withDescendants_group.1 hmem with hself | hmem
  · -- the group itself occurs as the part, and there it knows the rule that refers to it
    cases hself
    exact ⟨_, _, hbelow (Expr.mem_withDescendants_group.2 (.inl rfl)), rfl⟩
  · exact ⟨_, _, hbelow (Expr.mem_withDescendants_group.2 (.inr hmem)), rfl⟩

/-- A compiled group depends on the rules of those rule sets only whose groups it includes. -/
theorem groupParts_withRules {rulesOf : RuleSet → List Rule} (hkinds : c.visitor.LoadsPlainly)
    {left : Nat} {path : List Int} {g : Group} {rules : List DraftRule}
    (hnested : ∀ id g', c.resultBelow left path false id = .ok (some g') →
      (∀ s ∈ c.store.ruleSets, g'.Includes s.id → rulesOf s = s.rules) →
      (c.withRules rulesOf).resultBelow left path false id = .ok (some g'))
    (h : groupParts c.visitor (c.resultBelow left path false) rules = .ok g.parts)
    (hsame : ∀ s ∈ c.store.ruleSets, g.Includes s.id → rulesOf s = s.rules) :
    groupParts c.visitor ((c.withRules rulesOf).resultBelow left path false) rules = .ok g.parts := by
  refine groupParts_of_contributions h fun r hr e he hpart => ?_
  cases href : r.isReference with
  | false =>
    rw [contribution_of_condition href] at he ⊢
    exact he
  | true =>
    cases hid : r.reference? with
    | none => simpa [contribution, href, hid] using he
    | some id =>
      rw [contribution_of_reference href hid] at he ⊢
      cases hresult : c.resultBelow left path false id with
      | ok found =>
        cases found with
        | none =>
          have hentry := entry_withRules rulesOf c left path false id
          rw [resultBelow_eq_none_iff.1 hresult] at hentry
          rw [resultBelow_eq_none_iff.2 hentry, ← hresult]
          exact he
        | some g' =>
          rw [hresult, placed_group] at he
          cases he
          rw [hnested id g' hresult fun s hs hincludes =>
            hsame s hs (includes_of_part (hpart _ rfl) hincludes), placed_group]
      | error f =>
        rcases resultBelow_eq_error_iff.1 hresult with hentry | ⟨s, head, -, hparts⟩
        · have hentry' := entry_withRules rulesOf c left path false id
          rw [hentry] at hentry'
          rw [resultBelow_eq_error_iff.2 (.inl hentry'), ← hresult]
          exact he
        · -- what fails after the checks fails here as well
          rw [hresult, placed_error (isLocal_of_groupParts_error hkinds hparts)] at he
          cases he

theorem includes_self {g : Group} : g.Includes g.head.id :=
  ⟨g.head, g.parts, Expr.mem_withDescendants_group.2 (.inl rfl), rfl⟩

theorem resultBelow_withRules_of_group (hkinds : c.visitor.LoadsPlainly)
    {rulesOf : RuleSet → List Rule} {left : Nat} {path : List Int} {g : Group}
    (h : c.resultBelow left path hidden id = .ok (some g))
    (hsame : ∀ s ∈ c.store.ruleSets, g.Includes s.id → rulesOf s = s.rules) :
    (c.withRules rulesOf).resultBelow left path hidden id = .ok (some g) := by
  induction left using nesting_induction generalizing path hidden id g with
  | step left ih =>
    obtain ⟨s, hentry, hparts⟩ := resultBelow_eq_some_iff.1 h
    have hroom := ne_zero_of_entry hentry
    have hs : ({ s with rules := rulesOf s } : RuleSet) = s := by
      cases entry_eq_iff.1 hentry with
      | entered hpos hpath hfound hleft hopen =>
        obtain ⟨-, -, k, -, hhead⟩ := opening_stored_eq_some_iff.1 hopen
        have hid : s.id = g.head.id := by rw [hhead]; rfl
        rw [hsame s (Store.mem_of_findRuleSet hfound) (hid ▸ includes_self)]
    refine resultBelow_eq_some_iff.2 ⟨s, ?_, ?_⟩
    · rw [entry_withRules, hentry]
      exact congrArg (fun s => Except.ok (some (s, g.head))) hs
    · exact groupParts_withRules hkinds (fun id' g' h' hsame' => ih hroom h' hsame') hparts hsame

/-! ## After an insertion -/

/-- What a stored rule set is compiled to once the rule set of a number has a further rule. -/
def resultAfter (c : Compiler) (hidden byNumber : Bool) (s : RuleSet) (target : Int) (place : Nat)
    (r : Rule) : Result (Option Group) :=
  ((c.insertRule target place r).compileRoot hidden
    (.ofStored byNumber (s.insertRule target place r))).result

section After

variable {s : RuleSet} {g : Group} {byNumber : Bool} {target : Int} {place : Nat} {r : Rule}

/-- A stored rule set whose group is compiled reads each of its rules without failure. -/
theorem exists_stored_of_compileRoot {root : Root}
    (hstored : ∀ d, root.draft? c.store = some d → ∃ s ∈ c.store.ruleSets, d = s.toDraft)
    (h : (c.compileRoot hidden root).result = .ok (some g)) :
    ∃ s ∈ c.store.ruleSets, s.id = g.head.id ∧ ∃ left path, ∀ r ∈ s.rules, ∃ e,
      contribution c.visitor (c.resultBelow left path false) r.toDraft = .ok e := by
  obtain ⟨d, path, hdraft, hopen, hparts⟩ := exists_opening_of_compileRoot h
  obtain ⟨s, hs, rfl⟩ := hstored d hdraft
  obtain ⟨-, -, k, -, hhead⟩ := opening_stored_eq_some_iff.1 hopen
  refine ⟨s, hs, by rw [hhead]; rfl, c.maxDepth - 1, path, fun r hr => ?_⟩
  exact exists_contribution_of_groupParts hparts (RuleSet.mem_toDraft_rules.2 ⟨r, hr, rfl⟩)

theorem draft?_number {n : Int} {d : DraftRuleSet} (h : (Root.number n).draft? c.store = some d) :
    ∃ s ∈ c.store.ruleSets, d = s.toDraft := by
  cases hfound : c.store.findRuleSet n with
  | error f => simp [Root.draft?, hfound, Except.toOption] at h
  | ok found =>
    cases found with
    | none => simp [Root.draft?, hfound, Except.toOption] at h
    | some s =>
      simp only [Root.draft?, hfound, Except.toOption, Option.join_some, Option.map_some] at h
      exact ⟨s, Store.mem_of_findRuleSet hfound, (Option.some.inj h).symm⟩

theorem exists_stored_of_includes (hs : s ∈ c.store.ruleSets)
    (h : (c.compileRoot hidden (.ofStored byNumber s)).result = .ok (some g)) {n : Int}
    (hincludes : g.Includes n) :
    ∃ s ∈ c.store.ruleSets, s.id = n ∧ ∃ left path, ∀ r ∈ s.rules, ∃ e,
      contribution c.visitor (c.resultBelow left path false) r.toDraft = .ok e := by
  obtain ⟨head, parts, hmem, rfl⟩ := hincludes
  rcases Expr.mem_withDescendants_group.1 hmem with hself | hbelow
  · cases hself
    refine exists_stored_of_compileRoot (fun d hd => ?_) h
    cases byNumber with
    | true => exact draft?_number hd
    | false => exact ⟨s, hs, (Option.some.inj hd).symm⟩
  · -- a group below is compiled at the top as well
    have hnested : (c.compileRoot false (.number head.id)).result = _ :=
      result_compile_of_mem_walk h hbelow
    exact exists_stored_of_compileRoot (fun d hd => draft?_number hd) hnested

/-- A rule that names an absent rule set is inserted without effect, unless it stops compilation. -/
theorem resultAfter_of_lacks (hlacks : c.store.Lacks id) (hs : s ∈ c.store.ruleSets)
    (h : (c.compileRoot hidden (.ofStored byNumber s)).result = .ok (some g)) (hr : r.NamesSet id) :
    c.resultAfter hidden byNumber s target place r = .ok (some g) ∨
      Store.Refuses id ∧ c.resultAfter hidden byNumber s target place r = .error .outOfRange := by
  -- without the rules that equal the given one, both stores are the same, and nothing is changed
  have hthin : ∀ c' : Compiler, c'.store.Lacks id → ∀ s ∈ c'.store.ruleSets,
      SameUnless (fun f => Store.Refuses id ∧ f = .outOfRange)
        (c'.compileRoot hidden (.ofStored byNumber s)).result
        ((c'.thin fun _ r' => r' ≠ r).compileRoot hidden
          (.ofStored byNumber (s.thin fun r' => r' ≠ r))).result := by
    intro c' hlacks' s hs
    refine result_ofStored_sameUnless_thin (fun path => 0 < id → id ∉ path) ?_ ?_ ?_ ?_ byNumber hs
    · rintro f ⟨-, rfl⟩
      rfl
    · simp
    · intro s hs path hpath hpos
      rcases hlacks' with hle | hne
      · omega
      · simp [hpath hpos, (hne s hs).symm]
    · intro s hs r' hr' hkeep left path hpath
      obtain rfl : r' = r := by simpa using hkeep
      rw [contribution_of_lacks hr hlacks' hpath]
      split
      · next hrefuses => exact .inr ⟨_, ⟨hrefuses, rfl⟩, rfl⟩
      · exact .refl _
  have hbefore := (hthin c hlacks s hs).eq_of_ok h
  have hafter := hthin (c.insertRule target place r) (lacks_insertRule hlacks) _ (mem_insertRule hs)
  rw [thin_insertRule, thin_ruleSet_insertRule] at hafter
  rcases hafter with hsame | ⟨f, ⟨hrefuses, rfl⟩, herror⟩
  · exact .inl (hsame.trans hbefore)
  · exact .inr ⟨hrefuses, herror⟩

theorem resultAfter_of_includes (hlacks : c.store.Lacks id) (hs : s ∈ c.store.ruleSets)
    (h : (c.compileRoot hidden (.ofStored byNumber s)).result = .ok (some g)) (hr : r.NamesSet id)
    (hrefuses : Store.Refuses id) (hincludes : g.Includes target) :
    c.resultAfter hidden byNumber s target place r = .error .outOfRange := by
  rcases resultAfter_of_lacks hlacks hs h hr with hsame | ⟨-, herror⟩
  · -- the group would have to be made from the very rule that stops compilation
    exfalso
    obtain ⟨s', hs', hid, left, path, hread⟩ :=
      exists_stored_of_includes (mem_insertRule hs) hsame hincludes
    obtain ⟨stored, -, rfl⟩ := List.mem_map.1 hs'
    obtain ⟨e, he⟩ := hread r (by
      show r ∈ stored.rulesWith target place r
      rw [RuleSet.rulesWith, if_pos hid]
      simp)
    exact contribution_ne_ok_of_refuses hr (lacks_insertRule hlacks) hrefuses left path e he
  · exact herror

theorem resultAfter_of_not_includes (hkinds : c.visitor.LoadsPlainly)
    (h : (c.compileRoot hidden (.ofStored byNumber s)).result = .ok (some g))
    (hincludes : ¬ g.Includes target) :
    c.resultAfter hidden byNumber s target place r = .ok (some g) := by
  have hsame : ∀ s ∈ c.store.ruleSets, g.Includes s.id → s.rulesWith target place r = s.rules := by
    intro s hs hid
    rw [RuleSet.rulesWith, if_neg]
    rintro rfl
    exact hincludes hid
  cases byNumber with
  | true => exact resultBelow_withRules_of_group hkinds h hsame
  | false =>
    obtain ⟨hopen, hparts⟩ := compileDraft_stored_eq_some_iff.1 h
    obtain ⟨-, -, k, -, hhead⟩ := opening_stored_eq_some_iff.1 hopen
    have hid : s.id = g.head.id := by rw [hhead]; rfl
    have hs : s.insertRule target place r = s := by
      rw [RuleSet.insertRule, RuleSet.rulesWith, if_neg]
      rintro rfl
      exact hincludes (hid ▸ includes_self)
    show ((c.insertRule target place r).compileDraft hidden
      (s.insertRule target place r).toDraft).result = _
    rw [hs]
    refine compileDraft_stored_eq_some_iff.2 ⟨hopen, ?_⟩
    exact groupParts_withRules hkinds
      (fun id g' h' hsame' => resultBelow_withRules_of_group hkinds h' hsame') hparts hsame

end After

/-- A number that names no rule set compiles to nothing, and a rule that refers to it changes no
group, wherever it is inserted, unless the store refuses the number. A refused number cannot be
compiled, and a rule that refers to it stops compilation of every group that includes its rule
set. -/
theorem absence_is_no_error_iff_accepted (c : Compiler) (hidden : Bool) (id : Int)
    (hlacks : c.store.Lacks id) :
    (c.compile hidden id).result = (if id < wordLimit then .ok none else .error .outOfRange) ∧
      ∀ s ∈ c.store.ruleSets, ∀ byNumber g,
        (c.compileRoot hidden (.ofStored byNumber s)).result = .ok (some g) →
        ∀ target place r, r.NamesSet id →
          (¬ Store.Refuses id → c.resultAfter hidden byNumber s target place r = .ok (some g)) ∧
          (Store.Refuses id → g.Includes target →
            c.resultAfter hidden byNumber s target place r = .error .outOfRange) ∧
          (¬ g.Includes target → c.visitor.LoadsPlainly →
            c.resultAfter hidden byNumber s target place r = .ok (some g)) := by
  refine ⟨?_, ?_⟩
  · rw [result_compile]
    exact resultBelow_of_lacks hlacks (by simp)
  · intro s hs byNumber g h target place r hr
    refine ⟨fun haccepted => ?_, ?_, ?_⟩
    · rcases resultAfter_of_lacks hlacks hs h hr with hsame | ⟨hrefuses, -⟩
      · exact hsame
      · exact absurd hrefuses haccepted
    · exact resultAfter_of_includes hlacks hs h hr
    · exact fun hincludes hkinds => resultAfter_of_not_includes hkinds h hincludes

/-- A rule set with one condition, of a kind that is not known. -/
def lone : Compiler where
  visitor := ⟨.productAttribute, .ok ⟨[]⟩⟩
  store := {
    catalog := []
    ruleSets := [⟨15, none, "product_attribute", "and", true, false,
      [⟨151, "colour", "eq", some "red", 0⟩]⟩]
    attributes := []
    values := [] }
  maxDepth := 16

/-- The rule set of `lone`, as it is stored. -/
def loneRuleSet : RuleSet :=
  ⟨15, none, "product_attribute", "and", true, false, [⟨151, "colour", "eq", some "red", 0⟩]⟩

theorem lone_ignores_absent_reference :
    lone.store.Lacks 16 ∧ loneRuleSet ∈ lone.store.ruleSets ∧
      (⟨152, "group", "eq", some "16", 0⟩ : Rule).NamesSet 16 ∧
      (lone.compile false 16).result = .ok none ∧
      ∃ g, (lone.compileRoot false (.ofStored true loneRuleSet)).result = .ok (some g) ∧
        lone.resultAfter false true loneRuleSet 15 0 ⟨152, "group", "eq", some "16", 0⟩ =
          .ok (some g) := by
  have hlacks : lone.store.Lacks 16 := .inr (by decide)
  have hs : loneRuleSet ∈ lone.store.ruleSets := by decide
  have hr : (⟨152, "group", "eq", some "16", 0⟩ : Rule).NamesSet 16 := ⟨by decide, by decide⟩
  have hcompiled : ∃ g, (lone.compileRoot false (.ofStored true loneRuleSet)).result = .ok (some g) :=
    ⟨_, by cbv⟩
  obtain ⟨g, hg⟩ := hcompiled
  obtain ⟨hnone, hsame⟩ := absence_is_no_error_iff_accepted lone false 16 hlacks
  exact ⟨hlacks, hs, hr, hnone, g, hg, (hsame _ hs true g hg 15 0 _ hr).1 (by decide)⟩

/-- The first number beyond the words of the store is absent, and yet an error at the top and
below. -/
theorem absent_number_beyond_words :
    lone.store.Lacks 9223372036854775808 ∧
      (lone.compile false 9223372036854775808).result = .error .outOfRange ∧
      (⟨152, "group", "eq", some "9223372036854775808", 0⟩ : Rule).NamesSet 9223372036854775808 ∧
      (∃ g, (lone.compileRoot false (.ofStored true loneRuleSet)).result = .ok (some g)) ∧
      lone.resultAfter false true loneRuleSet 15 0
        ⟨152, "group", "eq", some "9223372036854775808", 0⟩ = .error .outOfRange := by
  have hlacks : lone.store.Lacks 9223372036854775808 := .inr (by decide)
  exact ⟨hlacks, resultBelow_of_lacks hlacks (by simp), ⟨by decide, by decide⟩, ⟨_, by cbv⟩, by cbv⟩

end Compiler

end Rulebook
