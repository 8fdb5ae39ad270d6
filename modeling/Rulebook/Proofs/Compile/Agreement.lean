import Rulebook.Proofs.Compile.Condition

/-!
# Agreement of compilations

Two compilations that differ in the path, in the depth or in the stored rows often answer alike as
long as the first does not fail in a certain way. `SameUnless` says this of results, and the lemmas
of this module carry it through the steps of compilation:

- along the rules of a group, some of which may be left out (`groupParts_sameUnless`);
- down to the rule sets that are referred to, below a shorter path and with more nestings left
  (`resultBelow_sameUnless_deeper`);
- down to them in a store with fewer rules (`resultBelow_sameUnless_thin`);
- up to the rule set that was asked for, be it looked up or at hand (`compileRoot_sameUnless`).

What is checked of a rule set before its rules are read does not depend on its rules
(`entry_withRules`).
-/

namespace Rulebook

/-- Two results are the same, unless the first is a failure of a certain sort. -/
def SameUnless {α : Type} (bad : Failure → Prop) (x y : Result α) : Prop :=
  x = y ∨ ∃ f, bad f ∧ x = .error f

namespace SameUnless

variable {α β : Type} {bad : Failure → Prop}

theorem refl (x : Result α) : SameUnless bad x x := .inl rfl

theorem eq_of_ok {x y : Result α} {a : α} (h : SameUnless bad x y) (hx : x = .ok a) : y = .ok a := by
  rcases h with rfl | ⟨f, -, hf⟩
  · exact hx
  · rw [hx] at hf
    cases hf

/-- Steps that agree one after the other agree together. -/
theorem bind {x y : Result α} {k l : α → Result β} (hxy : SameUnless bad x y)
    (hkl : ∀ a, x = .ok a → SameUnless bad (k a) (l a)) : SameUnless bad (x >>= k) (y >>= l) := by
  rcases hxy with rfl | ⟨f, hf, rfl⟩
  · cases x with
    | error e => exact .inl rfl
    | ok a => exact hkl a rfl
  · -- the first failure ends the first sequence
    exact .inr ⟨f, hf, rfl⟩

end SameUnless

namespace Compiler

variable {bad : Failure → Prop} {v : Visitor} {nested nested' : Int → Result (Option Group)}

/-! ## Along the rules of a group -/

theorem placed_sameUnless (hbad : ∀ f, bad f → f.isLocal = false) (rule : Option Int)
    {x y : Result (Option Group)} (h : SameUnless bad x y) :
    SameUnless bad (placed rule x) (placed rule y) := by
  rcases h with rfl | ⟨f, hf, rfl⟩
  · exact .refl _
  · exact .inr ⟨f, hf, placed_error (hbad f hf)⟩

theorem contribution_sameUnless (hbad : ∀ f, bad f → f.isLocal = false) (r : DraftRule)
    (h : ∀ id, SameUnless bad (nested id) (nested' id)) :
    SameUnless bad (contribution v nested r) (contribution v nested' r) := by
  unfold contribution
  split
  · cases r.reference? with
    | none => exact .refl _
    | some id => exact placed_sameUnless hbad r.id (h id)
  · exact .refl _

/-- Rows that are left out make no difference as long as the rule of each would add nothing. -/
theorem groupParts_sameUnless {α : Type} (hbad : ∀ f, bad f → f.isLocal = false)
    (draft : α → DraftRule) (keep : α → Bool) (h : ∀ id, SameUnless bad (nested id) (nested' id))
    (rows : List α)
    (hdropped : ∀ r ∈ rows, keep r = false →
      SameUnless bad (contribution v nested (draft r)) (.ok none)) :
    SameUnless bad (groupParts v nested (rows.map draft))
      (groupParts v nested' ((rows.filter keep).map draft)) := by
  induction rows with
  | nil => exact .refl _
  | cons r rest ih =>
    have ih' := ih fun r' hr' => hdropped r' (List.mem_cons_of_mem _ hr')
    cases hkeep : keep r with
    | true =>
      rw [List.filter_cons_of_pos hkeep]
      exact (contribution_sameUnless hbad _ h).bind fun e _ => ih'.bind fun more _ => .refl _
    | false =>
      -- the row is only on the left, and adds nothing there
      rw [List.filter_cons_of_neg (by simp [hkeep])]
      rcases hdropped r List.mem_cons_self hkeep with hnone | ⟨f, hf, herror⟩
      · rw [List.map_cons, groupParts_of_nothing hnone]
        exact ih'
      · refine .inr ⟨f, hf, ?_⟩
        rw [List.map_cons, groupParts, herror]
        rfl

theorem groupParts_sameUnless_of_nested (hbad : ∀ f, bad f → f.isLocal = false)
    (h : ∀ id, SameUnless bad (nested id) (nested' id)) (rules : List DraftRule) :
    SameUnless bad (groupParts v nested rules) (groupParts v nested' rules) := by
  have hall := groupParts_sameUnless (v := v) hbad (fun r => r) (fun _ => true) h rules
    (fun _ _ hfalse => absurd hfalse (by simp))
  rwa [List.filter_eq_self.2 fun _ _ => rfl, List.map_id'] at hall

/-! ## Below another path -/

/-- The compiler with another greatest depth. -/
def withDepth (c : Compiler) (depth : Nat) : Compiler := { c with maxDepth := depth }

variable {c : Compiler}

/-- With more nestings left, below a path that holds no other numbers, the checks on a number answer
the same, unless it is refused for the path or for the depth. -/
theorem entry_sameUnless_deeper {depth left left' : Nat} {path path' : List Int}
    (hdeep : ∀ id d, bad (.rule (.depthExceeded id d)))
    (hcycle : path = path' ∨ path' ⊆ path ∧ ∀ id p, bad (.rule (.cycle id p)))
    (hleft : left ≤ left') (hidden : Bool) (id : Int) :
    SameUnless bad (c.entry left path hidden id)
      ((c.withDepth depth).entry left' path' hidden id) := by
  have hpath' : id ∉ path → id ∉ path' := by
    rcases hcycle with rfl | ⟨hsub, -⟩
    · exact fun h => h
    · exact fun h hmem => h (hsub hmem)
  have hspec := entry_spec c left path hidden id
  generalize c.entry left path hidden id = x at hspec ⊢
  -- but for the path and the depth, each answer has the same reason on both sides
  have same (h : (c.withDepth depth).Entry left' path' hidden id x) :
      SameUnless bad x ((c.withDepth depth).entry left' path' hidden id) :=
    .inl (entry_eq_of_entry h).symm
  cases hspec with
  | unnamed hpos => exact same (.unnamed hpos)
  | cycle hpos hmem =>
    rcases hcycle with rfl | ⟨-, hcycle⟩
    · exact same (.cycle hpos hmem)
    · exact .inr ⟨_, hcycle _ _, rfl⟩
  | unread hpos hpath hfound => exact same (.unread hpos (hpath' hpath) hfound)
  | missing hpos hpath hfound => exact same (.missing hpos (hpath' hpath) hfound)
  | tooDeep hpos hpath hfound hnone => exact .inr ⟨_, hdeep _ _, rfl⟩
  | refused hpos hpath hfound hroom hopen =>
    exact same (.refused hpos (hpath' hpath) hfound (by omega) hopen)
  | unseen hpos hpath hfound hroom hopen =>
    exact same (.unseen hpos (hpath' hpath) hfound (by omega) hopen)
  | entered hpos hpath hfound hroom hopen =>
    exact same (.entered hpos (hpath' hpath) hfound (by omega) hopen)

/-- With more nestings left, below a path that holds no other numbers, compilation answers the same,
unless the first fails for the path or for the depth. -/
theorem resultBelow_sameUnless_deeper {depth left left' : Nat} {path path' : List Int}
    (hbad : ∀ f, bad f → f.isLocal = false) (hdeep : ∀ id d, bad (.rule (.depthExceeded id d)))
    (hcycle : path = path' ∨ path' ⊆ path ∧ ∀ id p, bad (.rule (.cycle id p)))
    (hleft : left ≤ left') (hidden : Bool) (id : Int) :
    SameUnless bad (c.resultBelow left path hidden id)
      ((c.withDepth depth).resultBelow left' path' hidden id) := by
  induction left using nesting_induction generalizing left' path path' hidden id with
  | step left ih =>
    rw [resultBelow_eq, resultBelow_eq]
    refine (entry_sameUnless_deeper hdeep hcycle hleft hidden id).bind ?_
    rintro (_ | ⟨s, head⟩) hentry
    · exact .refl _
    · have hroom := ne_zero_of_entry hentry
      refine SameUnless.bind (groupParts_sameUnless_of_nested hbad (fun id' => ?_) _)
        fun parts _ => .refl _
      -- both paths grow by the same number, so the longer one still holds the other
      refine ih hroom ?_ (by omega) false id'
      rcases hcycle with rfl | ⟨hsub, hcycle⟩
      · exact .inl rfl
      · exact .inr ⟨List.append_subset.2 ⟨List.subset_append_of_subset_left _ hsub,
          List.subset_append_right _ _⟩, hcycle⟩

end Compiler

/-! ## In a store with other rule sets -/

/-- Rule sets that keep their numbers are found as before. -/
theorem Store.findRuleSet_map (change : RuleSet → RuleSet) (hid : ∀ s, (change s).id = s.id)
    (st : Store) (id : Int) :
    ({ st with ruleSets := st.ruleSets.map change } : Store).findRuleSet id = do
      return (← st.findRuleSet id).map change := by
  unfold findRuleSet rowOf?
  split
  · rw [List.find?_map]
    simp only [Function.comp_def, hid]
    rfl
  · rfl

/-- Over a store that answers with another rule set, which has the number of the first and opens
alike, the checks on a number answer alike. A number on the path is never asked for. -/
theorem Compiler.entry_of_change {c c' : Compiler} {left : Nat} {path : List Int}
    {hidden hidden' : Bool} {id : Int} (change : RuleSet → RuleSet)
    (hvisitor : c'.visitor = c.visitor) (hdepth : c'.maxDepth = c.maxDepth)
    (hfind : c'.store.findRuleSet id = do return (← c.store.findRuleSet id).map change)
    (hid : ∀ s, (change s).id = s.id)
    (hopening : ∀ s, id ∉ path → c.store.findRuleSet id = .ok (some s) →
      opening c.visitor.scope hidden' (change s).toDraft = opening c.visitor.scope hidden s.toDraft) :
    c'.entry left path hidden' id = do
      return (← c.entry left path hidden id).map fun e => (change e.1, e.2) := by
  have hspec := entry_spec c left path hidden id
  generalize c.entry left path hidden id = x at hspec ⊢
  have hfound {found} (h : c.store.findRuleSet id = found) :
      c'.store.findRuleSet id = do return (← found).map change := h ▸ hfind
  rw [← hvisitor] at hopening
  apply entry_eq_of_entry
  cases hspec with
  | unnamed hpos => exact .unnamed hpos
  | cycle hpos hpath => exact .cycle hpos hpath
  | unread hpos hpath h => exact .unread hpos hpath (hfound h)
  | missing hpos hpath h => exact .missing hpos hpath (hfound h)
  | tooDeep hpos hpath h hleft =>
    -- the error names the rule set by its number, which is the same
    rw [← hdepth, ← hid]
    exact .tooDeep hpos hpath (hfound h) hleft
  | refused hpos hpath h hleft hopen =>
    exact .refused hpos hpath (hfound h) hleft ((hopening _ hpath h).trans (hvisitor ▸ hopen))
  | unseen hpos hpath h hleft hopen =>
    exact .unseen hpos hpath (hfound h) hleft ((hopening _ hpath h).trans (hvisitor ▸ hopen))
  | entered hpos hpath h hleft hopen =>
    exact .entered hpos hpath (hfound h) hleft ((hopening _ hpath h).trans (hvisitor ▸ hopen))

/-- The store in which each rule set has other rules. -/
def Store.withRules (rulesOf : RuleSet → List Rule) (st : Store) : Store :=
  { st with ruleSets := st.ruleSets.map fun s => { s with rules := rulesOf s } }

/-- The compiler over a store in which each rule set has other rules. -/
def Compiler.withRules (rulesOf : RuleSet → List Rule) (c : Compiler) : Compiler :=
  { c with store := c.store.withRules rulesOf }

theorem Compiler.entry_withRules (rulesOf : RuleSet → List Rule) (c : Compiler) (left : Nat)
    (path : List Int) (hidden : Bool) (id : Int) :
    (c.withRules rulesOf).entry left path hidden id = do
      return (← c.entry left path hidden id).map fun e =>
        ({ e.1 with rules := rulesOf e.1 }, e.2) :=
  -- the checks read everything of a rule set but its rules
  entry_of_change (fun s => { s with rules := rulesOf s }) rfl rfl
    (Store.findRuleSet_map (fun s => { s with rules := rulesOf s }) (fun _ => rfl) _ id)
    (fun _ => rfl) fun _ _ _ => rfl

/-! ## In a store with fewer rules -/

/-- A rule set with fewer rules, those that are left in display order. -/
def RuleSet.thin (keep : Rule → Bool) (s : RuleSet) : RuleSet :=
  { s with rules := s.orderedRules.filter keep }

/-- A store in which the rule sets have fewer rules. -/
def Store.thin (keep : RuleSet → Rule → Bool) (st : Store) : Store :=
  { st with ruleSets := st.ruleSets.map fun s => s.thin (keep s) }

theorem inOrder_trans (a b c : Int × Int) (hab : inOrder a b = true) (hbc : inOrder b c = true) :
    inOrder a c = true := by
  simp only [inOrder, Bool.or_eq_true, Bool.and_eq_true, decide_eq_true_eq, beq_iff_eq] at *
  omega

theorem inOrder_total (a b : Int × Int) : (inOrder a b || inOrder b a) = true := by
  simp only [inOrder, Bool.or_eq_true, Bool.and_eq_true, decide_eq_true_eq, beq_iff_eq]
  omega

/-- Rules in display order are kept in it. -/
theorem sortByPlace_sorted {α : Type} (place : α → Int × Int) (rows : List α) :
    (sortByPlace place rows).Pairwise fun a b => inOrder (place a) (place b) := by
  refine List.pairwise_mergeSort ?_ ?_ rows
  · exact fun a b c => inOrder_trans (place a) (place b) (place c)
  · exact fun a b => inOrder_total (place a) (place b)

/-- A further row stands between the rows that come before it and those that do not. -/
theorem exists_split_sortByPlace {α : Type} (place : α → Int × Int) (row : α) (rows : List α) :
    ∃ front back, sortByPlace place (row :: rows) = front ++ row :: back ∧
      sortByPlace place rows = front ++ back ∧
      (∀ b ∈ front, inOrder (place row) (place b) = false) ∧
      ∀ b ∈ back, inOrder (place row) (place b) = true := by
  obtain ⟨front, back, hwhole, hrest, hfront⟩ :=
    @List.mergeSort_cons _ (fun a b => inOrder (place a) (place b))
      (fun a b c => inOrder_trans (place a) (place b) (place c))
      (fun a b => inOrder_total (place a) (place b)) row rows
  refine ⟨front, back, hwhole, hrest, by simpa using hfront, ?_⟩
  have hsorted := sortByPlace_sorted place (row :: rows)
  rw [show sortByPlace place (row :: rows) = front ++ row :: back from hwhole] at hsorted
  exact (List.pairwise_cons.1 (List.pairwise_append.1 hsorted).2.1).1

/-- A list is split in one way into items that do not satisfy `q` and items that do. -/
theorem eq_and_eq_of_append_eq {α : Type} {q : α → Bool} {front back front' back' : List α}
    (hfront : ∀ b ∈ front, q b = false) (hback : ∀ b ∈ back, q b = true)
    (hfront' : ∀ b ∈ front', q b = false) (hback' : ∀ b ∈ back', q b = true)
    (h : front ++ back = front' ++ back') : front = front' ∧ back = back' := by
  have hfilter : ∀ front back : List α, (∀ b ∈ front, q b = false) → (∀ b ∈ back, q b = true) →
      (front ++ back).filter q = back := by
    intro front back hfront hback
    rw [List.filter_append, List.filter_eq_self.2 hback,
      List.filter_eq_nil_iff.2 fun b hb => by simp [hfront b hb], List.nil_append]
  have hsame : back = back' := by
    rw [← hfilter front back hfront hback, h, hfilter front' back' hfront' hback']
  rw [hsame] at h
  exact ⟨List.append_cancel_right h, hsame⟩

/-- Rows may as well be picked before they are put in order. -/
theorem filter_sortByPlace {α : Type} (place : α → Int × Int) (p : α → Bool) (rows : List α) :
    (sortByPlace place rows).filter p = sortByPlace place (rows.filter p) := by
  induction rows with
  | nil => simp [sortByPlace]
  | cons row rest ih =>
    obtain ⟨front, back, hwhole, hrest, hfront, hback⟩ := exists_split_sortByPlace place row rest
    rw [hwhole, List.filter_append]
    rw [hrest, List.filter_append] at ih
    cases hrow : p row with
    | false =>
      rw [List.filter_cons_of_neg (by simp [hrow]), List.filter_cons_of_neg (by simp [hrow]), ih]
    | true =>
      rw [List.filter_cons_of_pos hrow, List.filter_cons_of_pos hrow]
      obtain ⟨front', back', hwhole', hrest', hfront', hback'⟩ :=
        exists_split_sortByPlace place row (rest.filter p)
      -- both splits part the picked rows by whether they come before the further row
      rw [hrest'] at ih
      obtain ⟨hsame, hsame'⟩ := eq_and_eq_of_append_eq
        (fun b hb => hfront b (List.mem_filter.1 hb).1) (fun b hb => hback b (List.mem_filter.1 hb).1)
        hfront' hback' ih
      rw [hwhole', hsame, hsame']

theorem RuleSet.orderedRules_thin (keep : Rule → Bool) (s : RuleSet) :
    (s.thin keep).orderedRules = s.orderedRules.filter keep :=
  List.mergeSort_of_pairwise ((sortByPlace_sorted Rule.place s.rules).filter keep)

namespace Compiler

variable {bad : Failure → Prop}

/-- The compiler over a store in which the rule sets have fewer rules. -/
def thin (keep : RuleSet → Rule → Bool) (c : Compiler) : Compiler :=
  { c with store := c.store.thin keep }

/-- Rules that are taken out of the store make no difference as long as each of them would add
nothing on the paths that compilation takes; `along` says which paths these are. -/
theorem resultBelow_sameUnless_withRules_along (rulesOf : RuleSet → List Rule)
    {keep : RuleSet → Rule → Bool} {c : Compiler} (along : List Int → Prop)
    (hbad : ∀ f, bad f → f.isLocal = false)
    (hrules : ∀ s, sortByPlace Rule.place (rulesOf s) = s.orderedRules.filter (keep s))
    (hgrow : ∀ s ∈ c.store.ruleSets, ∀ path, along path → along (path ++ [s.id]))
    (hdropped : ∀ s ∈ c.store.ruleSets, ∀ r ∈ s.rules, keep s r = false → ∀ left path, along path →
      SameUnless bad (contribution c.visitor (c.resultBelow left path false) r.toDraft) (.ok none))
    (left : Nat) {path : List Int} (hpath : along path) (hidden : Bool) (id : Int) :
    SameUnless bad (c.resultBelow left path hidden id)
      ((c.withRules rulesOf).resultBelow left path hidden id) := by
  induction left using nesting_induction generalizing path hidden id with
  | step left ih =>
    rw [resultBelow_eq, resultBelow_eq, entry_withRules]
    cases hentry : c.entry left path hidden id with
    | error f => exact .refl _
    | ok entered =>
      rcases entered with _ | ⟨s, head⟩
      · exact .refl _
      · cases entry_eq_iff.1 hentry with
        | entered hpos _ hfound hleft hopen =>
          have hs : s ∈ c.store.ruleSets := Store.mem_of_findRuleSet hfound
          have hpath' := hgrow s hs path hpath
          have hparts := groupParts_sameUnless hbad Rule.toDraft (keep s)
            (fun id' => ih hleft hpath' false id') s.orderedRules
            fun r hr hkeep => hdropped s hs r (RuleSet.mem_orderedRules.1 hr) hkeep _ _ hpath'
          -- the rules that are left are read in the order in which they were read before
          rw [← hrules] at hparts
          exact hparts.bind fun parts _ => .refl _

theorem resultBelow_sameUnless_thin_along {keep : RuleSet → Rule → Bool} {c : Compiler}
    (along : List Int → Prop) (hbad : ∀ f, bad f → f.isLocal = false)
    (hgrow : ∀ s ∈ c.store.ruleSets, ∀ path, along path → along (path ++ [s.id]))
    (hdropped : ∀ s ∈ c.store.ruleSets, ∀ r ∈ s.rules, keep s r = false → ∀ left path, along path →
      SameUnless bad (contribution c.visitor (c.resultBelow left path false) r.toDraft) (.ok none))
    (left : Nat) {path : List Int} (hpath : along path) (hidden : Bool) (id : Int) :
    SameUnless bad (c.resultBelow left path hidden id)
      ((c.thin keep).resultBelow left path hidden id) :=
  resultBelow_sameUnless_withRules_along (fun s => s.orderedRules.filter (keep s)) along hbad
    (fun s => s.orderedRules_thin (keep s)) hgrow hdropped left hpath hidden id

/-- Rules that are taken out of the store make no difference as long as each of them would add
nothing wherever it is compiled. -/
theorem resultBelow_sameUnless_thin {keep : RuleSet → Rule → Bool} {c : Compiler}
    (hbad : ∀ f, bad f → f.isLocal = false)
    (hdropped : ∀ s ∈ c.store.ruleSets, ∀ r ∈ s.rules, keep s r = false → ∀ left path,
      SameUnless bad (contribution c.visitor (c.resultBelow left path false) r.toDraft) (.ok none))
    (left : Nat) (path : List Int) (hidden : Bool) (id : Int) :
    SameUnless bad (c.resultBelow left path hidden id)
      ((c.thin keep).resultBelow left path hidden id) :=
  resultBelow_sameUnless_thin_along (fun _ => True) hbad (fun _ _ _ _ => trivial)
    (fun s hs r hr hkeep left path _ => hdropped s hs r hr hkeep left path) left trivial hidden id

end Compiler

/-! ## At the top -/

/-- A rule set at hand is compiled alike as long as its rules make the same parts: it is opened the
same, whatever rules it has. -/
theorem Compiler.compileDraft_sameUnless {bad : Failure → Prop} {c c' : Compiler} {hidden : Bool}
    {s : DraftRuleSet} {rules : List DraftRule} (hvisitor : c'.visitor = c.visitor)
    (hparts : SameUnless bad
      (groupParts c.visitor (c.resultBelow (c.maxDepth - 1) s.id.toList false) s.rules)
      (groupParts c.visitor (c'.resultBelow (c'.maxDepth - 1) s.id.toList false) rules)) :
    SameUnless bad (c.compileDraft hidden s).result
      (c'.compileDraft hidden { s with rules := rules }).result := by
  rw [result_compileDraft, result_compileDraft, hvisitor]
  show SameUnless bad (opening c.visitor.scope hidden s >>= _)
    (opening c.visitor.scope hidden s >>= _)
  refine SameUnless.bind (.refl _) ?_
  rintro (_ | head) -
  · exact .refl _
  · exact hparts.bind fun parts _ => .refl _

/-- The rules that are at hand, those of a rule set that is not looked up. -/
def Root.rules : Root → List DraftRule
  | .number _ => []
  | .entity s => s.rules

/-- A root with fewer rules at hand. -/
def Root.filterRules (keep : DraftRule → Bool) : Root → Root
  | .number id => .number id
  | .entity s => .entity { s with rules := s.rules.filter keep }

/-- A rule set that is at hand is compiled alike as long as those that are looked up are, and as each
of the rules that are taken out of it would add nothing. -/
theorem Compiler.compileRoot_sameUnless {bad : Failure → Prop} {c c' : Compiler} {hidden : Bool}
    {root : Root} {keep : DraftRule → Bool} (hbad : ∀ f, bad f → f.isLocal = false)
    (hvisitor : c'.visitor = c.visitor) (hdepth : c'.maxDepth = c.maxDepth)
    (hbelow : ∀ left path hidden id,
      SameUnless bad (c.resultBelow left path hidden id) (c'.resultBelow left path hidden id))
    (hdropped : ∀ r ∈ root.rules, keep r = false → ∀ left path,
      SameUnless bad (contribution c.visitor (c.resultBelow left path false) r) (.ok none)) :
    SameUnless bad (c.compileRoot hidden root).result
      (c'.compileRoot hidden (root.filterRules keep)).result := by
  cases root with
  | number id =>
    show SameUnless bad (c.resultBelow c.maxDepth [] hidden id)
      (c'.resultBelow c'.maxDepth [] hidden id)
    rw [hdepth]
    exact hbelow _ _ _ _
  | entity s =>
    refine compileDraft_sameUnless hvisitor ?_
    have hparts := groupParts_sameUnless (v := c.visitor) hbad (fun r => r) keep
      (fun id => hbelow (c.maxDepth - 1) s.id.toList false id) s.rules
      fun r hr hkeep => hdropped r hr hkeep _ _
    rw [List.map_id', List.map_id'] at hparts
    rw [hdepth]
    exact hparts

end Rulebook
