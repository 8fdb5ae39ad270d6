import Rulebook.Compile.Basic

/-!
# Steps of compilation

What compilation answers, its log left aside, cut into the steps that it is made of:

1. `Compiler.opening`: the checks that a rule set passes before its rules are read;
2. `Compiler.entry`: the checks that the number of a rule set passes, `opening` being the last;
3. `Compiler.contribution`: what one rule adds to its group;
4. `Compiler.groupParts`: the contributions of all rules, in order.

`resultBelow_eq` puts them together again. Everything else about compilation is proved from this
equation and from what each step can answer, and never opens `compileBelow`.
-/

namespace Rulebook

/-- What is to be compiled: a rule set that the store knows by number, or one that is at hand. -/
inductive Root where
  | number (id : Int)
  | entity (s : DraftRuleSet)

/-- The number of the rule set that is to be compiled. -/
def Root.id : Root → Option Int
  | .number id => some id
  | .entity s => s.id

/-! ## Sequences of results -/

namespace Result

variable {α β : Type} {x : Result α} {k : α → Result β} {b : β} {f : Failure}

theorem bind_eq_ok_iff : (x >>= k) = .ok b ↔ ∃ a, x = .ok a ∧ k a = .ok b := by
  cases x with
  | error e => simp [bind, Except.bind]
  | ok a => simp [bind, Except.bind]

theorem bind_eq_error_iff :
    (x >>= k) = .error f ↔ x = .error f ∨ ∃ a, x = .ok a ∧ k a = .error f := by
  cases x with
  | error e => simp [bind, Except.bind]
  | ok a => simp [bind, Except.bind]

end Result

/-- The result of reading a row, nothing being read where the row cannot be converted. -/
def Result.orNothing {α : Type} : Result (Option α) → Result (Option α)
  | .error (.rule (.conversion ..)) => .ok none
  | x => x

theorem Result.eq_error_of_orNothing {α : Type} {x : Result (Option α)} {f : Failure}
    (h : x.orNothing = .error f) : x = .error f := by
  unfold orNothing at h
  split at h
  · -- a row that cannot be converted is no failure any more
    cases h
  · exact h

/-! ## Results of outcomes -/

namespace Outcome

variable {α β : Type}

@[simp] theorem result_pure (a : α) : (Pure.pure a : Outcome α).result = .ok a := rfl

@[simp] theorem result_ofResult (r : Result α) : (ofResult r).result = r := rfl

@[simp] theorem result_mapFailure (x : Outcome α) (f : Failure → Failure) :
    (x.mapFailure f).result = x.result.mapError f := rfl

@[simp] theorem result_bind (x : Outcome α) (k : α → Outcome β) :
    (x >>= k).result = x.result >>= fun a => (k a).result := by
  show (Outcome.bind x k).result = _
  unfold Outcome.bind
  cases x.result <;> rfl

@[simp] theorem result_orSkip (x : Outcome (Option α)) (ruleSet : Option Int) :
    (x.orSkip ruleSet).result = x.result.orNothing := by
  obtain ⟨log, asked, result⟩ := x
  cases result with
  | ok a => rfl
  | error f =>
    cases f with
    | rule e => cases e <;> rfl
    | _ => rfl

end Outcome

namespace Compiler

/-! ## Admission -/

/-- The checks that a rule set passes before its rules are read: the head of its group, or nothing
where the rule set is hidden. -/
def opening (scope : Scope) (includeHidden : Bool) (s : DraftRuleSet) : Result (Option GroupHead) :=
  if s.scope ≠ some scope.name then .fail (.scopeMismatch s.scope scope s.id)
  else if !includeHidden && !s.isActive then .ok none
  else do return some (← s.head scope)

theorem result_compileFound (v : Visitor) (nested : Int → Outcome (Option Group)) (hidden : Bool)
    (s : DraftRuleSet) :
    (compileFound v nested hidden s).result = do
      match ← opening v.scope hidden s with
      | none => return none
      | some head => return some ⟨head, ← (compileRules v nested s.id s.rules).result⟩ := by
  unfold compileFound opening
  split
  · rfl
  · split
    · rfl
    · simp only [Outcome.result_bind, Outcome.result_ofResult, Outcome.result_pure]
      cases s.head v.scope <;> rfl

end Compiler

/-! ## Contributions of rules -/

/-- The condition that a rule adds to its group: none where it cannot be read. -/
def Visitor.condition (v : Visitor) (r : DraftRule) : Result (Option Expr) :=
  Result.orNothing (do return some (.leaf (← (v.visitRule r).result)))

/-- A failure that costs the rule it concerns its place in the group, and nothing more. -/
def Failure.isLocal : Failure → Bool
  | .rule (.invalidRuleSet ..) => true
  | .rule (.conversion ..) => true
  | _ => false

namespace Compiler

/-- What a reference adds to its group when the rule set that it refers to has been compiled. -/
def placed (rule : Option Int) : Result (Option Group) → Result (Option Expr)
  | .ok none => .ok none
  | .ok (some g) => .ok (some (.group { g.head with refRuleId := rule } g.parts))
  | .error f => if f.isLocal then .ok none else .error f

/-- What a rule adds to its group; `nested` answers for the rule sets that it may refer to. -/
def contribution (v : Visitor) (nested : Int → Result (Option Group)) (r : DraftRule) :
    Result (Option Expr) :=
  if r.isReference then
    match r.reference? with
    | none => .ok none
    | some id => placed r.id (nested id)
  else v.condition r

/-- The parts that rules add to their group, in order. -/
def groupParts (v : Visitor) (nested : Int → Result (Option Group)) :
    List DraftRule → Result (List Expr)
  | [] => .ok []
  | r :: rest => do
    let e ← contribution v nested r
    let more ← groupParts v nested rest
    return e.toList ++ more

/-- A rule that is skipped adds nothing, whatever the rule set that the log entry is about. -/
theorem result_orSkip_compileRule (v : Visitor) (nested : Int → Outcome (Option Group))
    (ruleSet : Option Int) (r : DraftRule) :
    ((compileRule v nested r).orSkip ruleSet).result =
      contribution v (fun id => (nested id).result) r := by
  unfold compileRule contribution
  split
  · -- an invalid rule set is first seen as a rule that cannot be converted, and then skipped
    cases r.reference? with
    | none => rfl
    | some id =>
      simp only [Outcome.result_orSkip, Outcome.result_bind, Outcome.result_mapFailure,
        Outcome.result_pure]
      cases (nested id).result with
      | ok group => cases group <;> rfl
      | error f =>
        cases f with
        | rule e => cases e <;> rfl
        | _ => rfl
  · -- a condition that cannot be converted is skipped as it is
    simp only [Outcome.result_orSkip, Outcome.result_bind, Outcome.result_pure, Visitor.condition]
    cases (v.visitRule r).result with
    | ok c => rfl
    | error f =>
      cases f with
      | rule e => cases e <;> rfl
      | _ => rfl

theorem result_compileRules (v : Visitor) (nested : Int → Outcome (Option Group))
    (ruleSet : Option Int) (rules : List DraftRule) :
    (compileRules v nested ruleSet rules).result =
      groupParts v (fun id => (nested id).result) rules := by
  induction rules with
  | nil => rfl
  | cons r rest ih =>
    simp only [compileRules, groupParts, Outcome.result_bind, Outcome.result_pure,
      result_orSkip_compileRule, ih]
    rfl

/-! ## Entering a rule set -/

/-- The checks that a number passes before the rules of its rule set are read, below a path and with
so many nestings left: the rule set and the head of its group, or nothing where there is none. -/
def entry (c : Compiler) (left : Nat) (path : List Int) (includeHidden : Bool) (id : Int) :
    Result (Option (RuleSet × GroupHead)) :=
  if id ≤ 0 then .ok none
  else if path.contains id then .fail (.cycle id path)
  else do
    match ← c.store.findRuleSet id with
    | none => return none
    | some s =>
      if left = 0 then .fail (.depthExceeded s.id c.maxDepth)
      else do return (← opening c.visitor.scope includeHidden s.toDraft).map fun head => (s, head)

/-- What compilation below a path answers. -/
def resultBelow (c : Compiler) (left : Nat) (path : List Int) (includeHidden : Bool) (id : Int) :
    Result (Option Group) :=
  (c.compileBelow left path includeHidden id).result

theorem result_withRuleSet (store : Store) (path : List Int) (id : Int)
    (go : RuleSet → Outcome (Option Group)) :
    (withRuleSet store path id go).result =
      (if id ≤ 0 then .ok none
      else if path.contains id then .fail (.cycle id path)
      else do
        match ← store.findRuleSet id with
        | none => return none
        | some s => (go s).result) := by
  unfold withRuleSet
  split
  · rfl
  · split
    · rfl
    · simp only [Outcome.result_bind, Outcome.result_ofResult]
      cases store.findRuleSet id with
      | error f => rfl
      | ok found => cases found <;> rfl

/-- Compilation below a path: the checks on the number, then the rules of the rule set, with one
nesting less left below a path that is one longer. -/
theorem resultBelow_eq (c : Compiler) (left : Nat) (path : List Int) (hidden : Bool) (id : Int) :
    c.resultBelow left path hidden id = do
      match ← c.entry left path hidden id with
      | none => return none
      | some (s, head) =>
        return some ⟨head, ← groupParts c.visitor
          (c.resultBelow (left - 1) (path ++ [s.id]) false) s.toDraft.rules⟩ := by
  cases left with
  | zero =>
    -- no rule set is entered, so neither side reads any rules
    simp only [resultBelow, compileBelow, result_withRuleSet, entry]
    split
    · rfl
    · split
      · rfl
      · cases c.store.findRuleSet id with
        | error f => rfl
        | ok found => cases found <;> rfl
  | succ n =>
    simp only [resultBelow, compileBelow, result_withRuleSet, entry]
    split
    · rfl
    · split
      · rfl
      · cases c.store.findRuleSet id with
        | error f => rfl
        | ok found =>
          cases found with
          | none => rfl
          | some s =>
            -- both sides open the rule set and read its rules below the longer path
            simp only [result_compileFound, result_compileRules, Nat.add_one_ne_zero, if_false]
            show (opening c.visitor.scope hidden s.toDraft >>= _) =
              ((opening c.visitor.scope hidden s.toDraft >>= _) >>= _)
            cases opening c.visitor.scope hidden s.toDraft with
            | error f => rfl
            | ok opened => cases opened <;> rfl

/-! ## What each step can answer -/

variable {c : Compiler} {v : Visitor} {nested : Int → Result (Option Group)}

theorem opening_eq_some_iff {scope : Scope} {hidden : Bool} {s : DraftRuleSet} {head : GroupHead} :
    opening scope hidden s = .ok (some head) ↔
      s.scope = some scope.name ∧ (hidden = true ∨ s.isActive = true) ∧
        s.head scope = .ok head := by
  by_cases hscope : s.scope = some scope.name
  · cases hidden <;> cases hactive : s.isActive <;>
      simp [opening, hscope, hactive, Result.bind_eq_ok_iff, Pure.pure, Except.pure]
  · simp [opening, hscope, Result.fail]

theorem opening_eq_none_iff {scope : Scope} {hidden : Bool} {s : DraftRuleSet} :
    opening scope hidden s = .ok none ↔
      s.scope = some scope.name ∧ hidden = false ∧ s.isActive = false := by
  by_cases hscope : s.scope = some scope.name
  · cases hidden <;> cases hactive : s.isActive <;>
      simp [opening, hscope, hactive, Result.bind_eq_ok_iff, Pure.pure, Except.pure]
  · simp [opening, hscope, Result.fail]

theorem opening_eq_error_iff {scope : Scope} {hidden : Bool} {s : DraftRuleSet} {f : Failure} :
    opening scope hidden s = .error f ↔
      (s.scope ≠ some scope.name ∧ .rule (.scopeMismatch s.scope scope s.id) = f) ∨
        (s.scope = some scope.name ∧ (hidden = true ∨ s.isActive = true) ∧
          s.head scope = .error f) := by
  by_cases hscope : s.scope = some scope.name
  · cases hidden <;> cases hactive : s.isActive <;>
      simp [opening, hscope, hactive, Result.bind_eq_error_iff, Pure.pure, Except.pure]
  · simp [opening, hscope, Result.fail]

/-- The head of a group needs a known connective and a number. -/
theorem head_eq_ok_iff {scope : Scope} {s : DraftRuleSet} {head : GroupHead} :
    s.head scope = .ok head ↔
      ∃ k id, connectiveOf? s.logicalOperator = some k ∧ s.id = some id ∧
        head = headOf scope id k s.isSubgroup := by
  unfold DraftRuleSet.head
  cases connectiveOf? s.logicalOperator with
  | none => simp [Result.fail]
  | some k =>
    cases s.id with
    | none => simp [needId, bind, Except.bind]
    | some id => simp [needId, bind, Except.bind, Pure.pure, Except.pure, eq_comm]

theorem head_eq_error {scope : Scope} {s : DraftRuleSet} {f : Failure}
    (h : s.head scope = .error f) :
    (connectiveOf? s.logicalOperator = none ∧
        f = .rule (.invalidRuleSet s.id (s.logicalOperator.getD ""))) ∨
      s.id = none ∧ ∃ issues, f = .invalid issues := by
  unfold DraftRuleSet.head at h
  cases hk : connectiveOf? s.logicalOperator with
  | none =>
    rw [hk] at h
    cases h
    exact .inl ⟨rfl, rfl⟩
  | some k =>
    rw [hk] at h
    cases hid : s.id with
    | some id => simp [hid, needId, bind, Except.bind, Pure.pure, Except.pure] at h
    | none =>
      rw [hid] at h
      cases h
      exact .inr ⟨rfl, _, rfl⟩

/-- A stored rule set is opened if it is of the scope, may be seen and has a known connective. -/
theorem opening_stored_eq_some_iff {scope : Scope} {hidden : Bool} {s : RuleSet}
    {head : GroupHead} :
    opening scope hidden s.toDraft = .ok (some head) ↔
      s.scope = scope.name ∧ (hidden = true ∨ s.isActive = true) ∧
        ∃ k, connectiveOf? (some s.logicalOperator) = some k ∧
          head = headOf scope s.id k s.isSubgroup := by
  rw [opening_eq_some_iff, head_eq_ok_iff]
  simp [RuleSet.toDraft]

/-- A stored rule set that is refused is of another scope or has an unknown connective. -/
theorem opening_stored_eq_error {scope : Scope} {hidden : Bool} {s : RuleSet} {f : Failure}
    (h : opening scope hidden s.toDraft = .error f) :
    (s.scope ≠ scope.name ∧ f = .rule (.scopeMismatch (some s.scope) scope (some s.id))) ∨
      (s.scope = scope.name ∧ connectiveOf? (some s.logicalOperator) = none ∧
        f = .rule (.invalidRuleSet (some s.id) s.logicalOperator)) := by
  rcases opening_eq_error_iff.1 h with ⟨hscope, rfl⟩ | ⟨hscope, -, hhead⟩
  · exact .inl ⟨by simpa [RuleSet.toDraft] using hscope, rfl⟩
  -- a stored rule set has a number, so only its connective can be at fault
  · have hscope : s.scope = scope.name := by simpa [RuleSet.toDraft] using hscope
    rcases head_eq_error hhead with ⟨hk, rfl⟩ | ⟨hid, -⟩
    · exact .inr ⟨hscope, hk, rfl⟩
    · simp [RuleSet.toDraft] at hid

/-- What the checks on a number can answer, and when. -/
inductive Entry (c : Compiler) (left : Nat) (path : List Int) (hidden : Bool) (id : Int) :
    Result (Option (RuleSet × GroupHead)) → Prop where
  /-- The number names no rule set. -/
  | unnamed (hpos : id ≤ 0) : Entry c left path hidden id (.ok none)
  /-- The rule set is being compiled already. -/
  | cycle (hpos : 0 < id) (hpath : id ∈ path) : Entry c left path hidden id (.fail (.cycle id path))
  | unread {f : Failure} (hpos : 0 < id) (hpath : id ∉ path)
      (hfound : c.store.findRuleSet id = .error f) : Entry c left path hidden id (.error f)
  | missing (hpos : 0 < id) (hpath : id ∉ path) (hfound : c.store.findRuleSet id = .ok none) :
      Entry c left path hidden id (.ok none)
  /-- No nesting is left. -/
  | tooDeep {s : RuleSet} (hpos : 0 < id) (hpath : id ∉ path)
      (hfound : c.store.findRuleSet id = .ok (some s)) (hleft : left = 0) :
      Entry c left path hidden id (.fail (.depthExceeded s.id c.maxDepth))
  | refused {s : RuleSet} {f : Failure} (hpos : 0 < id) (hpath : id ∉ path)
      (hfound : c.store.findRuleSet id = .ok (some s)) (hleft : left ≠ 0)
      (hopen : opening c.visitor.scope hidden s.toDraft = .error f) :
      Entry c left path hidden id (.error f)
  | unseen {s : RuleSet} (hpos : 0 < id) (hpath : id ∉ path)
      (hfound : c.store.findRuleSet id = .ok (some s)) (hleft : left ≠ 0)
      (hopen : opening c.visitor.scope hidden s.toDraft = .ok none) :
      Entry c left path hidden id (.ok none)
  | entered {s : RuleSet} {head : GroupHead} (hpos : 0 < id) (hpath : id ∉ path)
      (hfound : c.store.findRuleSet id = .ok (some s)) (hleft : left ≠ 0)
      (hopen : opening c.visitor.scope hidden s.toDraft = .ok (some head)) :
      Entry c left path hidden id (.ok (some (s, head)))

theorem entry_eq_of_entry {left : Nat} {path : List Int} {hidden : Bool} {id : Int}
    {x : Result (Option (RuleSet × GroupHead))} (h : Entry c left path hidden id x) :
    c.entry left path hidden id = x := by
  cases h with
  | unnamed hpos => simp [entry, hpos]
  | cycle hpos hpath => simp [entry, Int.not_le.mpr hpos, hpath]
  | _ => simp [entry, Int.not_le.mpr, bind, Except.bind, Pure.pure, Except.pure, *]

theorem entry_spec (c : Compiler) (left : Nat) (path : List Int) (hidden : Bool) (id : Int) :
    Entry c left path hidden id (c.entry left path hidden id) := by
  have hsome : ∃ x, Entry c left path hidden id x := by
    -- each check that is passed leads on to the next one
    by_cases hpos : id ≤ 0
    · exact ⟨_, .unnamed hpos⟩
    rw [Int.not_le] at hpos
    by_cases hpath : id ∈ path
    · exact ⟨_, .cycle hpos hpath⟩
    cases hfound : c.store.findRuleSet id with
    | error f => exact ⟨_, .unread hpos hpath hfound⟩
    | ok found =>
      cases found with
      | none => exact ⟨_, .missing hpos hpath hfound⟩
      | some s =>
        by_cases hleft : left = 0
        · exact ⟨_, .tooDeep hpos hpath hfound hleft⟩
        cases hopen : opening c.visitor.scope hidden s.toDraft with
        | error f => exact ⟨_, .refused hpos hpath hfound hleft hopen⟩
        | ok opened =>
          cases opened with
          | none => exact ⟨_, .unseen hpos hpath hfound hleft hopen⟩
          | some head => exact ⟨_, .entered hpos hpath hfound hleft hopen⟩
  obtain ⟨x, hx⟩ := hsome
  rw [entry_eq_of_entry hx]
  exact hx

/-- The checks answer what `Entry` says, and nothing else. -/
theorem entry_eq_iff {left : Nat} {path : List Int} {hidden : Bool} {id : Int}
    {x : Result (Option (RuleSet × GroupHead))} :
    c.entry left path hidden id = x ↔ Entry c left path hidden id x :=
  ⟨fun h => h ▸ entry_spec c left path hidden id, entry_eq_of_entry⟩

theorem ne_zero_of_entry {left : Nat} {path : List Int} {hidden : Bool} {id : Int}
    {entered : RuleSet × GroupHead} (h : c.entry left path hidden id = .ok (some entered)) :
    left ≠ 0 := by
  cases entry_eq_iff.1 h with
  | entered hpos hpath hfound hleft hopen => exact hleft

/-- Induction on the nestings that are left. A rule set is entered only where there are some. -/
@[elab_as_elim]
theorem nesting_induction {motive : Nat → Prop}
    (step : ∀ left, (left ≠ 0 → motive (left - 1)) → motive left) (left : Nat) : motive left := by
  induction left with
  | zero => exact step 0 fun h => absurd rfl h
  | succ n ih => exact step (n + 1) fun _ => ih

section Below

variable {left : Nat} {path : List Int} {hidden : Bool} {id : Int} {g : Group} {f : Failure}

theorem resultBelow_eq_none_iff :
    c.resultBelow left path hidden id = .ok none ↔ c.entry left path hidden id = .ok none := by
  rw [resultBelow_eq, Result.bind_eq_ok_iff]
  constructor
  · rintro ⟨entered, hentry, h⟩
    cases entered with
    | none => exact hentry
    | some entered =>
      -- a rule set that is entered gives a group or a failure
      simp [Result.bind_eq_ok_iff, Pure.pure, Except.pure] at h
  · intro hentry
    exact ⟨none, hentry, rfl⟩

theorem resultBelow_eq_some_iff :
    c.resultBelow left path hidden id = .ok (some g) ↔
      ∃ s, c.entry left path hidden id = .ok (some (s, g.head)) ∧
        groupParts c.visitor (c.resultBelow (left - 1) (path ++ [s.id]) false) s.toDraft.rules =
          .ok g.parts := by
  rw [resultBelow_eq, Result.bind_eq_ok_iff]
  constructor
  · rintro ⟨entered, hentry, h⟩
    cases entered with
    | none => simp [Pure.pure, Except.pure] at h
    | some entered =>
      obtain ⟨s, head⟩ := entered
      obtain ⟨parts, hparts, h⟩ := Result.bind_eq_ok_iff.1 h
      cases h
      exact ⟨s, hentry, hparts⟩
  · rintro ⟨s, hentry, hparts⟩
    exact ⟨_, hentry, Result.bind_eq_ok_iff.2 ⟨_, hparts, rfl⟩⟩

theorem resultBelow_eq_error_iff :
    c.resultBelow left path hidden id = .error f ↔
      c.entry left path hidden id = .error f ∨
        ∃ s head, c.entry left path hidden id = .ok (some (s, head)) ∧
          groupParts c.visitor (c.resultBelow (left - 1) (path ++ [s.id]) false)
            s.toDraft.rules = .error f := by
  rw [resultBelow_eq, Result.bind_eq_error_iff]
  -- the failures of the checks are the same on both sides
  refine or_congr_right ⟨?_, ?_⟩
  · rintro ⟨entered, hentry, h⟩
    cases entered with
    | none => simp [Pure.pure, Except.pure] at h
    | some entered =>
      obtain ⟨s, head⟩ := entered
      rcases Result.bind_eq_error_iff.1 h with h | ⟨parts, -, h⟩
      · exact ⟨s, head, hentry, h⟩
      · simp [Pure.pure, Except.pure] at h
  · rintro ⟨s, head, hentry, h⟩
    exact ⟨_, hentry, Result.bind_eq_error_iff.2 (.inl h)⟩

end Below

/-! ## Parts of a group -/

section Parts

variable {r : DraftRule} {rules rest : List DraftRule} {parts : List Expr} {f : Failure}

theorem contribution_of_reference {id : Int} (href : r.isReference = true)
    (hid : r.reference? = some id) : contribution v nested r = placed r.id (nested id) := by
  simp [contribution, href, hid]

theorem contribution_of_condition (href : r.isReference = false) :
    contribution v nested r = v.condition r := by
  simp [contribution, href]

@[simp] theorem placed_group (rule : Option Int) (g : Group) :
    placed rule (.ok (some g)) =
      .ok (some (.group { g.head with refRuleId := rule } g.parts)) := rfl

theorem placed_error {rule : Option Int} (hf : f.isLocal = false) :
    placed rule (.error f) = .error f := by
  simp [placed, hf]

theorem placed_local {rule : Option Int} (hf : f.isLocal = true) :
    placed rule (.error f) = .ok none := by
  simp [placed, hf]

/-- A reference fails only as its rule set does, and never with a failure of that one alone. -/
theorem placed_eq_error_iff {rule : Option Int} {x : Result (Option Group)} :
    placed rule x = .error f ↔ x = .error f ∧ f.isLocal = false := by
  cases x with
  | ok found => cases found <;> simp [placed]
  | error f' =>
    cases hf' : f'.isLocal with
    | true =>
      rw [placed_local hf']
      constructor
      · intro h
        cases h
      · rintro ⟨h, hf⟩
        cases h
        rw [hf'] at hf
        cases hf
    | false =>
      simp only [placed_error hf', Except.error.injEq]
      constructor
      · rintro rfl
        exact ⟨rfl, hf'⟩
      · rintro ⟨rfl, -⟩
        rfl

theorem groupParts_cons_eq_ok_iff :
    groupParts v nested (r :: rest) = .ok parts ↔
      ∃ e more, contribution v nested r = .ok e ∧ groupParts v nested rest = .ok more ∧
        parts = e.toList ++ more := by
  simp only [groupParts, Result.bind_eq_ok_iff]
  constructor
  · rintro ⟨e, he, more, hmore, h⟩
    cases h
    exact ⟨e, more, he, hmore, rfl⟩
  · rintro ⟨e, more, he, hmore, rfl⟩
    exact ⟨e, he, more, hmore, rfl⟩

/-- A rule that adds nothing may as well not be there. -/
theorem groupParts_of_nothing (h : contribution v nested r = .ok none) :
    groupParts v nested (r :: rest) = groupParts v nested rest := by
  have hcons : groupParts v nested (r :: rest) =
      (groupParts v nested rest >>= fun more => .ok more) := by
    rw [groupParts, h]
    rfl
  rw [hcons]
  cases groupParts v nested rest <;> rfl

/-- Where the parts are made, every rule makes its contribution. -/
theorem exists_contribution_of_groupParts (h : groupParts v nested rules = .ok parts)
    (hr : r ∈ rules) : ∃ e, contribution v nested r = .ok e := by
  induction rules generalizing parts with
  | nil => simp at hr
  | cons r' rest ih =>
    obtain ⟨e, more, he, hmore, -⟩ := groupParts_cons_eq_ok_iff.1 h
    rcases List.mem_cons.1 hr with rfl | hr
    · exact ⟨e, he⟩
    · exact ih hmore hr

/-- Every part is the contribution of some rule. -/
theorem exists_rule_of_mem_parts {e : Expr} (h : groupParts v nested rules = .ok parts)
    (he : e ∈ parts) : ∃ r ∈ rules, contribution v nested r = .ok (some e) := by
  induction rules generalizing parts with
  | nil =>
    cases h
    simp at he
  | cons r' rest ih =>
    obtain ⟨e', more, he', hmore, rfl⟩ := groupParts_cons_eq_ok_iff.1 h
    rcases List.mem_append.1 he with he | he
    · -- the part is what the first rule adds
      rw [Option.mem_toList] at he
      exact ⟨r', List.mem_cons_self, by rw [he', he]⟩
    · obtain ⟨r, hr, hcontribution⟩ := ih hmore he
      exact ⟨r, List.mem_cons_of_mem _ hr, hcontribution⟩

/-- Where the parts cannot be made, some rule is to blame. -/
theorem exists_rule_of_groupParts_error (h : groupParts v nested rules = .error f) :
    ∃ r ∈ rules, contribution v nested r = .error f := by
  induction rules with
  | nil => cases h
  | cons r' rest ih =>
    rcases Result.bind_eq_error_iff.1 h with h | ⟨e, -, h⟩
    · exact ⟨r', List.mem_cons_self, h⟩
    rcases Result.bind_eq_error_iff.1 h with h | ⟨more, -, h⟩
    · obtain ⟨r, hr, hcontribution⟩ := ih h
      exact ⟨r, List.mem_cons_of_mem _ hr, hcontribution⟩
    · cases h

end Parts

/-! ## References -/

end Compiler

/-- Some rule of the rule set refers to a number. -/
def DraftRuleSet.RefersTo (s : DraftRuleSet) (id : Int) : Prop :=
  ∃ r ∈ s.rules, r.isReference = true ∧ r.reference? = some id

/-- Some rule of a stored rule set refers to a number: its type is that of references, and its value
reads as the number. -/
def RuleSet.RefersTo (s : RuleSet) (id : Int) : Prop :=
  ∃ r ∈ s.rules, r.isReference = true ∧ Number.readInt? (r.value.getD "") = some id

/-- Every number that a stored rule refers to fits the store. -/
def Store.ReferencesFit (st : Store) : Prop :=
  ∀ s ∈ st.ruleSets, ∀ id, s.RefersTo id → Checked.fitsWord id = true

instance (st : Store) : Decidable st.ReferencesFit :=
  decidable_of_iff
    (∀ s ∈ st.ruleSets, ∀ r ∈ s.rules, r.isReference = true →
      (Number.readInt? (r.value.getD "")).all Checked.fitsWord = true) <| by
    simp only [Store.ReferencesFit, RuleSet.RefersTo, Option.all_eq_true]
    exact ⟨fun h s hs id ⟨r, hr, href, hid⟩ => h s hs r hr href id hid,
      fun h s hs r hr href id hid => h s hs id ⟨r, hr, href, hid⟩⟩

theorem RuleSet.mem_orderedRules {s : RuleSet} {r : Rule} : r ∈ s.orderedRules ↔ r ∈ s.rules :=
  List.mem_mergeSort

theorem RuleSet.mem_toDraft_rules {s : RuleSet} {r : DraftRule} :
    r ∈ s.toDraft.rules ↔ ∃ stored ∈ s.rules, stored.toDraft = r := by
  simp [toDraft, RuleSet.mem_orderedRules]

theorem RuleSet.refersTo_toDraft {s : RuleSet} {id : Int} :
    s.toDraft.RefersTo id ↔ s.RefersTo id := by
  constructor
  · rintro ⟨r, hr, href, hid⟩
    obtain ⟨stored, hstored, rfl⟩ := RuleSet.mem_toDraft_rules.1 hr
    exact ⟨stored, hstored, stored.isReference_toDraft ▸ href, hid⟩
  · rintro ⟨r, hr, href, hid⟩
    exact ⟨r.toDraft, RuleSet.mem_toDraft_rules.2 ⟨r, hr, rfl⟩, r.isReference_toDraft ▸ href, hid⟩

theorem Store.findRuleSet_eq_ok_iff {st : Store} {id : Int} {found : Option RuleSet} :
    st.findRuleSet id = .ok found ↔
      Checked.fitsWord id = true ∧ st.ruleSets.find? (fun r => r.id = id) = found := by
  unfold findRuleSet rowOf?
  split <;> simp_all

theorem Store.id_of_findRuleSet {st : Store} {id : Int} {s : RuleSet}
    (h : st.findRuleSet id = .ok (some s)) : s.id = id := by
  have hfound := (findRuleSet_eq_ok_iff.1 h).2
  simpa using List.find?_some hfound

theorem Store.mem_of_findRuleSet {st : Store} {id : Int} {s : RuleSet}
    (h : st.findRuleSet id = .ok (some s)) : s ∈ st.ruleSets :=
  List.mem_of_find?_eq_some (findRuleSet_eq_ok_iff.1 h).2

theorem Store.findRuleSet_eq_error {st : Store} {id : Int} {f : Failure}
    (h : st.findRuleSet id = .error f) : Checked.fitsWord id = false ∧ f = .outOfRange := by
  unfold findRuleSet rowOf? at h
  split at h
  · cases h
  · next hfits =>
    cases h
    exact ⟨by simpa using hfits, rfl⟩

namespace Compiler

/-! ## Failures of entering -/

/-- Why the rule set of a number cannot be entered. -/
inductive EntryFailure (c : Compiler) (left : Nat) (path : List Int) (id : Int) : Failure → Prop where
  | cycle (hpath : id ∈ path) : EntryFailure c left path id (.rule (.cycle id path))
  | outOfRange (hfits : Checked.fitsWord id = false) : EntryFailure c left path id .outOfRange
  | tooDeep {s : RuleSet} (hpath : id ∉ path) (hfound : c.store.findRuleSet id = .ok (some s))
      (hleft : left = 0) : EntryFailure c left path id (.rule (.depthExceeded id c.maxDepth))
  | foreign {s : RuleSet} (hpath : id ∉ path) (hfound : c.store.findRuleSet id = .ok (some s))
      (hscope : s.scope ≠ c.visitor.scope.name) :
      EntryFailure c left path id
        (.rule (.scopeMismatch (some s.scope) c.visitor.scope (some id)))
  | unreadable {s : RuleSet} (hpath : id ∉ path) (hfound : c.store.findRuleSet id = .ok (some s))
      (hscope : s.scope = c.visitor.scope.name)
      (hk : connectiveOf? (some s.logicalOperator) = none) :
      EntryFailure c left path id (.rule (.invalidRuleSet (some id) s.logicalOperator))

theorem entryFailure_of_entry {left : Nat} {path : List Int} {hidden : Bool} {id : Int}
    {f : Failure} (h : c.entry left path hidden id = .error f) :
    0 < id ∧ EntryFailure c left path id f := by
  cases entry_eq_iff.1 h with
  | cycle hpos hpath => exact ⟨hpos, .cycle hpath⟩
  | unread hpos hpath hfound =>
    obtain ⟨hfits, rfl⟩ := Store.findRuleSet_eq_error hfound
    exact ⟨hpos, .outOfRange hfits⟩
  | tooDeep hpos hpath hfound hleft =>
    rw [Store.id_of_findRuleSet hfound]
    exact ⟨hpos, .tooDeep hpath hfound hleft⟩
  | refused hpos hpath hfound hleft hopen =>
    rcases opening_stored_eq_error hopen with ⟨hscope, rfl⟩ | ⟨hscope, hk, rfl⟩
    · -- the error names the rule set by its own number, which is the one it was found by
      rw [Store.id_of_findRuleSet hfound]
      exact ⟨hpos, .foreign hpath hfound hscope⟩
    · rw [Store.id_of_findRuleSet hfound]
      exact ⟨hpos, .unreadable hpath hfound hscope hk⟩

section References

variable {s : DraftRuleSet} {id : Int} {f : Failure}

/-- Where the parts of a rule set are made, the sets it refers to fail with local failures only. -/
theorem isLocal_of_groupParts_ok {parts : List Expr} (h : groupParts v nested s.rules = .ok parts)
    (href : s.RefersTo id) (hf : nested id = .error f) : f.isLocal = true := by
  obtain ⟨r, hr, hreference, hid⟩ := href
  obtain ⟨e, he⟩ := exists_contribution_of_groupParts h hr
  rw [contribution_of_reference hreference hid, hf] at he
  -- any other failure would have been that of the rule
  cases hlocal : f.isLocal with
  | true => rfl
  | false =>
    rw [placed_error hlocal] at he
    cases he

/-- Where the parts of a rule set cannot be made, a set that it refers to or a condition of its own
is to blame. -/
theorem blame_of_groupParts_error (h : groupParts v nested s.rules = .error f) :
    (∃ id, s.RefersTo id ∧ nested id = .error f ∧ f.isLocal = false) ∨
      ∃ r ∈ s.rules, v.condition r = .error f := by
  obtain ⟨r, hr, hcontribution⟩ := exists_rule_of_groupParts_error h
  cases href : r.isReference with
  | false =>
    rw [contribution_of_condition href] at hcontribution
    exact .inr ⟨r, hr, hcontribution⟩
  | true =>
    cases hid : r.reference? with
    | none =>
      -- a value that is no number costs the rule its place only
      simp [contribution, href, hid] at hcontribution
    | some id =>
      rw [contribution_of_reference href hid] at hcontribution
      obtain ⟨hnested, hlocal⟩ := placed_eq_error_iff.1 hcontribution
      exact .inl ⟨id, ⟨r, hr, href, hid⟩, hnested, hlocal⟩

end References

/-! ## Roots -/

/-- Compiles a rule set that is given by number or is at hand. -/
def compileRoot (c : Compiler) (includeHidden : Bool) : Root → Outcome (Option Group)
  | .number id => c.compile includeHidden id
  | .entity s => c.compileDraft includeHidden s

theorem result_compile (c : Compiler) (hidden : Bool) (id : Int) :
    (c.compile hidden id).result = c.resultBelow c.maxDepth [] hidden id := rfl

theorem result_compileDraft (c : Compiler) (hidden : Bool) (s : DraftRuleSet) :
    (c.compileDraft hidden s).result = do
      match ← opening c.visitor.scope hidden s with
      | none => return none
      | some head =>
        return some ⟨head, ← groupParts c.visitor
          (c.resultBelow (c.maxDepth - 1) s.id.toList false) s.rules⟩ := by
  unfold compileDraft
  simp only [result_compileFound, result_compileRules]
  rfl

end Compiler

end Rulebook
