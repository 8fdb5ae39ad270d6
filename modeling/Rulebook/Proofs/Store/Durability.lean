import Mathlib
import Rulebook.Proofs.Store.Step

/-!
# What a store keeps

Whatever has been done with a store, it holds the rule sets that have been committed since it was
last emptied, and no others. Opening it and dropping its tables empties it. Both is said of the
steps and their answers alone (`CountsKept`, `InsertsNew`). The invariant (`StoreState.Reflects`)
ties the state of the store to the steps before it.

So a run goes on as if the inserts that failed or were not committed had not been tried
(`StoreState.run_lasting`).
-/

namespace Rulebook

/-! ## Histories -/

/-- The step closes the store. -/
def StoreStep.closes : StoreStep → Bool
  | .closeStore => true
  | _ => false

/-- The step leaves a store without tables. -/
def StoreStep.empties : StoreStep → Bool
  | .openStore => true
  | .dropTables => true
  | _ => false

namespace Done

/-- The rows of the step have been inserted: if it failed, then after that. -/
def inserted (d : Done) : Bool :=
  match d.answer with
  | .ok _ => true
  | .error f => f = .sessionFailed

/-- The rule set that the step has committed. -/
def kept? (d : Done) : Option RuleSet :=
  match d.step with
  | .insert s true _ => if d.inserted then some s else none
  | _ => none

/-- The step is no insert that failed or was not committed. -/
def lasts (d : Done) : Bool :=
  match d.step with
  | .insert _ commit _ => commit && d.inserted
  | _ => true

end Done

/-- What has been done since the last step of a kind. -/
def doneSince (kind : StoreStep → Bool) (history : List Done) : List Done :=
  history.rtakeWhile fun d => !kind d.step

/-- The store has been opened since it was last closed. -/
def IsOpened (history : List Done) : Prop :=
  ∃ d ∈ doneSince StoreStep.closes history, d.step = .openStore

/-- Tables have been made since the store was last without. -/
def HasTables (history : List Done) : Prop :=
  ∃ d ∈ doneSince StoreStep.empties history, d.step = .createTables

/-- The rule sets committed since the store was last without tables. -/
def keptSets (history : List Done) : List RuleSet :=
  (doneSince StoreStep.empties history).filterMap Done.kept?

/-- The tables of the rule sets that are kept. -/
def keptTables (history : List Done) : Tables :=
  ⟨(keptSets history).map RuleSet.id, (keptSets history).flatMap fun s => s.rules.map Rule.id⟩

section Histories

variable {history : List Done} {d : Done}

theorem doneSince_concat (kind : StoreStep → Bool) (history : List Done) (d : Done) :
    doneSince kind (history ++ [d]) =
      if kind d.step then [] else doneSince kind history ++ [d] := by
  rw [doneSince, List.rtakeWhile_concat]
  cases kind d.step <;> rfl

theorem isOpened_concat_iff : IsOpened (history ++ [d]) ↔
    d.step = .openStore ∨ d.step ≠ .closeStore ∧ IsOpened history := by
  unfold IsOpened
  rw [doneSince_concat]
  obtain ⟨step, answer⟩ := d
  cases step <;> simp [StoreStep.closes]

theorem hasTables_concat_iff : HasTables (history ++ [d]) ↔
    d.step = .createTables ∨ d.step.empties = false ∧ HasTables history := by
  unfold HasTables
  rw [doneSince_concat]
  obtain ⟨step, answer⟩ := d
  cases step <;> simp [StoreStep.empties]

theorem keptSets_concat : keptSets (history ++ [d]) =
    if d.step.empties then [] else keptSets history ++ d.kept?.toList := by
  unfold keptSets
  rw [doneSince_concat]
  cases d.step.empties with
  | true => rfl
  | false =>
    rw [if_neg Bool.false_ne_true, if_neg Bool.false_ne_true, List.filterMap_append]
    cases h : d.kept? <;> simp [h]

/-- A rule set that is inserted and committed is kept with those before it. -/
theorem keptTables_concat_of_kept (history : List Done) {s : RuleSet}
    (hstep : d.step.empties = false) (hkept : d.kept? = some s) :
    keptTables (history ++ [d]) = (keptTables history).add s := by
  simp [keptTables, keptSets_concat, hstep, hkept, Tables.add]

/-- A step that neither empties the store nor commits a rule set leaves what is kept. -/
theorem keptTables_concat_of_none (history : List Done) (hstep : d.step.empties = false)
    (hkept : d.kept? = none) :
    keptTables (history ++ [d]) = keptTables history := by
  simp [keptTables, keptSets_concat, hstep, hkept]

theorem Done.not_inserted_of_refusal {f : StepFault} (hf : f.IsRefusal) (s : StoreStep) :
    (Done.mk s (.error f)).inserted = false := by
  rcases hf with rfl | rfl <;> rfl

end Histories

/-! ## What a state says of its history -/

namespace StoreState

/-- What has been done with a store that is now in a state. -/
inductive Reflects (history : List Done) : StoreState → Prop where
  | closed (h : ¬ IsOpened history) : Reflects history closed
  | bare (hopened : IsOpened history) (htables : ¬ HasTables history)
      (hkept : keptTables history = .empty) : Reflects history (opened none)
  | ready (hopened : IsOpened history) (htables : HasTables history)
      (hapart : (keptTables history).ruleSets.Nodup) :
      Reflects history (opened (some (keptTables history)))

variable {history : List Done} {σ σ' : StoreState} {s : StoreStep}
  {a : Except StepFault StepAnswer}

/-- A step that is not about opening, closing, tables or rows to keep leaves what is said of the
history. -/
theorem Reflects.idle (h : Reflects history σ) {d : Done} (hopen : d.step ≠ .openStore)
    (hclose : d.step ≠ .closeStore) (hcreate : d.step ≠ .createTables ∨ HasTables history)
    (hempties : d.step.empties = false) (hkept : d.kept? = none) :
    Reflects (history ++ [d]) σ := by
  have hopened : IsOpened (history ++ [d]) ↔ IsOpened history := by
    simp [isOpened_concat_iff, hopen, hclose]
  have htables : HasTables (history ++ [d]) ↔ HasTables history := by
    rw [hasTables_concat_iff, hempties]
    rcases hcreate with hcreate | hhas
    · simp [hcreate]
    · simp [hhas]
  have hsame := keptTables_concat_of_none history hempties hkept
  cases h with
  | closed h => exact .closed (mt hopened.1 h)
  | bare h h' hnone => exact .bare (hopened.2 h) (mt htables.1 h') (hsame.trans hnone)
  | ready h h' hapart =>
    rw [← hsame] at hapart ⊢
    exact .ready (hopened.2 h) (htables.2 h') hapart

theorem Reflects.step (h : Reflects history σ) (hs : Step σ s σ' a) :
    Reflects (history ++ [⟨s, a⟩]) σ' := by
  cases hs with
  | opens =>
    refine .bare (isOpened_concat_iff.2 (.inl rfl)) ?_ ?_
    · simp [hasTables_concat_iff, StoreStep.empties]
    · simp [keptTables, keptSets_concat, StoreStep.empties, Tables.empty]
  | closes =>
    -- what the history says of tables stays, but nothing can be asked before the next opening
    exact .closed (by simp [isOpened_concat_iff])
  | notOpen hopen hclose =>
    cases h with
    | closed h => exact .closed (by simp [isOpened_concat_iff, hopen, hclose, h])
  | drops =>
    have hopened : IsOpened history := by cases h <;> assumption
    refine .bare (isOpened_concat_iff.2 (.inr ⟨nofun, hopened⟩)) ?_ ?_
    · simp [hasTables_concat_iff, StoreStep.empties]
    · simp [keptTables, keptSets_concat, StoreStep.empties, Tables.empty]
  | creates =>
    cases h with
    | bare hopened htables hkept =>
      -- the new tables have no rows, and none are to be kept
      have hsame := (keptTables_concat_of_none history
        (d := ⟨.createTables, .ok .done⟩) rfl rfl).trans hkept
      have hready : Reflects (history ++ [⟨.createTables, .ok .done⟩]) _ :=
        .ready (isOpened_concat_iff.2 (.inr ⟨nofun, hopened⟩)) (hasTables_concat_iff.2 (.inl rfl))
          (by rw [hsame]; exact .nil)
      rwa [hsame] at hready
    | ready hopened htables hapart =>
      exact (Reflects.ready hopened htables hapart).idle nofun nofun (.inr htables) rfl rfl
  | @insertsNowhere s commit fails =>
    exact h.idle nofun nofun (.inl nofun) rfl (by cases commit <;> rfl)
  | @inserts t s commit fails haccepts =>
    cases h with
    | ready hopened htables hapart =>
      cases commit with
      | false => exact (Reflects.ready hopened htables hapart).idle nofun nofun (.inl nofun) rfl rfl
      | true =>
        have hadded := keptTables_concat_of_kept history
          (d := ⟨.insert s true fails, if fails then .error .sessionFailed else .ok .done⟩)
          (s := s) rfl (by cases fails <;> rfl)
        -- the session may fail after it has committed: the rule set is kept in both cases
        rw [if_pos rfl, ← hadded]
        refine .ready (isOpened_concat_iff.2 (.inr ⟨nofun, hopened⟩))
          (hasTables_concat_iff.2 (.inr ⟨rfl, htables⟩)) ?_
        rw [hadded, Tables.add]
        exact List.nodup_append.2 ⟨hapart, List.nodup_singleton _, fun id hid id' hid' heq =>
          haccepts.new (List.mem_singleton.1 hid' ▸ heq ▸ hid)⟩
  | @refuses t s commit fails f hrefused hf =>
    refine h.idle nofun nofun (.inl nofun) rfl ?_
    cases commit with
    | false => rfl
    | true => simp [Done.kept?, Done.not_inserted_of_refusal hf]
  | countsNothing => exact h.idle nofun nofun (.inl nofun) rfl rfl
  | counts => exact h.idle nofun nofun (.inl nofun) rfl rfl

/-- The state after a run reflects the run, whatever its steps. -/
theorem reflects_after (steps : List StoreStep) :
    Reflects (closed.run steps) (closed.after steps) := by
  induction steps using List.reverseRecOn with
  | nil => exact .closed (by simp [IsOpened, doneSince, run])
  | append_singleton steps s ih =>
    rw [run_append, after_concat]
    exact ih.step (step_spec _ s)

/-- Every step of a run is done in a state that reflects the steps before it. -/
theorem exists_step_of_run {steps : List StoreStep} {later : List Done} {d : Done}
    (h : closed.run steps = history ++ d :: later) :
    ∃ σ σ', Reflects history σ ∧ Step σ d.step σ' d.answer := by
  obtain ⟨hhistory, hanswer⟩ := run_eq_append_cons h
  have hreflects := reflects_after (history.map Done.step)
  rw [← hhistory] at hreflects
  exact ⟨_, _, hreflects, hanswer ▸ step_spec _ d.step⟩

end StoreState

/-! ## Answers -/

/-- How a step that works with tables is answered if there are none. -/
structure NeedsTables (history : List Done) (answer : Except StepFault StepAnswer) : Prop where
  notOpen : answer = .error .notOpen ↔ ¬ IsOpened history
  noTables : answer = .error .noTables ↔ IsOpened history ∧ ¬ HasTables history

/-- The answer of a count: as many as there are different numbers among the rule sets kept. -/
structure CountsKept (history : List Done) (answer : Except StepFault StepAnswer) : Prop
    extends NeedsTables history answer where
  counted : IsOpened history → HasTables history →
    answer = .ok (.counted ((keptSets history).map RuleSet.id).toFinset.card)

/-- The answer of an insert: it succeeds if the rule set fits in with those kept, and then the
session fails or not. -/
structure InsertsNew (history : List Done) (s : RuleSet) (fails : Bool)
    (answer : Except StepFault StepAnswer) : Prop extends NeedsTables history answer where
  inserted : IsOpened history → HasTables history → (keptTables history).Accepts s →
    answer = if fails then .error .sessionFailed else .ok .done
  refused : IsOpened history → HasTables history → ¬ (keptTables history).Accepts s →
    answer = .error .outOfRange ∨ answer = .error .duplicate

section Answers

variable {history : List Done} {answer : Except StepFault StepAnswer}

theorem needsTables_of_closed (h : ¬ IsOpened history) : NeedsTables history (.error .notOpen) :=
  ⟨by simp [h], by simp [h]⟩

theorem needsTables_of_bare (hopened : IsOpened history) (htables : ¬ HasTables history) :
    NeedsTables history (.error .noTables) :=
  ⟨by simp [hopened], by simp [hopened, htables]⟩

theorem needsTables_of_ready (hopened : IsOpened history) (htables : HasTables history)
    (hopen : answer ≠ .error .notOpen) (hmade : answer ≠ .error .noTables) :
    NeedsTables history answer :=
  ⟨by simp [hopen, hopened], by simp [hmade, htables]⟩

end Answers

namespace StoreState

variable {history : List Done} {σ σ' : StoreState} {s : RuleSet} {commit fails : Bool}
  {a : Except StepFault StepAnswer}

theorem Reflects.countsKept (h : Reflects history σ) (hs : Step σ .count σ' a) :
    CountsKept history a := by
  cases hs with
  | notOpen _ _ =>
    cases h with
    | closed h => exact ⟨needsTables_of_closed h, fun hopened => absurd hopened h⟩
  | countsNothing =>
    cases h with
    | bare hopened htables hkept =>
      exact ⟨needsTables_of_bare hopened htables, fun _ hhas => absurd hhas htables⟩
  | counts =>
    cases h with
    | ready hopened htables hapart =>
      refine ⟨needsTables_of_ready hopened htables nofun nofun, fun _ _ => ?_⟩
      -- no two of the rule sets kept have the same number
      have hcard : ((keptSets history).map RuleSet.id).toFinset.card = _ :=
        List.toFinset_card_of_nodup hapart
      rw [hcard]
      rfl

theorem Reflects.insertsNew (h : Reflects history σ) (hs : Step σ (.insert s commit fails) σ' a) :
    InsertsNew history s fails a := by
  cases hs with
  | notOpen _ _ =>
    cases h with
    | closed h =>
      exact ⟨needsTables_of_closed h, fun hopened => absurd hopened h,
        fun hopened => absurd hopened h⟩
  | insertsNowhere =>
    cases h with
    | bare hopened htables hkept =>
      exact ⟨needsTables_of_bare hopened htables, fun _ hhas => absurd hhas htables,
        fun _ hhas => absurd hhas htables⟩
  | inserts haccepts =>
    cases h with
    | ready hopened htables hapart =>
      refine ⟨needsTables_of_ready hopened htables ?_ ?_, fun _ _ _ => rfl,
        fun _ _ hrefused => absurd haccepts hrefused⟩
      · cases fails <;> exact nofun
      · cases fails <;> exact nofun
  | refuses hrefused hf =>
    cases h with
    | ready hopened htables hapart =>
      refine ⟨needsTables_of_ready hopened htables ?_ ?_,
        fun _ _ haccepts => absurd haccepts hrefused, fun _ _ _ => ?_⟩
      · rcases hf with rfl | rfl <;> exact nofun
      · rcases hf with rfl | rfl <;> exact nofun
      · exact hf.imp (congrArg Except.error) (congrArg Except.error)

/-! ## Steps without effect -/

/-- An insert that fails or is not committed leaves the store as it was. -/
theorem step_of_not_lasts (σ : StoreState) (s : StoreStep)
    (h : (Done.mk s (σ.step s).2).lasts = false) : (σ.step s).1 = σ := by
  have hspec := step_spec σ s
  generalize (σ.step s).1 = σ', (σ.step s).2 = a at hspec h
  cases hspec with
  | opens => cases h
  | closes => cases h
  | notOpen hopen hclose => rfl
  | creates => cases h
  | drops => cases h
  | insertsNowhere => rfl
  | @inserts t s commit fails haccepts =>
    -- what has been inserted stays only if it is committed
    cases commit with
    | false => rfl
    | true => cases fails <;> cases h
  | refuses hrefused hf => rfl
  | countsNothing => rfl
  | counts => rfl

/-- The steps that have an effect, done alone, are answered as they were. -/
theorem run_lasting (σ : StoreState) (steps : List StoreStep) :
    σ.run (((σ.run steps).filter Done.lasts).map Done.step) = (σ.run steps).filter Done.lasts := by
  induction steps generalizing σ with
  | nil => rfl
  | cons s rest ih =>
    cases hlasts : (Done.mk s (σ.step s).2).lasts with
    | true =>
      rw [run, List.filter_cons_of_pos hlasts, List.map_cons, run]
      exact congrArg (List.cons _) (ih (σ.step s).1)
    | false =>
      have hsame := ih (σ.step s).1
      rw [run, List.filter_cons_of_neg (by simp [hlasts])]
      rwa [step_of_not_lasts σ s hlasts] at hsame ⊢

end StoreState

/-- What a store keeps of the steps that are done with it, from when it has not been opened. -/
structure KeepsCommitted (steps : List StoreStep) : Prop where
  /-- Every step is answered, and in its place. -/
  answered : (StoreState.closed.run steps).map Done.step = steps
  /-- Every count counts what has been committed before it. -/
  counts : ∀ history answer later,
    StoreState.closed.run steps = history ++ ⟨.count, answer⟩ :: later → CountsKept history answer
  /-- Every insert finds what has been committed before it. -/
  inserts : ∀ history s commit fails answer later,
    StoreState.closed.run steps = history ++ ⟨.insert s commit fails, answer⟩ :: later →
      InsertsNew history s fails answer
  /-- Without the inserts that failed or were not committed, the other steps are answered alike. -/
  lasting : StoreState.closed.run
      (((StoreState.closed.run steps).filter Done.lasts).map Done.step) =
    (StoreState.closed.run steps).filter Done.lasts

/-- A store keeps what is committed until it is emptied, and nothing else: in every run, and
whatever fails in it. -/
theorem store_keeps_committed (steps : List StoreStep) : KeepsCommitted steps where
  answered := StoreState.map_step_run .closed steps
  counts history answer later h := by
    obtain ⟨σ, σ', hreflects, hstep⟩ := StoreState.exists_step_of_run h
    exact hreflects.countsKept hstep
  inserts history s commit fails answer later h := by
    obtain ⟨σ, σ', hreflects, hstep⟩ := StoreState.exists_step_of_run h
    exact hreflects.insertsNew hstep
  lasting := StoreState.run_lasting .closed steps

/-- A rule set of a number, with rules of the given numbers. -/
def numberedSet (id : Int) (rules : List Int) : RuleSet :=
  ⟨id, none, "cart", "and", true, false, rules.map fun r => ⟨r, "colour", "eq", some "red", 0⟩⟩

/-- The third rule set is refused for its last rule, after its own row and another rule have been
inserted. Nothing of it is left, so it can be stored without that rule, and it stays although the
session fails in the end. -/
example : (StoreState.closed.run [.openStore, .createTables,
      .insert (numberedSet 1 [10]) true false, .insert (numberedSet 2 [20]) false false,
      .insert (numberedSet 3 [30, 10]) true false, .insert (numberedSet 3 [30]) true true,
      .count, .dropTables, .count]).map Done.answer =
    [.ok .done, .ok .done, .ok .done, .ok .done, .error .duplicate, .error .sessionFailed,
      .ok (.counted 2), .ok .done, .error .noTables] := rfl

end Rulebook
