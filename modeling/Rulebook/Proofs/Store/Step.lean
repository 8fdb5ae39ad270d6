import Mathlib
import Rulebook.Store.Lifecycle

/-!
# Steps in the life of a store

What one step does to a store (`StoreState.Step`), and how a run of steps is told apart into the
steps before one of them and those after it.

A session works in a transaction, in which rows may stand that are never committed, be it that a
further row is refused, that the session fails, or that nobody commits it. Nothing of them is left
after the session (`StoreState.inSession_eq`).
-/

namespace Rulebook

open Rulebook.Checked (fitsWord)

/-! ## Rows -/

/-- A row has been refused for its numbers. -/
def StepFault.IsRefusal (f : StepFault) : Prop := f = .outOfRange ∨ f = .duplicate

namespace Tables

/-- The rows of rules can be inserted after those of the given numbers. -/
structure AcceptsRules (stored : List Int) (rules : List Rule) : Prop where
  fits : ∀ r ∈ rules, fitsWord r.id = true ∧ fitsWord r.displayOrder = true
  new : ∀ r ∈ rules, r.id ∉ stored
  apart : (rules.map Rule.id).Nodup

/-- The tables take a rule set: its number and those of its rules are new, and all numbers fit. -/
structure Accepts (t : Tables) (s : RuleSet) : Prop where
  fits : fitsWord s.id = true
  new : s.id ∉ t.ruleSets
  rules : AcceptsRules t.rules s.rules

/-- The tables with a rule set. -/
def add (t : Tables) (s : RuleSet) : Tables :=
  ⟨t.ruleSets ++ [s.id], t.rules ++ s.rules.map Rule.id⟩

variable {id : Int} {further table rows : List Int} {rules : List Rule} {r : Rule} {f : StepFault}

theorem insertRow_eq_ok_iff : insertRow id further table = .ok rows ↔
    (id :: further).all fitsWord = true ∧ id ∉ table ∧ rows = table ++ [id] := by
  unfold insertRow
  cases (id :: further).all fitsWord with
  | false => simp
  | true =>
    by_cases hmem : id ∈ table
    · simp [hmem]
    · simp [hmem, eq_comm]

theorem isRefusal_of_insertRow (h : insertRow id further table = .error f) : f.IsRefusal := by
  unfold insertRow at h
  split at h
  · cases h
    exact .inl rfl
  · split at h
    · cases h
      exact .inr rfl
    · cases h

theorem acceptsRules_nil (stored : List Int) : AcceptsRules stored [] := ⟨nofun, nofun, .nil⟩

/-- The rows after the first one find its number among those stored. -/
theorem acceptsRules_cons_iff {stored : List Int} : AcceptsRules stored (r :: rules) ↔
    (fitsWord r.id = true ∧ fitsWord r.displayOrder = true) ∧ r.id ∉ stored ∧
      AcceptsRules (stored ++ [r.id]) rules := by
  constructor
  · rintro ⟨hfits, hnew, hapart⟩
    rw [List.map_cons, List.nodup_cons] at hapart
    refine ⟨hfits r List.mem_cons_self, hnew r List.mem_cons_self,
      fun r' hr' => hfits r' (List.mem_cons_of_mem r hr'), fun r' hr' hmem => ?_, hapart.2⟩
    rcases List.mem_append.1 hmem with hmem | hmem
    · exact hnew r' (List.mem_cons_of_mem r hr') hmem
    · exact hapart.1 (List.mem_singleton.1 hmem ▸ List.mem_map_of_mem hr')
  · rintro ⟨hfits, hnew, hrest⟩
    refine ⟨List.forall_mem_cons.2 ⟨hfits, hrest.fits⟩, List.forall_mem_cons.2 ⟨hnew, ?_⟩, ?_⟩
    · exact fun r' hr' hmem => hrest.new r' hr' (List.mem_append_left _ hmem)
    · rw [List.map_cons, List.nodup_cons]
      refine ⟨fun hmem => ?_, hrest.apart⟩
      obtain ⟨r', hr', hid⟩ := List.mem_map.1 hmem
      exact hrest.new r' hr' (List.mem_append_right _ (List.mem_singleton.2 hid))

theorem insertRules_of_accepts {t : Tables} (h : AcceptsRules t.rules rules) :
    insertRules rules t = (.ok (), { t with rules := t.rules ++ rules.map Rule.id }) := by
  induction rules generalizing t with
  | nil => simp [insertRules]
  | cons r rest ih =>
    obtain ⟨hfits, hnew, hrest⟩ := acceptsRules_cons_iff.1 h
    have hrow : insertRow r.id [r.displayOrder] t.rules = .ok (t.rules ++ [r.id]) :=
      insertRow_eq_ok_iff.2 ⟨by simp [hfits], hnew, rfl⟩
    rw [insertRules, hrow]
    exact (ih (t := ⟨t.ruleSets, t.rules ++ [r.id]⟩) hrest).trans (by simp)

theorem exists_refusal_of_insertRules {t : Tables} (h : ¬ AcceptsRules t.rules rules) :
    ∃ f, (insertRules rules t).1 = .error f ∧ f.IsRefusal := by
  induction rules generalizing t with
  | nil => exact absurd (acceptsRules_nil _) h
  | cons r rest ih =>
    rw [insertRules]
    cases hrow : insertRow r.id [r.displayOrder] t.rules with
    | error f => exact ⟨f, rfl, isRefusal_of_insertRow hrow⟩
    | ok rows =>
      -- the first row is in the table, so one of the others is refused
      obtain ⟨hfits, hnew, rfl⟩ := insertRow_eq_ok_iff.1 hrow
      refine ih (t := ⟨t.ruleSets, t.rules ++ [r.id]⟩) fun hrest => h ?_
      exact acceptsRules_cons_iff.2 ⟨by simpa using hfits, hnew, hrest⟩

theorem insertRuleSet_of_accepts {t : Tables} {s : RuleSet} (h : t.Accepts s) :
    insertRuleSet s t = (.ok (), t.add s) := by
  have hrow : insertRow s.id [] t.ruleSets = .ok (t.ruleSets ++ [s.id]) :=
    insertRow_eq_ok_iff.2 ⟨by simp [h.fits], h.new, rfl⟩
  rw [insertRuleSet, hrow]
  exact insertRules_of_accepts (t := ⟨t.ruleSets ++ [s.id], t.rules⟩) h.rules

theorem exists_refusal_of_insertRuleSet {t : Tables} {s : RuleSet} (h : ¬ t.Accepts s) :
    ∃ f, (insertRuleSet s t).1 = .error f ∧ f.IsRefusal := by
  rw [insertRuleSet]
  cases hrow : insertRow s.id [] t.ruleSets with
  | error f => exact ⟨f, rfl, isRefusal_of_insertRow hrow⟩
  | ok rows =>
    obtain ⟨hfits, hnew, rfl⟩ := insertRow_eq_ok_iff.1 hrow
    refine exists_refusal_of_insertRules (t := ⟨t.ruleSets ++ [s.id], t.rules⟩) fun hrules => h ?_
    exact ⟨by simpa using hfits, hnew, hrules⟩

end Tables

/-! ## Sessions -/

namespace Transaction

variable {s : RuleSet} {t : Transaction} {f : StepFault}

@[simp] theorem committed_begin (tables : Option Tables) : (begin tables).committed = tables := rfl

@[simp] theorem committed_rollback (t : Transaction) : t.rollback.committed = t.committed := rfl

@[simp] theorem close_eq (t : Transaction) : t.close = t.committed := rfl

/-- Inserting alone keeps nothing, also where some of the rows are in the tables by then. -/
theorem committed_insert (s : RuleSet) (t : Transaction) :
    (t.insert s).2.committed = t.committed := by
  unfold insert
  cases t.current <;> rfl

theorem store_of_error (commit fails : Bool) (h : (t.insert s).1 = .error f) :
    (t.store s commit fails).1 = .error f ∧
      (t.store s commit fails).2.committed = t.committed := by
  rw [← committed_insert s t]
  unfold store
  generalize t.insert s = went at h ⊢
  obtain ⟨outcome, t'⟩ := went
  cases h
  exact ⟨rfl, rfl⟩

theorem store_of_ok (commit fails : Bool) (h : (t.insert s).1 = .ok ()) :
    (t.store s commit fails).1 = (if fails then .error .sessionFailed else .ok .done) ∧
      (t.store s commit fails).2.committed =
        if commit then (t.insert s).2.current else t.committed := by
  rw [← committed_insert s t]
  unfold store
  generalize t.insert s = went at h ⊢
  obtain ⟨outcome, t'⟩ := went
  cases h
  cases commit <;> exact ⟨rfl, rfl⟩

end Transaction

namespace StoreState

/-- What a session leaves is what it has committed, also if it fails after that. -/
theorem inSession_eq (work : Transaction → Except StepFault StepAnswer × Transaction)
    (tables : Option Tables) :
    inSession work tables = ((work (.begin tables)).1, (work (.begin tables)).2.committed) := by
  unfold inSession
  obtain ⟨outcome, t⟩ := work (.begin tables)
  cases outcome with
  | ok a => simp only [Transaction.close_eq]
  | error f => simp only [Transaction.close_eq, Transaction.committed_rollback]

/-! ## Steps -/

/-- All that a step can do. -/
inductive Step : StoreState → StoreStep → StoreState → Except StepFault StepAnswer → Prop where
  | opens {σ : StoreState} : Step σ .openStore (opened none) (.ok .done)
  | closes {σ : StoreState} : Step σ .closeStore closed (.ok .done)
  | notOpen {s : StoreStep} (hopen : s ≠ .openStore) (hclose : s ≠ .closeStore) :
      Step closed s closed (.error .notOpen)
  | creates {tables : Option Tables} :
      Step (opened tables) .createTables (opened (some (tables.getD .empty))) (.ok .done)
  | drops {tables : Option Tables} : Step (opened tables) .dropTables (opened none) (.ok .done)
  | insertsNowhere {s : RuleSet} {commit fails : Bool} :
      Step (opened none) (.insert s commit fails) (opened none) (.error .noTables)
  /-- A rule set stays if it is committed, whether or not the session fails after that. -/
  | inserts {t : Tables} {s : RuleSet} {commit fails : Bool} (h : t.Accepts s) :
      Step (opened (some t)) (.insert s commit fails)
        (opened (some (if commit then t.add s else t)))
        (if fails then .error .sessionFailed else .ok .done)
  | refuses {t : Tables} {s : RuleSet} {commit fails : Bool} {f : StepFault} (h : ¬ t.Accepts s)
      (hf : f.IsRefusal) :
      Step (opened (some t)) (.insert s commit fails) (opened (some t)) (.error f)
  | countsNothing : Step (opened none) .count (opened none) (.error .noTables)
  | counts {t : Tables} :
      Step (opened (some t)) .count (opened (some t)) (.ok (.counted t.ruleSets.length))

theorem step_insert_spec (t : Tables) (s : RuleSet) (commit fails : Bool) :
    Step (opened (some t)) (.insert s commit fails)
      ((opened (some t)).step (.insert s commit fails)).1
      ((opened (some t)).step (.insert s commit fails)).2 := by
  have hinsert : (Transaction.begin (some t)).insert s =
      ((t.insertRuleSet s).1, ⟨some t, some (t.insertRuleSet s).2⟩) := rfl
  simp only [step, withStore, inSession_eq]
  by_cases h : t.Accepts s
  · rw [Tables.insertRuleSet_of_accepts h] at hinsert
    have hok : ((Transaction.begin (some t)).insert s).1 = .ok () := by rw [hinsert]
    obtain ⟨hanswer, hkept⟩ := Transaction.store_of_ok commit fails hok
    rw [hanswer, hkept, Transaction.committed_begin, hinsert]
    cases commit with
    | false => exact .inserts h
    | true => exact .inserts h
  · obtain ⟨f, hrefused, hf⟩ := Tables.exists_refusal_of_insertRuleSet h
    have herror : ((Transaction.begin (some t)).insert s).1 = .error f := by rw [hinsert, hrefused]
    -- rows that were inserted before the one that is refused stand in the transaction only
    obtain ⟨hanswer, hkept⟩ := Transaction.store_of_error commit fails herror
    rw [hanswer, hkept, Transaction.committed_begin]
    exact .refuses h hf

theorem step_spec (σ : StoreState) (s : StoreStep) : Step σ s (σ.step s).1 (σ.step s).2 := by
  cases s with
  | openStore => exact .opens
  | closeStore => exact .closes
  | createTables =>
    cases σ with
    | closed => exact .notOpen nofun nofun
    | opened tables => exact .creates
  | dropTables =>
    cases σ with
    | closed => exact .notOpen nofun nofun
    | opened tables => exact .drops
  | insert s commit fails =>
    rcases σ with _ | (_ | t)
    · exact .notOpen nofun nofun
    · exact .insertsNowhere
    · exact step_insert_spec t s commit fails
  | count =>
    rcases σ with _ | (_ | t)
    · exact .notOpen nofun nofun
    · exact .countsNothing
    · exact .counts

/-! ## Runs -/

/-- The state after steps. -/
def after (σ : StoreState) (steps : List StoreStep) : StoreState :=
  steps.foldl (fun σ s => (σ.step s).1) σ

theorem run_append (σ : StoreState) (before later : List StoreStep) :
    σ.run (before ++ later) = σ.run before ++ (σ.after before).run later := by
  induction before generalizing σ with
  | nil => rfl
  | cons s rest ih => simp [run, after, ih]

theorem after_concat (σ : StoreState) (steps : List StoreStep) (s : StoreStep) :
    σ.after (steps ++ [s]) = ((σ.after steps).step s).1 :=
  List.foldl_concat ..

/-- Every step is answered, and in its place. -/
theorem map_step_run (σ : StoreState) (steps : List StoreStep) :
    (σ.run steps).map Done.step = steps := by
  induction steps generalizing σ with
  | nil => rfl
  | cons s rest ih => simp [run, ih]

/-- What has been done before a step is a run of its own. -/
theorem run_eq_append_cons {σ : StoreState} {steps : List StoreStep} {history later : List Done}
    {d : Done} (h : σ.run steps = history ++ d :: later) :
    history = σ.run (history.map Done.step) ∧
      d.answer = ((σ.after (history.map Done.step)).step d.step).2 := by
  induction history generalizing σ steps with
  | nil =>
    cases steps with
    | nil => cases h
    | cons s rest =>
      obtain ⟨rfl, -⟩ := List.cons.inj h
      exact ⟨rfl, rfl⟩
  | cons first history ih =>
    cases steps with
    | nil => cases h
    | cons s rest =>
      obtain ⟨rfl, hrest⟩ := List.cons.inj h
      obtain ⟨hhistory, hanswer⟩ := ih hrest
      exact ⟨congrArg (List.cons _) hhistory, hanswer⟩

end StoreState

end Rulebook
