import Mathlib
import Rulebook.Store.Retry

/-!
# Reads are tried again unnoticed

Which statement settles a read is told by what the session meets (`Session.EndsAfter`): it is the
first one that meets no passing failure, or the third. There is just one such statement, and the
read answers what that statement answers, or fails with the failure that it meets
(`StoreRead.perform_eq`).

So a read is settled by the three statements from its own start on. Reads that follow each other in
a session know nothing of each other but where the session has come to.
-/

namespace Rulebook

namespace Session

variable {Row : Type} {s s' : Session Row} {left n m : Nat}

@[simp] theorem rows_advance (s : Session Row) (n : Nat) : (s.advance n).rows = s.rows := rfl

@[simp] theorem weather_advance (s : Session Row) (n : Nat) : (s.advance n).weather = s.weather :=
  rfl

@[simp] theorem executed_advance (s : Session Row) (n : Nat) :
    (s.advance n).executed = s.executed + n := rfl

@[simp] theorem advance_zero (s : Session Row) : s.advance 0 = s := rfl

theorem advance_advance (s : Session Row) (n m : Nat) :
    (s.advance n).advance m = s.advance (n + m) := by
  simp [advance, Nat.add_assoc]

/-- The next statements meet so many passing failures, one after another. -/
def MeetsPassing (s : Session Row) (n : Nat) : Prop :=
  ∀ i < n, ∃ f, s.weather (s.executed + i) = some f ∧ f.isPassing = true

/-- The statement that follows `n` passing failures settles a read with so many tries left. -/
structure EndsAfter (s : Session Row) (left n : Nat) : Prop where
  le : n ≤ left
  passing : s.MeetsPassing n
  /-- The statement answers, or nothing is tried after its failure. -/
  ends : ∀ f, s.weather (s.executed + n) = some f → n = left ∨ f.isPassing = false

theorem meetsPassing_succ {f : StoreFault} (hmet : s.weather s.executed = some f)
    (hf : f.isPassing = true) (h : (s.advance 1).MeetsPassing n) : s.MeetsPassing (n + 1) := by
  intro i hi
  cases i with
  | zero => exact ⟨f, hmet, hf⟩
  | succ i =>
    obtain ⟨f', hmet', hf'⟩ := h i (Nat.lt_of_succ_lt_succ hi)
    rw [executed_advance, weather_advance, Nat.add_right_comm] at hmet'
    exact ⟨f', hmet', hf'⟩

theorem EndsAfter.advance (h : s.EndsAfter (left + 1) (n + 1)) :
    (s.advance 1).EndsAfter left n where
  le := Nat.le_of_succ_le_succ h.le
  passing i hi := by
    obtain ⟨f, hmet, hf⟩ := h.passing (i + 1) (Nat.succ_lt_succ hi)
    exact ⟨f, by rw [← hmet, weather_advance, executed_advance, Nat.add_right_comm, Nat.add_assoc],
      hf⟩
  ends f hmet := by
    rw [weather_advance, executed_advance, Nat.add_right_comm, Nat.add_assoc] at hmet
    exact (h.ends f hmet).imp_left Nat.succ.inj

theorem exists_endsAfter (s : Session Row) (left : Nat) : ∃ n, s.EndsAfter left n := by
  induction left generalizing s with
  | zero => exact ⟨0, Nat.le_refl 0, nofun, fun _ _ => .inl rfl⟩
  | succ left ih =>
    -- a passing failure leaves it to the statements after it
    cases hmet : s.weather s.executed with
    | none => exact ⟨0, Nat.zero_le _, nofun, fun f hf => by simp [hmet] at hf⟩
    | some f =>
      cases hf : f.isPassing with
      | false =>
        refine ⟨0, Nat.zero_le _, nofun, fun f' hf' => .inr ?_⟩
        rw [Nat.add_zero, hmet, Option.some.injEq] at hf'
        rw [← hf', hf]
      | true =>
        obtain ⟨n, hle, hpassing, hends⟩ := ih (s.advance 1)
        refine ⟨n + 1, Nat.succ_le_succ hle, meetsPassing_succ hmet hf hpassing, fun f' hf' => ?_⟩
        rw [← Nat.add_assoc, Nat.add_right_comm] at hf'
        exact (hends f' hf').imp_left (congrArg (· + 1))

theorem EndsAfter.not_lt (h : s.EndsAfter left n) (h' : s.EndsAfter left m) : ¬ n < m := by
  intro hlt
  -- the earlier statement would meet a passing failure with tries left
  obtain ⟨f, hmet, hf⟩ := h'.passing n hlt
  rcases h.ends f hmet with hleft | hf'
  · have hle := h'.le
    omega
  · simp [hf] at hf'

/-- Just one statement settles a read. -/
theorem EndsAfter.unique (h : s.EndsAfter left n) (h' : s.EndsAfter left m) : n = m :=
  Nat.le_antisymm (Nat.not_lt.1 (h'.not_lt h)) (Nat.not_lt.1 (h.not_lt h'))

/-- Only the statements that a read may take matter to how it ends. -/
theorem EndsAfter.of_agree (h : s.EndsAfter left n)
    (hagree : ∀ i ≤ left, s'.weather (s'.executed + i) = s.weather (s.executed + i)) :
    s'.EndsAfter left n where
  le := h.le
  passing i hi := by
    rw [hagree i (by have := h.le; omega)]
    exact h.passing i hi
  ends f hmet := h.ends f (by rwa [hagree n h.le] at hmet)

theorem execute_snd (s : Session Row) (q : Statement) : (s.execute q).2 = s.advance 1 := by
  unfold execute
  cases s.weather s.executed <;> rfl

theorem execute_of_none {q : Statement} (h : s.weather s.executed = none) :
    (s.execute q).1 = .ok (s.rows q) := by
  simp [execute, h]

theorem execute_of_some {q : Statement} {f : StoreFault} (h : s.weather s.executed = some f) :
    (s.execute q).1 = .error f := by
  simp [execute, h]

end Session

/-! ## One read -/

namespace StoreRead

variable {Row : Type} {r : StoreRead} {s : Session Row} {q : Statement} {left n : Nat}

theorem statement?_eq_none_iff : r.statement? = none ↔ r = .values [] := by
  cases r with
  | values ids => cases ids <;> simp [statement?]
  | _ => simp [statement?]

theorem once_eq (h : r.statement? = some q) (s : Session Row) :
    r.once s = ((s.execute q).1.map r.answer, s.advance 1) := by
  simp [once, h, ← s.execute_snd q]

/-- The failures of the tries before the one that settles a read leave no trace but the waits. -/
theorem tryFrom_once (hq : r.statement? = some q) (h : s.EndsAfter left n) (attempt : Nat) :
    RetryPolicy.ofReads.tryFrom r.once left attempt s =
      ⟨((s.advance n).execute q).1.map r.answer, s.advance (n + 1),
        (List.range n).map fun i => RetryPolicy.ofReads.wait (attempt + i)⟩ := by
  -- by induction on the failures before, each of which takes one try and one statement
  induction n generalizing left attempt s with
  | zero =>
    cases left with
    | zero => simp [RetryPolicy.tryFrom, once_eq hq]
    | succ left =>
      rw [RetryPolicy.tryFrom, once_eq hq]
      cases hmet : s.weather s.executed with
      | none => simp [Session.execute_of_none hmet, Except.map]
      | some f =>
        have hf : RetryPolicy.ofReads.retries f = false :=
          (h.ends f hmet).resolve_left (Nat.succ_ne_zero left).symm
        simp [Session.execute_of_some hmet, Except.map, hf]
  | succ n ih =>
    cases left with
    | zero => exact absurd h.le (Nat.not_succ_le_zero n)
    | succ left =>
      obtain ⟨f, hmet, hf⟩ := h.passing 0 (Nat.succ_pos n)
      have hretries : RetryPolicy.ofReads.retries f = true := hf
      have hlater := ih h.advance (attempt + 1)
      rw [RetryPolicy.tryFrom, once_eq hq, Session.execute_of_some hmet]
      simp only [Except.map, hretries, if_true, hlater, Session.advance_advance]
      rw [Nat.add_comm 1 n, Nat.add_comm 1 (n + 1), List.range_succ_eq_map, List.map_cons,
        List.map_map]
      simp [Function.comp_def, Nat.add_assoc, Nat.add_comm 1]

/-- A read answers what the statement that settles it answers. -/
theorem perform_eq (hq : r.statement? = some q) (h : s.EndsAfter 2 n) :
    r.perform s = ⟨((s.advance n).execute q).1.map r.answer, s.advance (n + 1),
      (List.range n).map RetryPolicy.ofReads.wait⟩ := by
  have htries := tryFrom_once hq h 0
  simp only [Nat.zero_add] at htries
  exact htries

theorem perform_of_none (hq : r.statement? = some q) (hn : n ≤ 2) (hpassing : s.MeetsPassing n)
    (hmet : s.weather (s.executed + n) = none) :
    r.perform s = ⟨.ok (r.answer (s.rows q)), s.advance (n + 1),
      (List.range n).map RetryPolicy.ofReads.wait⟩ := by
  have hends : s.EndsAfter 2 n := ⟨hn, hpassing, fun f hf => by simp [hmet] at hf⟩
  rw [perform_eq hq hends, Session.execute_of_none hmet]
  rfl

theorem perform_of_some {f : StoreFault} (hq : r.statement? = some q) (h : s.EndsAfter 2 n)
    (hmet : s.weather (s.executed + n) = some f) :
    r.perform s = ⟨.error f, s.advance (n + 1),
      (List.range n).map RetryPolicy.ofReads.wait⟩ := by
  rw [perform_eq hq h, Session.execute_of_some hmet]
  rfl

/-- To look up no numbers, nothing is executed. -/
theorem perform_values_nil (s : Session Row) :
    (values []).perform s = ⟨.ok (.many []), s, []⟩ := rfl

theorem exists_statement (h : r ≠ .values []) : ∃ q, r.statement? = some q :=
  Option.ne_none_iff_exists'.1 (mt statement?_eq_none_iff.1 h)

theorem exists_after_eq_advance (r : StoreRead) (s : Session Row) :
    ∃ n ≤ 3, (r.perform s).after = s.advance n := by
  by_cases hr : r = .values []
  · subst hr
    exact ⟨0, Nat.zero_le 3, by rw [perform_values_nil, Session.advance_zero]⟩
  · obtain ⟨q, hq⟩ := exists_statement hr
    obtain ⟨n, hends⟩ := s.exists_endsAfter 2
    exact ⟨n + 1, Nat.succ_le_succ hends.le, by rw [perform_eq hq hends]⟩

end StoreRead

/-! ## Reads in a row -/

namespace Session

variable {Row : Type}

/-- The session if none of its statements failed. -/
def calm (s : Session Row) : Session Row := { s with weather := fun _ => none }

/-- The session after reads. -/
def afterReads (s : Session Row) (reads : List StoreRead) : Session Row :=
  reads.foldl (fun s r => (r.perform s).after) s

theorem performAll_append (s : Session Row) (before later : List StoreRead) :
    s.performAll (before ++ later) =
      s.performAll before ++ (s.afterReads before).performAll later := by
  induction before generalizing s with
  | nil => rfl
  | cons r rest ih => simp [performAll, afterReads, ih]

theorem length_performAll (s : Session Row) (reads : List StoreRead) :
    (s.performAll reads).length = reads.length := by
  induction reads generalizing s with
  | nil => rfl
  | cons r rest ih => simp [performAll, ih]

/-- Reads leave nothing behind in the session but the number of statements. -/
theorem exists_afterReads_eq_advance (s : Session Row) (reads : List StoreRead) :
    ∃ n ≤ 3 * reads.length, s.afterReads reads = s.advance n := by
  induction reads generalizing s with
  | nil => exact ⟨0, Nat.le_refl 0, rfl⟩
  | cons r rest ih =>
    obtain ⟨n, hn, hfirst⟩ := r.exists_after_eq_advance s
    obtain ⟨m, hm, hrest⟩ := ih (s.advance n)
    refine ⟨n + m, ?_, ?_⟩
    · rw [List.length_cons]
      omega
    · rw [← advance_advance, ← hrest, ← hfirst]
      rfl

end Session

/-- What the caller of a read sees of failures. -/
structure StoreRead.HidesPassing {Row : Type} (r : StoreRead) (s : Session Row) : Prop where
  /-- To look up no numbers, nothing is executed. -/
  known : r = .values [] → r.perform s = ⟨.ok (.many []), s, []⟩
  /-- Without failures, one statement answers. -/
  calm : ∀ q, r.statement? = some q →
    (r.perform s.calm).outcome = .ok (r.answer (s.rows q)) ∧
      (r.perform s.calm).after = s.calm.advance 1
  /-- Up to two passing failures make no difference to the answer. -/
  answered : r ≠ .values [] → ∀ n ≤ 2, s.MeetsPassing n → s.weather (s.executed + n) = none →
    (r.perform s).outcome = (r.perform s.calm).outcome ∧ (r.perform s).after = s.advance (n + 1)
  /-- A read fails just with a third passing failure, and with a failure of another kind. -/
  failed_iff : ∀ f, (r.perform s).outcome = .error f ↔ r ≠ .values [] ∧ ∃ n ≤ 2,
    s.MeetsPassing n ∧ s.weather (s.executed + n) = some f ∧ (n = 2 ∨ f.isPassing = false)
  /-- The failure of a read is the one that its last statement has met. -/
  failure : ∀ f, (r.perform s).outcome = .error f → ∃ n,
    (r.perform s).after = s.advance (n + 1) ∧ s.weather (s.executed + n) = some f
  executions : ∃ n ≤ 3, (r.perform s).after = s.advance n
  /-- Nothing is executed after a failure of another kind. -/
  final : ∀ n f, s.executed + n < (r.perform s).after.executed →
    s.weather (s.executed + n) = some f → f.isPassing = false →
      (r.perform s).after = s.advance (n + 1)

namespace StoreRead

variable {Row : Type} {r : StoreRead} {s : Session Row}

theorem perform_calm {q : Statement} (hq : r.statement? = some q) (s : Session Row) :
    r.perform s.calm = ⟨.ok (r.answer (s.rows q)), s.calm.advance 1, []⟩ :=
  perform_of_none (s := s.calm) (n := 0) hq (Nat.zero_le 2) nofun rfl

/-- A read that fails has come to a statement that settles it, and has met its failure there. -/
theorem exists_of_outcome_eq_error {f : StoreFault} (h : (r.perform s).outcome = .error f) :
    r ≠ .values [] ∧ ∃ n, s.EndsAfter 2 n ∧ s.weather (s.executed + n) = some f ∧
      (r.perform s).after = s.advance (n + 1) := by
  have hr : r ≠ .values [] := by
    rintro rfl
    cases h
  obtain ⟨q, hq⟩ := exists_statement hr
  obtain ⟨n, hends⟩ := s.exists_endsAfter 2
  refine ⟨hr, n, hends, ?_, by rw [perform_eq hq hends]⟩
  cases hmet : s.weather (s.executed + n) with
  | none =>
    rw [perform_of_none hq hends.le hends.passing hmet] at h
    cases h
  | some f' =>
    rw [perform_of_some hq hends hmet] at h
    cases h
    rfl

theorem hidesPassing (r : StoreRead) (s : Session Row) : r.HidesPassing s where
  known := by
    rintro rfl
    exact perform_values_nil s
  calm q hq := by
    rw [perform_calm hq]
    exact ⟨rfl, rfl⟩
  answered hr n hn hpassing hmet := by
    obtain ⟨q, hq⟩ := exists_statement hr
    rw [perform_of_none hq hn hpassing hmet, perform_calm hq]
    exact ⟨rfl, rfl⟩
  failed_iff f := by
    constructor
    · intro h
      obtain ⟨hr, n, hends, hmet, -⟩ := exists_of_outcome_eq_error h
      exact ⟨hr, n, hends.le, hends.passing, hmet, hends.ends f hmet⟩
    · rintro ⟨hr, n, hn, hpassing, hmet, hlast⟩
      obtain ⟨q, hq⟩ := exists_statement hr
      have hends : s.EndsAfter 2 n := ⟨hn, hpassing, fun f' hf' => by
        rw [hmet, Option.some.injEq] at hf'
        exact hf' ▸ hlast⟩
      rw [perform_of_some hq hends hmet]
  failure f h := by
    obtain ⟨-, n, -, hmet, hafter⟩ := exists_of_outcome_eq_error h
    exact ⟨n, hafter, hmet⟩
  executions := r.exists_after_eq_advance s
  final n f hlt hmet hf := by
    have hr : r ≠ .values [] := by
      rintro rfl
      have hnone : s.executed + n < s.executed := hlt
      omega
    obtain ⟨q, hq⟩ := exists_statement hr
    obtain ⟨m, hends⟩ := s.exists_endsAfter 2
    rw [perform_eq hq hends] at hlt ⊢
    rw [Session.executed_advance] at hlt
    rcases Nat.lt_or_eq_of_le (show n ≤ m by omega) with hnm | rfl
    · -- all failures before the one that settles the read are passing
      obtain ⟨f', hmet', hf'⟩ := hends.passing n hnm
      rw [hmet, Option.some.injEq] at hmet'
      rw [← hmet', hf] at hf'
      cases hf'
    · rfl

/-- Reads that meet the same in three statements go alike, whatever the sessions have met before. -/
theorem perform_agrees (r : StoreRead) (s s' : Session Row) (hrows : s'.rows = s.rows)
    (hmet : ∀ i < 3, s'.weather (s'.executed + i) = s.weather (s.executed + i)) :
    (r.perform s').outcome = (r.perform s).outcome ∧ (r.perform s').waits = (r.perform s).waits ∧
      ∃ n, (r.perform s').after = s'.advance n ∧ (r.perform s).after = s.advance n := by
  by_cases hr : r = .values []
  · subst hr
    rw [perform_values_nil, perform_values_nil]
    exact ⟨rfl, rfl, 0, rfl, rfl⟩
  · obtain ⟨q, hq⟩ := exists_statement hr
    obtain ⟨n, hends⟩ := s.exists_endsAfter 2
    have hends' : s'.EndsAfter 2 n := hends.of_agree fun i hi => hmet i (by omega)
    have hlast : s'.weather (s'.executed + n) = s.weather (s.executed + n) :=
      hmet n (by have := hends.le; omega)
    rw [perform_eq hq hends, perform_eq hq hends']
    refine ⟨?_, rfl, n + 1, rfl, rfl⟩
    simp only [Session.execute, Session.weather_advance, Session.executed_advance, hlast,
      Session.rows_advance, hrows]
    cases s.weather (s.executed + n) <;> rfl

end StoreRead

/-- What holds of a read that is performed after others in the same session. -/
structure ReadsApart {Row : Type} (s : Session Row) (before : List StoreRead) (r : StoreRead)
    (later : List StoreRead) : Prop where
  /-- The read is performed where the earlier ones have left the session. -/
  place : (s.performAll (before ++ r :: later))[before.length]? =
    some (r.perform (s.afterReads before))
  /-- They have left it as it was, further on. -/
  session : ∃ n ≤ 3 * before.length, s.afterReads before = s.advance n
  hides : r.HidesPassing (s.afterReads before)
  /-- The read goes as it does after any other reads, whatever these have met. -/
  apart : ∀ (s' : Session Row) (before' : List StoreRead), s'.rows = s.rows →
    (∀ i < 3, s'.weather ((s'.afterReads before').executed + i) =
      s.weather ((s.afterReads before).executed + i)) →
    (r.perform (s'.afterReads before')).outcome = (r.perform (s.afterReads before)).outcome ∧
      ∃ n, (r.perform (s'.afterReads before')).after = (s'.afterReads before').advance n ∧
        (r.perform (s.afterReads before)).after = (s.afterReads before).advance n

/-- Passing failures are hidden from those who read, two of them in each read and whatever other
reads have met. Any other failure reaches them as it is. -/
theorem retries_are_transparent {Row : Type} (s : Session Row) (before : List StoreRead)
    (r : StoreRead) (later : List StoreRead) : ReadsApart s before r later where
  place := by
    rw [Session.performAll_append, ← s.length_performAll before,
      List.getElem?_append_right (Nat.le_refl _), Nat.sub_self]
    rfl
  session := s.exists_afterReads_eq_advance before
  hides := r.hidesPassing (s.afterReads before)
  apart s' before' hrows hmet := by
    obtain ⟨n, -, hs⟩ := s.exists_afterReads_eq_advance before
    obtain ⟨n', -, hs'⟩ := s'.exists_afterReads_eq_advance before'
    rw [hs, hs'] at hmet ⊢
    obtain ⟨houtcome, -, hafter⟩ := r.perform_agrees (s.advance n) (s'.advance n') hrows hmet
    exact ⟨houtcome, hafter⟩

/-- The first read hides two failures, the second one needs no statement, and the third one meets
three failures of its own. -/
example : let s : Session Int :=
      ⟨fun _ => [7], fun i => if i = 2 then none else some (.operational "lost"), 0⟩
    (s.performAll [.ruleSet 1, .values [], .attribute 1]).map
      (fun went => (went.outcome, went.after.executed, went.waits)) =
      [(.ok (.one (some 7)), 3, [500, 1000]), (.ok (.many []), 3, []),
        (.error (.operational "lost"), 6, [500, 1000])] := rfl

end Rulebook
