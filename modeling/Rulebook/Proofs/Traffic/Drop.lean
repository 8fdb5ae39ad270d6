import Mathlib.Data.List.Induction
import Rulebook.Proofs.Traffic.FirstLoad

/-!
# Drops and loads under way

A drop takes out what is stored, but it does not reach the loads that are under way. A load that
started before the drop may end after it; what it brings is then stored like anything else, and
returned to accesses that start later.

So a drop is final for a scope, in the sense that no later access returns anything loaded before it,
exactly if no load for the scope is under way when the drop happens.
-/

namespace Rulebook

/-- The collection has been loaded for the scope, by an access that starts among the events. -/
def LoadedAmong (events : List CacheEvent) (s : Scope) (k : Collection) : Prop :=
  ∃ a ds, scopeOf? events a = some s ∧ endOf? events a = some (some ds) ∧ k = ⟨ds⟩

/-- Every access to the scope that starts among the later events returns, if it returns a
collection, one that has been loaded by an access that starts among them, too. -/
def Cache.IsFreshAfter (c : Cache) (earlier later : List CacheEvent) (s : Scope) : Prop :=
  ∀ x ∈ (c.serve (earlier ++ later)).answers, scopeOf? later x.access = some s →
    ∀ k, x.returned = some k → LoadedAmong later s k

theorem LoadedAmong.append {events : List CacheEvent} {s : Scope} {k : Collection}
    (h : LoadedAmong events s k) (later : List CacheEvent) :
    LoadedAmong (events ++ later) s k := by
  obtain ⟨a, ds, hscope, hend, rfl⟩ := h
  exact ⟨a, ds, scopeOf?_append_of_some hscope, endOf?_append_of_some hend, rfl⟩

namespace Interleaving

variable {earlier later : List CacheEvent} {a : Nat} {s : Scope}

/-- An access that starts among the later events has not started before. -/
theorem scopeOf?_eq_none_of_later (h : Interleaving (earlier ++ later))
    (ha : scopeOf? later a = some s) : scopeOf? earlier a = none := by
  -- along the later events: the last one starts the access, or one before it does
  induction later using List.reverseRecOn with
  | nil => cases ha
  | append_singleton later e ih =>
    rw [← List.append_assoc] at h
    rw [scopeOf?_append, Option.or_eq_some_iff] at ha
    rcases ha with ha | ⟨hnone, ha⟩
    · exact ih (h.of_prefix (List.prefix_append _ _)) ha
    · -- the last event starts the access
      cases e with
      | finish b loaded => simp at ha
      | drop d => simp at ha
      | start b t =>
        obtain ⟨rfl, rfl⟩ : b = a ∧ t = s := by simpa using ha
        have hnew := h.scopeOf?_eq_none
        rw [scopeOf?_append, Option.or_eq_none_iff] at hnew
        exact hnew.1

end Interleaving

/-! ## No load under way -/

namespace Traffic

/-- What holds after a drop with no load for the scope under way: all that the scope has, and all
that is on its way to it, stems from the later events. -/
structure Renewed (before : List AccessAnswer) (later : List CacheEvent) (s : Scope)
    (t : Traffic) : Prop where
  entry : ∀ k, t.cache.get? s = some k → LoadedAmong later s k
  waiting : ∀ a, t.waiting.lookup a = some s → scopeOf? later a = some s
  answers : ∀ x ∈ t.answers, x ∈ before ∨
    (x.scope = s → ∀ k, x.returned = some k → LoadedAmong later s k)

namespace Renewed

variable {before : List AccessAnswer} {earlier later : List CacheEvent} {s : Scope} {t : Traffic}

theorem answers_append (h : Renewed before later s t) {e : CacheEvent} {x : AccessAnswer}
    (hx : x.scope = s → ∀ k, x.returned = some k → LoadedAmong (later ++ [e]) s k) :
    ∀ y ∈ t.answers ++ [x], y ∈ before ∨
      (y.scope = s → ∀ k, y.returned = some k → LoadedAmong (later ++ [e]) s k) := by
  intro y hy
  rcases List.mem_append.1 hy with hy | hy
  · exact (h.answers y hy).imp_right fun hy hs k hk => (hy hs k hk).append _
  · obtain rfl := List.mem_singleton.1 hy
    exact .inr hx

theorem answers_keep (h : Renewed before later s t) (e : CacheEvent) :
    ∀ y ∈ t.answers, y ∈ before ∨
      (y.scope = s → ∀ k, y.returned = some k → LoadedAmong (later ++ [e]) s k) :=
  fun y hy => (h.answers y hy).imp_right fun hy hs k hk => (hy hs k hk).append _

theorem waiting_forget (h : Renewed before later s t) {a : Nat} {e : CacheEvent} :
    ∀ b, (t.forget a).waiting.lookup b = some s → scopeOf? (later ++ [e]) b = some s := by
  intro b hb
  rw [lookup_forget] at hb
  split at hb
  · cases hb
  · exact scopeOf?_append_of_some (h.waiting b hb)

theorem step (h : Renewed before later s t) {e : CacheEvent}
    (hevents : Interleaving (earlier ++ later ++ [e]))
    (hstands : ∀ a, t.Stands (earlier ++ later) a) : Renewed before (later ++ [e]) s (t.step e) := by
  -- what has been loaded among the later events remains so with one event more
  have hentry : ∀ k, t.cache.get? s = some k → LoadedAmong (later ++ [e]) s k :=
    fun k hk => (h.entry k hk).append _
  have hwaits : ∀ a, t.waiting.lookup a = some s → scopeOf? (later ++ [e]) a = some s :=
    fun a ha => scopeOf?_append_of_some (h.waiting a ha)
  have hspec := step_spec t e
  generalize t.step e = t' at hspec
  cases hspec with
  | @found a s' k hstored =>
    refine ⟨hentry, hwaits, h.answers_append ?_⟩
    rintro rfl k' hk'
    exact hentry k' (hstored.trans hk')
  | @started a s' hstored =>
    refine ⟨hentry, ?_, h.answers_keep _⟩
    intro b hb
    rw [List.lookup_append, Option.or_eq_some_iff] at hb
    rcases hb with hb | ⟨-, hb⟩
    · exact hwaits b hb
    · -- the load that starts now is one of the later events
      have hnew := hevents.scopeOf?_eq_none
      rw [scopeOf?_append, Option.or_eq_none_iff] at hnew
      rw [List.lookup_cons] at hb
      split at hb
      · next hab =>
        obtain rfl := eq_of_beq hab
        cases hb
        simp [scopeOf?_append, hnew.2]
      · cases hb
  | ignored hwaiting => exact ⟨hentry, hwaits, h.answers_keep _⟩
  | failed hwaiting =>
    -- a failure returns nothing
    exact ⟨hentry, h.waiting_forget, h.answers_append nofun⟩
  | @stored a s' ds hwaiting hstored =>
    -- a load for the scope that ends now has started among the later events
    have hloaded : s' = s → LoadedAmong (later ++ [.finish a (some ds)]) s ⟨ds⟩ := by
      rintro rfl
      have hopen : endOf? later a = none := by
        have hend := (hstands a).endOf?_of_waiting hwaiting
        rw [endOf?_append, Option.or_eq_none_iff] at hend
        exact hend.2
      exact ⟨a, ds, hwaits a hwaiting, by simp [endOf?_append, hopen], rfl⟩
    refine ⟨?_, h.waiting_forget, h.answers_append ?_⟩
    · intro k hk
      rw [cache_answer, Cache.get?_stored] at hk
      split at hk
      · next hs =>
        cases hk
        exact hloaded hs.symm
      · exact hentry k hk
    · rintro hs k ⟨⟩
      exact hloaded hs
  | @adopted a s' ds k hwaiting hstored =>
    refine ⟨hentry, h.waiting_forget, h.answers_append ?_⟩
    rintro rfl k' hk'
    exact hentry k' (hstored.trans hk')
  | @dropped d =>
    refine ⟨?_, hwaits, h.answers_keep _⟩
    intro k hk
    rw [Cache.get?_drop] at hk
    split at hk
    · cases hk
    · exact hentry k hk

end Renewed

end Traffic

theorem Interleaving.renewed {c : Cache} {earlier later : List CacheEvent} {d : Option Scope}
    {s : Scope} (h : Interleaving (earlier ++ [.drop d] ++ later)) (hd : d = none ∨ d = some s)
    (hquiet : ∀ a, (c.serve earlier).waiting.lookup a ≠ some s) :
    Traffic.Renewed (c.serve (earlier ++ [.drop d])).answers later s
      (c.serve (earlier ++ [.drop d] ++ later)) := by
  induction later using List.reverseRecOn with
  | nil =>
    rw [List.append_nil, Cache.serve_concat]
    -- right after the drop nothing is stored for the scope and nothing is under way
    refine ⟨?_, fun a ha => absurd ha (hquiet a), fun x hx => .inl hx⟩
    intro k hk
    have hdropped : ((c.serve earlier).step (.drop d)).cache.get? s = none := by
      show ((c.serve earlier).cache.drop d).get? s = none
      rw [Cache.get?_drop, if_pos hd]
    rw [hdropped] at hk
    cases hk
  | append_singleton later e ih =>
    rw [← List.append_assoc] at h ⊢
    have hbefore := h.of_prefix (List.prefix_append _ [e])
    rw [Cache.serve_concat c (earlier ++ [CacheEvent.drop d] ++ later)]
    exact (ih hbefore).step h fun a => hbefore.stands c a

theorem Interleaving.isFreshAfter {c : Cache} {earlier later : List CacheEvent} {d : Option Scope}
    {s : Scope} (h : Interleaving (earlier ++ [.drop d] ++ later)) (hd : d = none ∨ d = some s)
    (hquiet : ∀ a, (c.serve earlier).waiting.lookup a ≠ some s) :
    c.IsFreshAfter (earlier ++ [.drop d]) later s := by
  intro x hx hlater k hk
  have hearlier := h.scopeOf?_eq_none_of_later hlater
  rcases (h.renewed hd hquiet).answers x hx with hbefore | hloaded
  · -- an answer that had been given at the drop is for an access that had started
    have hscope := (h.of_prefix (List.prefix_append _ _)).scopeOf?_of_mem_answers c hbefore
    rw [hearlier] at hscope
    cases hscope
  · have hscope := h.scopeOf?_of_mem_answers c hx
    rw [scopeOf?_append, hearlier, Option.none_or, hlater] at hscope
    exact hloaded (Option.some.inj hscope).symm k hk

/-! ## A load under way -/

/-- There is always a number that no access has. -/
theorem exists_scopeOf?_eq_none (events : List CacheEvent) : ∃ a, scopeOf? events a = none := by
  have hbound : ∃ n, ∀ a, n ≤ a → scopeOf? events a = none := by
    induction events with
    | nil => exact ⟨0, fun _ _ => rfl⟩
    | cons e rest ih =>
      obtain ⟨n, hn⟩ := ih
      cases e with
      | finish b loaded => exact ⟨n, hn⟩
      | drop d => exact ⟨n, hn⟩
      | start b t =>
        refine ⟨max n (b + 1), fun a ha => ?_⟩
        have hba : b ≠ a := by omega
        rw [← List.singleton_append, scopeOf?_append, hn a (by omega)]
        simp [hba]
  obtain ⟨n, hn⟩ := hbound
  exact ⟨n, hn n (Nat.le_refl n)⟩

theorem Traffic.get?_step_finish {t : Traffic} {a : Nat} {s : Scope}
    (hwaiting : t.waiting.lookup a = some s) (hstored : t.cache.get? s = none)
    (ds : List Descriptor) : (t.step (.finish a (some ds))).cache.get? s = some ⟨ds⟩ := by
  simp [Traffic.step, hwaiting, Cache.adopt_of_none hstored, Cache.get?_stored]

/-- A load that is under way at a drop may be the first to end after it. -/
theorem Interleaving.exists_stale {c : Cache} {earlier : List CacheEvent} {d : Option Scope}
    {s : Scope} {a : Nat} (h : Interleaving earlier) (hd : d = none ∨ d = some s)
    (ha : (c.serve earlier).waiting.lookup a = some s) :
    ∃ later, Interleaving (earlier ++ [.drop d] ++ later) ∧
      ¬c.IsFreshAfter (earlier ++ [.drop d]) later s := by
  have hdrop : Interleaving (earlier ++ [.drop d]) := h.drop
  have hscope : scopeOf? (earlier ++ [.drop d]) a = some s :=
    scopeOf?_append_of_some ((h.stands c a).scope_of_waiting ha)
  have hopen : endOf? (earlier ++ [.drop d]) a = none := by
    simp [endOf?_append, (h.stands c a).endOf?_of_waiting ha]
  have hfinish : Interleaving (earlier ++ [.drop d] ++ [.finish a (some [])]) :=
    hdrop.finish (by simp [hscope]) hopen
  obtain ⟨b, hb⟩ := exists_scopeOf?_eq_none (earlier ++ [.drop d] ++ [.finish a (some [])])
  have hab : a ≠ b := by
    rintro rfl
    rw [scopeOf?_append_of_some hscope] at hb
    cases hb
  refine ⟨[.finish a (some [])] ++ [.start b s], ?_, ?_⟩
  · rw [← List.append_assoc]
    exact hfinish.start hb
  · intro hfresh
    -- the later access finds what the load under way has brought
    have hstored : (c.serve (earlier ++ [.drop d] ++ [.finish a (some [])])).cache.get? s =
        some ⟨[]⟩ := by
      rw [Cache.serve_concat]
      refine Traffic.get?_step_finish ?_ ?_ []
      · rw [Cache.serve_concat]
        exact ha
      · rw [Cache.serve_concat]
        show ((c.serve earlier).cache.drop d).get? s = none
        rw [Cache.get?_drop, if_pos hd]
    have hanswer : ⟨b, s, some ⟨[]⟩, false⟩ ∈
        (c.serve (earlier ++ [.drop d] ++ ([.finish a (some [])] ++ [.start b s]))).answers := by
      rw [← List.append_assoc, Cache.serve_concat, Traffic.step_start_of_some hstored]
      exact List.mem_append_right _ List.mem_cons_self
    obtain ⟨b', ds, hscope', hend', -⟩ :=
      hfresh _ hanswer (by simp [scopeOf?]) ⟨[]⟩ rfl
    -- but it is the only access that starts after the drop, and has no load of its own
    have hbb' : b = b' := by
      by_contra hne
      simp [scopeOf?, hne] at hscope'
    have hab' : a = b' := by
      by_contra hne
      simp [endOf?, hne] at hend'
    exact hab (hab'.trans hbb'.symm)

/-- A drop is final for a scope exactly if no load for the scope is under way: only then does no
later access return what was loaded by one that started before. -/
theorem drop_is_final_iff (c : Cache) (earlier : List CacheEvent) (d : Option Scope) (s : Scope)
    (h : Interleaving earlier) (hd : d = none ∨ d = some s) :
    (∀ later, Interleaving (earlier ++ [.drop d] ++ later) →
      c.IsFreshAfter (earlier ++ [.drop d]) later s) ↔
        ∀ a, (c.serve earlier).waiting.lookup a ≠ some s := by
  constructor
  · intro hfinal a ha
    obtain ⟨later, hlater, hstale⟩ := h.exists_stale hd ha
    exact hstale (hfinal later hlater)
  · intro hquiet later hlater
    exact hlater.isFreshAfter hd hquiet

theorem drop_is_final_after_load :
    Interleaving [.start 0 .cart, .finish 0 (some [.composite .cart])] ∧
      ∀ later, Interleaving
        ([.start 0 .cart, .finish 0 (some [.composite .cart])] ++ [.drop none] ++ later) →
          Cache.empty.IsFreshAfter
            ([.start 0 .cart, .finish 0 (some [.composite .cart])] ++ [.drop none]) later .cart := by
  have hevents : Interleaving [.start 0 .cart, .finish 0 (some [.composite .cart])] :=
    .finish (.start .nil rfl) rfl rfl
  have hquiet : ∀ a, (Cache.empty.serve
      [.start 0 .cart, .finish 0 (some [.composite .cart])]).waiting.lookup a ≠ some .cart := by
    intro a
    show ([] : List (Nat × Scope)).lookup a ≠ some .cart
    simp
  exact ⟨hevents, (drop_is_final_iff .empty _ none .cart hevents (.inl rfl)).2 hquiet⟩

/-- A load that started before the drop ends after it, and before the load of an access that started
after the drop: this one returns what the other has brought. -/
theorem stale_load_is_kept :
    Interleaving ([.start 0 .cart, .drop (some .cart)] ++
      [.start 1 .cart, .finish 0 (some []), .finish 1 (some [.composite .cart])]) ∧
    (Cache.empty.serve ([.start 0 .cart, .drop (some .cart)] ++
      [.start 1 .cart, .finish 0 (some []), .finish 1 (some [.composite .cart])])).answers =
        [⟨0, .cart, some ⟨[]⟩, true⟩, ⟨1, .cart, some ⟨[]⟩, true⟩] ∧
    ¬Cache.empty.IsFreshAfter [.start 0 .cart, .drop (some .cart)]
      [.start 1 .cart, .finish 0 (some []), .finish 1 (some [.composite .cart])] .cart := by
  refine ⟨?_, rfl, ?_⟩
  · exact .finish (.finish (.start (.drop (.start .nil rfl)) rfl) rfl rfl) rfl rfl
  · intro hfresh
    obtain ⟨a, ds, hscope, hend, hds⟩ :=
      hfresh ⟨1, .cart, some ⟨[]⟩, true⟩ (List.mem_cons_of_mem _ List.mem_cons_self) rfl ⟨[]⟩ rfl
    have ha : 1 = a := by
      by_contra hne
      simp [scopeOf?, hne] at hscope
    subst ha
    cases hend
    cases hds

end Rulebook
