import Mathlib.Data.List.Basic
import Mathlib.Data.List.Induction
import Rulebook.Proofs.Traffic.Step

/-!
# The first load is kept

As long as nothing is dropped, the collection of a scope is settled once and for all: it is the one
that was stored before, or else the one of the first load for the scope that ends with descriptors
(`Cache.kept`). Every access that returns a collection returns this one, also if its own load has
brought another.

The invariant (`Traffic.Keeps`) ties the cache to the events so far and says why each answer was
given (`Fate`). It is carried along an interleaving event by event.
-/

namespace Rulebook

/-- The collection that an event brings for a scope. -/
def loadedFor? (events : List CacheEvent) (s : Scope) : CacheEvent → Option Collection
  | .finish a (some ds) => if scopeOf? events a = some s then some ⟨ds⟩ else none
  | _ => none

/-- The collection of the first load for a scope that ends with descriptors. -/
def firstLoaded? (events : List CacheEvent) (s : Scope) : Option Collection :=
  (events.filterMap (loadedFor? events s)).head?

namespace Cache

/-- The cache and the accesses to it after events. -/
def serve (c : Cache) (events : List CacheEvent) : Traffic := (Traffic.ofCache c).run events

/-- The collection that a scope has once and for all: the one stored before, or else that of the
first load. -/
def kept (c : Cache) (events : List CacheEvent) (s : Scope) : Option Collection :=
  (c.get? s).or (firstLoaded? events s)

theorem serve_append (c : Cache) (earlier later : List CacheEvent) :
    c.serve (earlier ++ later) = (c.serve earlier).run later :=
  Traffic.run_append ..

theorem serve_concat (c : Cache) (events : List CacheEvent) (e : CacheEvent) :
    c.serve (events ++ [e]) = (c.serve events).step e :=
  Traffic.run_concat ..

end Cache

/-! ## The first load -/

theorem Interleaving.isSome_scopeOf? {events : List CacheEvent} (h : Interleaving events) {a : Nat}
    {loaded : Option (List Descriptor)} (ha : .finish a loaded ∈ events) :
    (scopeOf? events a).isSome := by
  induction h with
  | nil => simp at ha
  | start h hnew ih =>
    rcases List.mem_append.1 ha with ha | ha
    · simp [scopeOf?_append, ih ha]
    · simp at ha
  | finish h hstarted hopen ih =>
    rcases List.mem_append.1 ha with ha | ha
    · simp [scopeOf?_append, ih ha]
    · cases List.mem_singleton.1 ha
      simp [scopeOf?_append, hstarted]
  | drop h ih =>
    rcases List.mem_append.1 ha with ha | ha
    · simp [scopeOf?_append, ih ha]
    · simp at ha

/-- Later events change nothing about what the earlier ones have brought. -/
theorem loadedFor?_append {events : List CacheEvent} (h : Interleaving events)
    (later : List CacheEvent) (s : Scope) {e : CacheEvent} (he : e ∈ events) :
    loadedFor? (events ++ later) s e = loadedFor? events s e := by
  cases e with
  | start a t => rfl
  | drop d => rfl
  | finish a loaded =>
    cases loaded with
    | none => rfl
    | some ds =>
      obtain ⟨t, ht⟩ := Option.isSome_iff_exists.1 (h.isSome_scopeOf? he)
      simp [loadedFor?, ht, scopeOf?_append_of_some ht]

theorem firstLoaded?_concat {events : List CacheEvent} (h : Interleaving events) (e : CacheEvent)
    (s : Scope) :
    firstLoaded? (events ++ [e]) s = (firstLoaded? events s).or (loadedFor? events s e) := by
  have hlast : loadedFor? (events ++ [e]) s e = loadedFor? events s e := by
    cases e with
    | start a t => rfl
    | drop d => rfl
    | finish a loaded => cases loaded <;> simp [loadedFor?, scopeOf?_append]
  have hearlier : events.filterMap (loadedFor? (events ++ [e]) s) =
      events.filterMap (loadedFor? events s) :=
    List.filterMap_congr fun e' he' => loadedFor?_append h [e] s he'
  rw [firstLoaded?, List.filterMap_append, List.head?_append, hearlier, firstLoaded?,
    List.filterMap_cons, hlast]
  cases loadedFor? events s e <;> rfl

namespace Cache

variable {c : Cache} {events : List CacheEvent} {e : CacheEvent} {s : Scope} {k : Collection}

theorem kept_concat (h : Interleaving events) (e : CacheEvent) (s : Scope) :
    c.kept (events ++ [e]) s = (c.kept events s).or (loadedFor? events s e) := by
  simp [kept, firstLoaded?_concat h, Option.or_assoc]

theorem kept_concat_of_some (h : Interleaving events) (hk : c.kept events s = some k) :
    c.kept (events ++ [e]) s = some k := by
  simp [kept_concat h, hk]

end Cache

/-! ## The invariant -/

/-- Why an access is answered as it is. -/
inductive Fate (c : Cache) (events : List CacheEvent) : AccessAnswer → Prop where
  | found {a : Nat} {s : Scope} {k : Collection} (hk : c.kept events s = some k) :
      Fate c events ⟨a, s, some k, false⟩
  | failed {a : Nat} {s : Scope} (hend : endOf? events a = some none) :
      Fate c events ⟨a, s, none, true⟩
  | loaded {a : Nat} {s : Scope} {ds : List Descriptor} {k : Collection}
      (hend : endOf? events a = some (some ds)) (hk : c.kept events s = some k) :
      Fate c events ⟨a, s, some k, true⟩

/-- An answer that was right stays right. -/
theorem Fate.concat {c : Cache} {events : List CacheEvent} {x : AccessAnswer}
    (hevents : Interleaving events) (h : Fate c events x) (e : CacheEvent) :
    Fate c (events ++ [e]) x := by
  cases h with
  | found hk => exact .found (Cache.kept_concat_of_some hevents hk)
  | failed hend => exact .failed (endOf?_append_of_some hend)
  | loaded hend hk =>
    exact .loaded (endOf?_append_of_some hend) (Cache.kept_concat_of_some hevents hk)

namespace Traffic

/-- The cache holds what is kept, and every answer has its reason. -/
structure Keeps (c : Cache) (events : List CacheEvent) (t : Traffic) : Prop where
  entry : ∀ s, t.cache.get? s = c.kept events s
  fates : ∀ x ∈ t.answers, Fate c events x

namespace Keeps

variable {c : Cache} {events : List CacheEvent} {t : Traffic} {a : Nat} {s : Scope}

theorem fates_answer (h : Keeps c events t) (hevents : Interleaving events) {e : CacheEvent}
    {x : AccessAnswer} (hx : Fate c (events ++ [e]) x) :
    ∀ y ∈ t.answers ++ [x], Fate c (events ++ [e]) y := by
  intro y hy
  rcases List.mem_append.1 hy with hy | hy
  · exact (h.fates y hy).concat hevents e
  · exact List.mem_singleton.1 hy ▸ hx

theorem start (h : Keeps c events t) (hevents : Interleaving events) :
    Keeps c (events ++ [.start a s]) (t.step (.start a s)) := by
  have hkept : ∀ s', c.kept (events ++ [.start a s]) s' = c.kept events s' := by
    intro s'
    simp [Cache.kept_concat hevents, loadedFor?]
  have hspec := step_spec t (.start a s)
  generalize t.step (.start a s) = t' at hspec
  cases hspec with
  | found hstored =>
    -- what is found has been kept, so the answer is right
    refine ⟨fun s' => (h.entry s').trans (hkept s').symm, h.fates_answer hevents (.found ?_)⟩
    rw [hkept, ← h.entry, hstored]
  | started hstored =>
    exact ⟨fun s' => (h.entry s').trans (hkept s').symm,
      fun x hx => (h.fates x hx).concat hevents _⟩

/-- The end of a load that is not under way brings nothing: its access has been answered at once, so
something was stored by then. -/
theorem kept_of_ignored (h : Keeps c events t) (hevents : Interleaving events)
    (hstands : t.Stands events a) (hopen : endOf? events a = none)
    (hwaiting : t.waiting.lookup a = none) (loaded : Option (List Descriptor)) (s : Scope) :
    c.kept (events ++ [.finish a loaded]) s = c.kept events s := by
  rw [Cache.kept_concat hevents]
  cases hstands with
  | unknown hscope => cases loaded <;> simp [loadedFor?, hscope]
  | underWay _ _ hwaiting' => simp [hwaiting'] at hwaiting
  | @answered x hscope _ hanswers =>
    obtain ⟨hx, rfl⟩ := mem_answersTo.1 (hanswers ▸ List.mem_singleton_self x)
    -- the load has not ended before, so only an answer at the start is left
    cases h.fates x hx with
    | failed hend => simp [hend] at hopen
    | loaded hend => simp [hend] at hopen
    | @found a s' k hk =>
      by_cases hs : s' = s
      · simp [← hs, hk]
      · cases loaded <;> simp [loadedFor?, hscope, hs]

theorem finish (h : Keeps c events t) (hevents : Interleaving events)
    (hstands : t.Stands events a) (hopen : endOf? events a = none)
    (loaded : Option (List Descriptor)) :
    Keeps c (events ++ [.finish a loaded]) (t.step (.finish a loaded)) := by
  have hend : endOf? (events ++ [.finish a loaded]) a = some loaded := by
    simp [endOf?_append, hopen]
  have hspec := step_spec t (.finish a loaded)
  generalize t.step (.finish a loaded) = t' at hspec
  cases hspec with
  | ignored hwaiting =>
    refine ⟨fun s => ?_, fun x hx => (h.fates x hx).concat hevents _⟩
    rw [h.kept_of_ignored hevents hstands hopen hwaiting, h.entry]
  | failed hwaiting =>
    refine ⟨fun s => ?_, h.fates_answer hevents (.failed hend)⟩
    simp [Cache.kept_concat hevents, loadedFor?, h.entry]
  | @stored _ s₀ ds hwaiting hstored =>
    -- nothing has been kept for the scope, so this load is its first
    have hscope : scopeOf? events a = some s₀ := hstands.scope_of_waiting hwaiting
    have hnone : c.kept events s₀ = none := (h.entry s₀).symm.trans hstored
    have hkept : ∀ s, c.kept (events ++ [.finish a (some ds)]) s =
        if s = s₀ then some ⟨ds⟩ else c.kept events s := by
      intro s
      by_cases hs : s = s₀
      · simp [Cache.kept_concat hevents, loadedFor?, hs, hnone, hscope]
      · simp [Cache.kept_concat hevents, loadedFor?, hs, hscope, Ne.symm hs]
    refine ⟨fun s => ?_, h.fates_answer hevents (.loaded hend (by simp [hkept]))⟩
    rw [hkept, ← h.entry]
    exact Cache.get?_stored ..
  | @adopted _ s₀ ds k hwaiting hstored =>
    -- an earlier load has decided, and what this one brings is lost
    have hscope : scopeOf? events a = some s₀ := hstands.scope_of_waiting hwaiting
    have hk : c.kept events s₀ = some k := (h.entry s₀).symm.trans hstored
    have hkept : ∀ s, c.kept (events ++ [.finish a (some ds)]) s = c.kept events s := by
      intro s
      by_cases hs : s = s₀
      · simp [Cache.kept_concat hevents, hs, hk]
      · simp [Cache.kept_concat hevents, loadedFor?, hscope, Ne.symm hs]
    refine ⟨fun s => (h.entry s).trans (hkept s).symm, ?_⟩
    exact h.fates_answer hevents (.loaded hend (by rw [hkept, hk]))

end Keeps

end Traffic

theorem Interleaving.keeps {events : List CacheEvent} (h : Interleaving events)
    (hkeep : ∀ d, .drop d ∉ events) (c : Cache) : (c.serve events).Keeps c events := by
  induction h with
  | nil => exact ⟨fun s => by simp [Cache.serve, Traffic.run, Traffic.ofCache, Cache.kept,
      firstLoaded?], nofun⟩
  | start h hnew ih =>
    rw [Cache.serve_concat]
    exact (ih fun d hd => hkeep d (List.mem_append_left _ hd)).start h
  | finish h hstarted hopen ih =>
    rw [Cache.serve_concat]
    exact (ih fun d hd => hkeep d (List.mem_append_left _ hd)).finish h (h.stands c _) hopen _
  | @drop events d h => exact absurd (List.mem_append_right events List.mem_cons_self) (hkeep d)

/-! ## The first load decides -/

/-- What holds of a cache and of the accesses to it after events without a drop. -/
structure FirstLoadDecides (c : Cache) (events : List CacheEvent) : Prop where
  /-- The collection of a scope is the one that was stored before, or else that of the first load. -/
  entry : ∀ s, (c.serve events).cache.get? s = c.kept events s
  /-- Every access that returns a collection returns that of its scope. -/
  returned : ∀ x ∈ (c.serve events).answers, ∀ k, x.returned = some k →
    c.kept events x.scope = some k
  /-- An access fails if, and only if, its own load fails. -/
  failed : ∀ x ∈ (c.serve events).answers,
    x.returned = none ↔ x.loaderCalled = true ∧ endOf? events x.access = some none
  /-- An access whose load has ended has been answered, and no access is answered twice. -/
  answered : ∀ a, ((endOf? events a).isSome → (c.serve events).answersTo a ≠ []) ∧
    ((c.serve events).answersTo a).length ≤ 1
  /-- An access to a scope that has a collection is answered with it and starts no load. -/
  found : ∀ earlier a s later k, events = earlier ++ .start a s :: later →
    (c.serve earlier).cache.get? s = some k →
      (c.serve events).answersTo a = [⟨a, s, some k, false⟩]
  /-- An access to a scope that has none starts a load. -/
  loads : ∀ earlier a s later, events = earlier ++ .start a s :: later →
    (c.serve earlier).cache.get? s = none →
      ∀ x ∈ (c.serve events).answersTo a, x.loaderCalled = true
  /-- A stored collection is neither replaced nor removed. -/
  stays : ∀ earlier later s k, events = earlier ++ later →
    (c.serve earlier).cache.get? s = some k → (c.serve events).cache.get? s = some k
  /-- Only a load for the scope itself changes what is stored for it, and only by ending with
  descriptors; a load that fails changes nothing at all. -/
  changes : ∀ earlier e later, events = earlier ++ e :: later →
    (∀ s, (c.serve (earlier ++ [e])).cache.get? s ≠ (c.serve earlier).cache.get? s →
      ∃ a ds, e = .finish a (some ds) ∧ scopeOf? earlier a = some s) ∧
    ∀ a, e = .finish a none → (c.serve (earlier ++ [e])).cache = (c.serve earlier).cache

namespace Traffic

theorem answers_prefix_step (t : Traffic) (e : CacheEvent) : t.answers <+: (t.step e).answers := by
  have hspec := step_spec t e
  generalize t.step e = t' at hspec
  cases hspec with
  | found hstored => exact List.prefix_append _ _
  | started hstored => exact List.prefix_rfl
  | ignored hwaiting => exact List.prefix_rfl
  | failed hwaiting => exact List.prefix_append _ _
  | stored hwaiting hstored => exact List.prefix_append _ _
  | adopted hwaiting hstored => exact List.prefix_append _ _
  | dropped => exact List.prefix_rfl

/-- Answers are never taken back. -/
theorem answers_prefix_run (t : Traffic) (events : List CacheEvent) :
    t.answers <+: (t.run events).answers := by
  induction events generalizing t with
  | nil => exact List.prefix_rfl
  | cons e rest ih => exact (answers_prefix_step t e).trans (ih (t.step e))

theorem step_start_of_some {t : Traffic} {a : Nat} {s : Scope} {k : Collection}
    (h : t.cache.get? s = some k) : t.step (.start a s) = t.answer ⟨a, s, some k, false⟩ := by
  simp [step, h]

/-- An access is answered at its start, or else a load was started for it. -/
theorem mem_answers_step {t : Traffic} {e : CacheEvent} {x : AccessAnswer}
    (hx : x ∈ (t.step e).answers) :
    x ∈ t.answers ∨ x.loaderCalled = true ∨
      ∃ k, e = .start x.access x.scope ∧ t.cache.get? x.scope = some k := by
  have hspec := step_spec t e
  generalize t.step e = t' at hspec hx
  cases hspec with
  | started hstored => exact .inl hx
  | ignored hwaiting => exact .inl hx
  | dropped => exact .inl hx
  | found hstored =>
    rcases List.mem_append.1 hx with hx | hx
    · exact .inl hx
    · obtain rfl := List.mem_singleton.1 hx
      exact .inr (.inr ⟨_, rfl, hstored⟩)
  | failed hwaiting =>
    exact (List.mem_append.1 hx).imp_right fun hx => .inl (by rw [List.mem_singleton.1 hx])
  | stored hwaiting hstored =>
    exact (List.mem_append.1 hx).imp_right fun hx => .inl (by rw [List.mem_singleton.1 hx])
  | adopted hwaiting hstored =>
    exact (List.mem_append.1 hx).imp_right fun hx => .inl (by rw [List.mem_singleton.1 hx])

theorem cache_step_failed (t : Traffic) (a : Nat) : (t.step (.finish a none)).cache = t.cache := by
  have hspec := step_spec t (.finish a none)
  generalize t.step (.finish a none) = t' at hspec
  cases hspec <;> rfl

end Traffic

namespace Interleaving

variable {events earlier later : List CacheEvent} {c : Cache} {s : Scope} {k : Collection}

theorem answersTo_of_found {a : Nat} (h : Interleaving (earlier ++ .start a s :: later))
    (hk : (c.serve earlier).cache.get? s = some k) :
    (c.serve (earlier ++ .start a s :: later)).answersTo a = [⟨a, s, some k, false⟩] := by
  -- the answer is given at the start, and an access has no second one
  have hgiven : ⟨a, s, some k, false⟩ ∈ (c.serve (earlier ++ .start a s :: later)).answersTo a := by
    rw [← List.singleton_append, ← List.append_assoc, Cache.serve_append, Cache.serve_concat,
      Traffic.step_start_of_some hk, Traffic.mem_answersTo]
    exact ⟨(Traffic.answers_prefix_run _ later).subset (List.mem_append_right _ List.mem_cons_self),
      rfl⟩
  cases h.stands c a with
  | unknown _ _ hanswers => exact absurd hgiven (by rw [Cache.serve, hanswers]; simp)
  | underWay _ _ _ hanswers => exact absurd hgiven (by rw [Cache.serve, hanswers]; simp)
  | answered _ _ hanswers =>
    rw [Cache.serve, hanswers] at hgiven ⊢
    rw [List.mem_singleton.1 hgiven]

/-- An access that finds nothing is answered through its load. -/
theorem loaderCalled_of_none {x : AccessAnswer}
    (h : Interleaving (earlier ++ [.start x.access s] ++ later))
    (hnone : (c.serve earlier).cache.get? s = none)
    (hx : x ∈ (c.serve (earlier ++ [.start x.access s] ++ later)).answers) :
    x.loaderCalled = true := by
  induction later using List.reverseRecOn with
  | nil =>
    rw [List.append_nil] at h hx
    rw [Cache.serve_concat] at hx
    rcases Traffic.mem_answers_step hx with hx | hcalled | ⟨k, he, hk⟩
    · -- the access has not started before
      have hnew : scopeOf? earlier x.access = none := h.scopeOf?_eq_none
      cases (h.of_prefix (List.prefix_append _ _)).stands c x.access with
      | underWay hscope => simp [hscope] at hnew
      | answered hscope => simp [hscope] at hnew
      | unknown _ _ hanswers =>
        have hmem := Traffic.mem_answersTo.2 ⟨hx, rfl⟩
        rw [Cache.serve, hanswers] at hmem
        cases hmem
    · exact hcalled
    · cases he
      rw [hnone] at hk
      cases hk
  | append_singleton later e ih =>
    rw [← List.append_assoc] at h hx
    rw [Cache.serve_concat] at hx
    rcases Traffic.mem_answers_step hx with hx | hcalled | ⟨k, rfl, -⟩
    · exact ih (h.of_prefix (List.prefix_append _ _)) hx
    · exact hcalled
    · -- the access does not start again
      have hnew := h.scopeOf?_eq_none
      rw [scopeOf?_append, scopeOf?_append, Option.or_eq_none_iff, Option.or_eq_none_iff] at hnew
      simp at hnew

/-- The entry of a scope changes only when a load for the scope ends with descriptors. -/
theorem finish_of_changed {e : CacheEvent} (h : Interleaving (earlier ++ [e]))
    (hkeep : ∀ d, .drop d ∉ earlier ++ [e])
    (hchange : (c.serve (earlier ++ [e])).cache.get? s ≠ (c.serve earlier).cache.get? s) :
    ∃ a ds, e = .finish a (some ds) ∧ scopeOf? earlier a = some s := by
  have hearlier : Interleaving earlier := h.of_prefix (List.prefix_append _ _)
  rw [(h.keeps hkeep c).entry, Cache.kept_concat hearlier,
    (hearlier.keeps (fun d hd => hkeep d (List.mem_append_left _ hd)) c).entry] at hchange
  cases hloaded : loadedFor? earlier s e with
  | none => simp [hloaded] at hchange
  | some k =>
    -- only such an event brings a collection for the scope
    cases e with
    | start a t => simp [loadedFor?] at hloaded
    | drop d => simp [loadedFor?] at hloaded
    | finish a loaded =>
      cases loaded with
      | none => simp [loadedFor?] at hloaded
      | some ds =>
        refine ⟨a, ds, rfl, ?_⟩
        simp only [loadedFor?, Option.ite_none_right_eq_some] at hloaded
        exact hloaded.1

theorem stays (h : Interleaving (earlier ++ later)) (hkeep : ∀ d, .drop d ∉ earlier ++ later)
    (hk : (c.serve earlier).cache.get? s = some k) :
    (c.serve (earlier ++ later)).cache.get? s = some k := by
  induction later using List.reverseRecOn with
  | nil => rwa [List.append_nil]
  | append_singleton later e ih =>
    rw [← List.append_assoc] at h hkeep ⊢
    have hbefore : Interleaving (earlier ++ later) := h.of_prefix (List.prefix_append _ _)
    have hkeep' : ∀ d, .drop d ∉ earlier ++ later := fun d hd =>
      hkeep d (List.mem_append_left _ hd)
    have hstored := ih hbefore hkeep'
    -- what is stored is what is kept, and that is never given up
    rw [(hbefore.keeps hkeep' c).entry] at hstored
    rw [(h.keeps hkeep c).entry]
    exact Cache.kept_concat_of_some hbefore hstored

end Interleaving

/-- Whatever accesses overlap and however their loads end, the first load of a scope decides, as long
as nothing is dropped. -/
theorem first_load_decides (c : Cache) (events : List CacheEvent) (h : Interleaving events)
    (hkeep : ∀ d, .drop d ∉ events) : FirstLoadDecides c events := by
  have hkeeps := h.keeps hkeep c
  refine ⟨hkeeps.entry, ?_, ?_, ?_, ?_, ?_, ?_, ?_⟩
  · intro x hx k hreturned
    cases hkeeps.fates x hx with
    | found hk => exact hk.trans hreturned
    | failed hend => cases hreturned
    | loaded hend hk => exact hk.trans hreturned
  · intro x hx
    cases hkeeps.fates x hx with
    | found hk => simp
    | failed hend => simp [hend]
    | loaded hend hk => simp [hend]
  · intro a
    cases h.stands c a with
    | unknown hscope _ hanswers => simp [h.endOf?_eq_none hscope, Cache.serve, hanswers]
    | underWay _ hend _ hanswers => simp [hend, Cache.serve, hanswers]
    | answered _ _ hanswers => simp [Cache.serve, hanswers]
  · rintro earlier a s later k rfl hk
    exact h.answersTo_of_found hk
  · rintro earlier a s later rfl hnone x hx
    have hsplit : earlier ++ .start a s :: later = earlier ++ [.start a s] ++ later := by simp
    rw [hsplit] at h hx
    obtain ⟨hx, rfl⟩ := Traffic.mem_answersTo.1 hx
    exact h.loaderCalled_of_none hnone hx
  · rintro earlier later s k rfl hk
    exact h.stays hkeep hk
  · rintro earlier e later rfl
    have hsplit : earlier ++ e :: later = earlier ++ [e] ++ later := by simp
    rw [hsplit] at h hkeep
    refine ⟨fun s hchange => ?_, ?_⟩
    · exact (h.of_prefix (List.prefix_append _ _)).finish_of_changed
        (fun d hd => hkeep d (List.mem_append_left _ hd)) hchange
    · rintro a rfl
      rw [Cache.serve_concat]
      exact Traffic.cache_step_failed _ a

/-- Loads for two scopes that overlap: one fails, one is late, and the first to end brings nothing. -/
def overlap : List CacheEvent :=
  [.start 0 .cart, .start 1 .cart, .start 2 .product, .finish 1 none, .start 3 .cart,
    .finish 3 (some []), .finish 2 (some [.composite .product]), .finish 0 (some [.composite .cart]),
    .start 4 .cart]

theorem first_load_decides_overlap :
    Interleaving overlap ∧ (∀ d, .drop d ∉ overlap) ∧ FirstLoadDecides .empty overlap := by
  have hstarts : Interleaving [.start 0 .cart, .start 1 .cart, .start 2 .product] :=
    .start (.start (.start .nil rfl) rfl) rfl
  have hevents : Interleaving overlap :=
    .start (.finish (.finish (.finish (.start (.finish hstarts rfl rfl) rfl) rfl rfl) rfl rfl)
      rfl rfl) rfl
  have hkeep : ∀ d, .drop d ∉ overlap := by simp [overlap]
  exact ⟨hevents, hkeep, first_load_decides .empty overlap hevents hkeep⟩

end Rulebook
