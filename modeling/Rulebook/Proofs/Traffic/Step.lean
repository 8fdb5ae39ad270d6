import Rulebook.Descriptor.Traffic

/-!
# Steps of overlapping accesses

What one event does to a cache and to the accesses under way (`Traffic.Step`), which sequences of
events can happen at all (`Interleaving`), and what every one of them keeps in order
(`Traffic.Stands`): an access is under way from its start until its load ends, and is answered
once, for the scope that it looked up.

Nothing here depends on what the cache holds, so all of it is true also where collections are
dropped.
-/

namespace Rulebook

/-- Taking a key out of a list of pairs affects no other key. -/
theorem lookup_filter_ne {α β : Type} [DecidableEq α] (pairs : List (α × β)) (a b : α) :
    (pairs.filter fun p => p.1 ≠ a).lookup b = if b = a then none else pairs.lookup b := by
  induction pairs with
  | nil => simp
  | cons p rest ih =>
    obtain ⟨key, value⟩ := p
    by_cases hkey : key = a
    · -- the pair is taken out, and its key is not asked for unless it is the one taken out
      subst hkey
      rw [List.filter_cons_of_neg (by simp), ih]
      by_cases hb : b = key
      · simp [hb]
      · have hne : (b == key) = false := by simpa using hb
        simp [hb, List.lookup_cons, hne]
    · rw [List.filter_cons_of_pos (by simpa using hkey), List.lookup_cons, List.lookup_cons, ih]
      by_cases hb : b = a
      · subst hb
        have hne : (b == key) = false := by simpa using Ne.symm hkey
        simp [hne]
      · simp [hb]

namespace Cache

theorem get?_drop (c : Cache) (d : Option Scope) (s : Scope) :
    (c.drop d).get? s = if d = none ∨ d = some s then none else c.get? s := by
  cases d with
  | none => simp [drop]
  | some t =>
    have hlookup := lookup_filter_ne c.entries t s
    simp only [drop, get?, hlookup, reduceCtorEq, Option.some.injEq, false_or]
    by_cases hts : s = t
    · simp [hts]
    · simp [hts, Ne.symm hts]

theorem adopt_of_some {c : Cache} {s : Scope} {k : Collection} (h : c.get? s = some k)
    (loaded : Collection) : c.adopt s loaded = (c, k) := by
  simp [adopt, h]

theorem adopt_of_none {c : Cache} {s : Scope} (h : c.get? s = none) (loaded : Collection) :
    c.adopt s loaded = (⟨(s, loaded) :: c.entries⟩, loaded) := by
  simp [adopt, h]

theorem get?_stored (c : Cache) (s t : Scope) (k : Collection) :
    Cache.get? ⟨(s, k) :: c.entries⟩ t = if t = s then some k else c.get? t := by
  by_cases hts : t = s
  · simp [get?, hts]
  · have hne : (t == s) = false := by simpa using hts
    simp [get?, List.lookup_cons, hne, hts]

end Cache

/-! ## Steps -/

namespace Traffic

@[simp] theorem cache_answer (t : Traffic) (a : AccessAnswer) : (t.answer a).cache = t.cache := rfl

@[simp] theorem waiting_answer (t : Traffic) (a : AccessAnswer) :
    (t.answer a).waiting = t.waiting := rfl

@[simp] theorem answers_answer (t : Traffic) (a : AccessAnswer) :
    (t.answer a).answers = t.answers ++ [a] := rfl

@[simp] theorem cache_forget (t : Traffic) (a : Nat) : (t.forget a).cache = t.cache := rfl

theorem lookup_forget (t : Traffic) (a b : Nat) :
    (t.forget a).waiting.lookup b = if b = a then none else t.waiting.lookup b :=
  lookup_filter_ne t.waiting a b

/-- All that an event can do. -/
inductive Step (t : Traffic) : CacheEvent → Traffic → Prop where
  /-- Something is stored, and is the answer. -/
  | found {a : Nat} {s : Scope} {k : Collection} (hstored : t.cache.get? s = some k) :
      Step t (.start a s) (t.answer ⟨a, s, some k, false⟩)
  | started {a : Nat} {s : Scope} (hstored : t.cache.get? s = none) :
      Step t (.start a s) { t with waiting := t.waiting ++ [(a, s)] }
  /-- No load is under way for the access. -/
  | ignored {a : Nat} {loaded : Option (List Descriptor)} (hwaiting : t.waiting.lookup a = none) :
      Step t (.finish a loaded) t
  | failed {a : Nat} {s : Scope} (hwaiting : t.waiting.lookup a = some s) :
      Step t (.finish a none) ((t.forget a).answer ⟨a, s, none, true⟩)
  | stored {a : Nat} {s : Scope} {ds : List Descriptor} (hwaiting : t.waiting.lookup a = some s)
      (hstored : t.cache.get? s = none) :
      Step t (.finish a (some ds))
        ({ t.forget a with cache := ⟨(s, ⟨ds⟩) :: t.cache.entries⟩ }.answer ⟨a, s, some ⟨ds⟩, true⟩)
  | adopted {a : Nat} {s : Scope} {ds : List Descriptor} {k : Collection}
      (hwaiting : t.waiting.lookup a = some s) (hstored : t.cache.get? s = some k) :
      Step t (.finish a (some ds)) ((t.forget a).answer ⟨a, s, some k, true⟩)
  | dropped {d : Option Scope} : Step t (.drop d) { t with cache := t.cache.drop d }

theorem step_spec (t : Traffic) (e : CacheEvent) : t.Step e (t.step e) := by
  cases e with
  | start a s =>
    cases hstored : t.cache.get? s with
    | some k =>
      rw [show t.step (.start a s) = t.answer ⟨a, s, some k, false⟩ by simp [step, hstored]]
      exact .found hstored
    | none =>
      rw [show t.step (.start a s) = { t with waiting := t.waiting ++ [(a, s)] } by
        simp [step, hstored]]
      exact .started hstored
  | finish a loaded =>
    cases hwaiting : t.waiting.lookup a with
    | none =>
      rw [show t.step (.finish a loaded) = t by simp [step, hwaiting]]
      exact .ignored hwaiting
    | some s =>
      cases loaded with
      | none =>
        rw [show t.step (.finish a none) = (t.forget a).answer ⟨a, s, none, true⟩ by
          simp [step, hwaiting]]
        exact .failed hwaiting
      | some ds =>
        cases hstored : t.cache.get? s with
        | none =>
          rw [show t.step (.finish a (some ds)) =
              { t.forget a with cache := ⟨(s, ⟨ds⟩) :: t.cache.entries⟩ }.answer
                ⟨a, s, some ⟨ds⟩, true⟩ by
            simp [step, hwaiting, Cache.adopt_of_none hstored]]
          exact .stored hwaiting hstored
        | some k =>
          rw [show t.step (.finish a (some ds)) = (t.forget a).answer ⟨a, s, some k, true⟩ by
            simp [step, hwaiting, Cache.adopt_of_some hstored]
            rfl]
          exact .adopted hwaiting hstored
  | drop d => exact .dropped

theorem run_append (t : Traffic) (earlier later : List CacheEvent) :
    t.run (earlier ++ later) = (t.run earlier).run later :=
  List.foldl_append

theorem run_concat (t : Traffic) (events : List CacheEvent) (e : CacheEvent) :
    t.run (events ++ [e]) = (t.run events).step e :=
  run_append t events [e]

end Traffic

/-! ## Interleavings -/

/-- The scope that an access looks up. -/
def scopeOf? (events : List CacheEvent) (access : Nat) : Option Scope :=
  events.findSome? fun
    | .start a s => if a = access then some s else none
    | _ => none

/-- How the load of an access ends: with descriptors or without. -/
def endOf? (events : List CacheEvent) (access : Nat) : Option (Option (List Descriptor)) :=
  events.findSome? fun
    | .finish a loaded => if a = access then some loaded else none
    | _ => none

/-- The sequences of events that can happen: each access has a number of its own, and its load ends
after it has started, and once. -/
inductive Interleaving : List CacheEvent → Prop where
  | nil : Interleaving []
  | start {events : List CacheEvent} {a : Nat} {s : Scope} (h : Interleaving events)
      (hnew : scopeOf? events a = none) : Interleaving (events ++ [.start a s])
  | finish {events : List CacheEvent} {a : Nat} {loaded : Option (List Descriptor)}
      (h : Interleaving events) (hstarted : (scopeOf? events a).isSome)
      (hopen : endOf? events a = none) : Interleaving (events ++ [.finish a loaded])
  | drop {events : List CacheEvent} {d : Option Scope} (h : Interleaving events) :
      Interleaving (events ++ [.drop d])

section Events

variable {events earlier later : List CacheEvent} {a b : Nat} {s : Scope}

theorem scopeOf?_append (earlier later : List CacheEvent) (a : Nat) :
    scopeOf? (earlier ++ later) a = (scopeOf? earlier a).or (scopeOf? later a) :=
  List.findSome?_append

theorem endOf?_append (earlier later : List CacheEvent) (a : Nat) :
    endOf? (earlier ++ later) a = (endOf? earlier a).or (endOf? later a) :=
  List.findSome?_append

theorem scopeOf?_append_of_some (h : scopeOf? earlier a = some s) :
    scopeOf? (earlier ++ later) a = some s := by
  simp [scopeOf?_append, h]

theorem endOf?_append_of_some {loaded : Option (List Descriptor)}
    (h : endOf? earlier a = some loaded) : endOf? (earlier ++ later) a = some loaded := by
  simp [endOf?_append, h]

@[simp] theorem scopeOf?_start : scopeOf? [.start a s] b = if a = b then some s else none := by
  by_cases hab : a = b <;> simp [scopeOf?, hab]

@[simp] theorem scopeOf?_finish {loaded : Option (List Descriptor)} :
    scopeOf? [.finish a loaded] b = none := rfl

@[simp] theorem scopeOf?_drop {d : Option Scope} : scopeOf? [.drop d] b = none := rfl

@[simp] theorem endOf?_start : endOf? [.start a s] b = none := rfl

@[simp] theorem endOf?_finish {loaded : Option (List Descriptor)} :
    endOf? [.finish a loaded] b = if a = b then some loaded else none := by
  by_cases hab : a = b <;> simp [endOf?, hab]

@[simp] theorem endOf?_drop {d : Option Scope} : endOf? [.drop d] b = none := rfl

theorem Interleaving.of_prefix (h : Interleaving events) (hearlier : earlier <+: events) :
    Interleaving earlier := by
  -- a prefix is all of the events, or one of those before the last
  induction h with
  | nil =>
    rw [List.prefix_nil.1 hearlier]
    exact .nil
  | start h hnew ih =>
    rcases List.prefix_concat_iff.1 hearlier with rfl | hearlier
    · exact .start h hnew
    · exact ih hearlier
  | finish h hstarted hopen ih =>
    rcases List.prefix_concat_iff.1 hearlier with rfl | hearlier
    · exact .finish h hstarted hopen
    · exact ih hearlier
  | drop h ih =>
    rcases List.prefix_concat_iff.1 hearlier with rfl | hearlier
    · exact .drop h
    · exact ih hearlier

/-- An access starts once. -/
theorem Interleaving.scopeOf?_eq_none (h : Interleaving (events ++ [.start a s])) :
    scopeOf? events a = none := by
  -- the last event tells by which rule the list has been built
  generalize hall : events ++ [.start a s] = all at h
  cases h with
  | nil => simp at hall
  | start h hnew =>
    obtain ⟨rfl, he⟩ := List.append_inj' hall rfl
    cases he
    exact hnew
  | finish h hstarted hopen => simpa using (List.append_inj' hall rfl).2
  | drop h => simpa using (List.append_inj' hall rfl).2

end Events

/-! ## Where accesses stand -/

/-- The access that an event is about; a drop is about none. -/
def CacheEvent.access? : CacheEvent → Option Nat
  | .start a _ => some a
  | .finish a _ => some a
  | .drop _ => none

namespace Traffic

/-- The answers given to an access. -/
def answersTo (t : Traffic) (a : Nat) : List AccessAnswer := t.answers.filter fun x => x.access = a

theorem mem_answersTo {t : Traffic} {a : Nat} {x : AccessAnswer} :
    x ∈ t.answersTo a ↔ x ∈ t.answers ∧ x.access = a := by
  simp [answersTo]

theorem answersTo_answer (t : Traffic) (x : AccessAnswer) (a : Nat) :
    (t.answer x).answersTo a = t.answersTo a ++ if x.access = a then [x] else [] := by
  by_cases hx : x.access = a <;> simp [answersTo, hx]

theorem answersTo_answer_of_ne {t : Traffic} {x : AccessAnswer} {a : Nat} (h : x.access ≠ a) :
    (t.answer x).answersTo a = t.answersTo a := by
  simp [answersTo_answer, h]

theorem lookup_append_of_ne {t : Traffic} {a b : Nat} (h : b ≠ a) (s : Scope) :
    (t.waiting ++ [(a, s)]).lookup b = t.waiting.lookup b := by
  have hne : (b == a) = false := by simpa using h
  simp [List.lookup_append, List.lookup_cons, hne]

/-- An event is felt by the access that it is about, and by no other. -/
theorem step_of_other {t : Traffic} {e : CacheEvent} {b : Nat} (h : e.access? ≠ some b) :
    (t.step e).waiting.lookup b = t.waiting.lookup b ∧ (t.step e).answersTo b = t.answersTo b := by
  have hspec := step_spec t e
  generalize t.step e = t' at hspec
  cases hspec with
  | ignored hwaiting => exact ⟨rfl, rfl⟩
  | dropped => exact ⟨rfl, rfl⟩
  | @found a s k hstored =>
    have hab : a ≠ b := fun hab => h (congrArg some hab)
    exact ⟨rfl, answersTo_answer_of_ne hab⟩
  | @started a s hstored =>
    have hab : a ≠ b := fun hab => h (congrArg some hab)
    exact ⟨lookup_append_of_ne hab.symm s, rfl⟩
  | @failed a s hwaiting =>
    have hab : a ≠ b := fun hab => h (congrArg some hab)
    exact ⟨by simp [lookup_forget, hab.symm], answersTo_answer_of_ne hab⟩
  | @stored a s ds hwaiting hstored =>
    have hab : a ≠ b := fun hab => h (congrArg some hab)
    exact ⟨by simp [lookup_forget, hab.symm], answersTo_answer_of_ne hab⟩
  | @adopted a s ds k hwaiting hstored =>
    have hab : a ≠ b := fun hab => h (congrArg some hab)
    exact ⟨by simp [lookup_forget, hab.symm], answersTo_answer_of_ne hab⟩

/-- Where an access stands after events: it has not started, its load is under way, or it has been
answered, once and for the scope that it looked up. -/
inductive Stands (events : List CacheEvent) (t : Traffic) (a : Nat) : Prop where
  | unknown (hscope : scopeOf? events a = none) (hwaiting : t.waiting.lookup a = none)
      (hanswers : t.answersTo a = []) : Stands events t a
  | underWay {s : Scope} (hscope : scopeOf? events a = some s) (hend : endOf? events a = none)
      (hwaiting : t.waiting.lookup a = some s) (hanswers : t.answersTo a = []) : Stands events t a
  | answered {x : AccessAnswer} (hscope : scopeOf? events a = some x.scope)
      (hwaiting : t.waiting.lookup a = none) (hanswers : t.answersTo a = [x]) : Stands events t a

namespace Stands

variable {events : List CacheEvent} {t : Traffic} {e : CacheEvent} {a b : Nat} {s : Scope}

theorem step_of_other (h : Stands events t b) (hb : e.access? ≠ some b) :
    Stands (events ++ [e]) (t.step e) b := by
  -- neither the traffic nor the events say anything new about the access
  obtain ⟨hlookup, hto⟩ := Traffic.step_of_other (t := t) hb
  have hscope : scopeOf? (events ++ [e]) b = scopeOf? events b := by
    cases e with
    | start a s =>
      have hab : a ≠ b := fun hab => hb (congrArg some hab)
      simp [scopeOf?_append, hab]
    | finish a loaded => simp [scopeOf?_append]
    | drop d => simp [scopeOf?_append]
  have hend : endOf? (events ++ [e]) b = endOf? events b := by
    cases e with
    | start a s => simp [endOf?_append]
    | finish a loaded =>
      have hab : a ≠ b := fun hab => hb (congrArg some hab)
      simp [endOf?_append, hab]
    | drop d => simp [endOf?_append]
  cases h with
  | unknown h₁ h₂ h₃ => exact .unknown (hscope ▸ h₁) (hlookup ▸ h₂) (hto ▸ h₃)
  | underWay h₁ h₂ h₃ h₄ => exact .underWay (hscope ▸ h₁) (hend ▸ h₂) (hlookup ▸ h₃) (hto ▸ h₄)
  | answered h₁ h₂ h₃ => exact .answered (hscope ▸ h₁) (hlookup ▸ h₂) (hto ▸ h₃)

theorem scope_of_waiting (h : Stands events t a) (hwaiting : t.waiting.lookup a = some s) :
    scopeOf? events a = some s := by
  cases h with
  | unknown _ hwaiting' => simp [hwaiting'] at hwaiting
  | underWay hscope _ hwaiting' => rw [hscope, ← hwaiting', hwaiting]
  | answered _ hwaiting' => simp [hwaiting'] at hwaiting

theorem endOf?_of_waiting (h : Stands events t a) (hwaiting : t.waiting.lookup a = some s) :
    endOf? events a = none := by
  cases h with
  | unknown _ hwaiting' => simp [hwaiting'] at hwaiting
  | underWay _ hend _ => exact hend
  | answered _ hwaiting' => simp [hwaiting'] at hwaiting

/-- The first answer to an access whose load is not under way settles it. -/
theorem of_answer {x : AccessAnswer} (hscope : scopeOf? events x.access = some x.scope)
    (hwaiting : t.waiting.lookup x.access = none) (hanswers : t.answersTo x.access = []) :
    Stands events (t.answer x) x.access :=
  .answered hscope hwaiting (by simp [answersTo_answer, hanswers])

theorem start (h : Stands events t a) (hend : endOf? events a = none)
    (hnew : scopeOf? events a = none) :
    Stands (events ++ [.start a s]) (t.step (.start a s)) a := by
  have hscope : scopeOf? (events ++ [.start a s]) a = some s := by simp [scopeOf?_append, hnew]
  have hspec := step_spec t (.start a s)
  generalize t.step (.start a s) = t' at hspec
  cases h with
  | underWay hscope' => simp [hscope'] at hnew
  | answered hscope' => simp [hscope'] at hnew
  | unknown _ hwaiting hanswers =>
    -- the access is answered at once, or its load is under way from now on
    cases hspec with
    | @found _ _ k hstored => exact of_answer (x := ⟨a, s, some k, false⟩) hscope hwaiting hanswers
    | started hstored =>
      have hend' : endOf? (events ++ [.start a s]) a = none := by simp [endOf?_append, hend]
      exact .underWay hscope hend' (by simp [List.lookup_append, hwaiting]) hanswers

theorem finish (h : Stands events t a) (loaded : Option (List Descriptor))
    (hstarted : (scopeOf? events a).isSome) :
    Stands (events ++ [.finish a loaded]) (t.step (.finish a loaded)) a := by
  have hscope : scopeOf? (events ++ [.finish a loaded]) a = scopeOf? events a := by
    simp [scopeOf?_append]
  have hforgotten : (t.forget a).waiting.lookup a = none := by simp [lookup_forget]
  have hspec := step_spec t (.finish a loaded)
  generalize t.step (.finish a loaded) = t' at hspec
  cases h with
  | unknown hscope' => simp [hscope'] at hstarted
  | answered hscope' hwaiting hanswers =>
    -- the load is not under way any more
    cases hspec with
    | ignored _ => exact .answered (hscope ▸ hscope') hwaiting hanswers
    | failed hwaiting' => simp [hwaiting] at hwaiting'
    | stored hwaiting' _ => simp [hwaiting] at hwaiting'
    | adopted hwaiting' _ => simp [hwaiting] at hwaiting'
  | underWay hscope' _ hwaiting hanswers =>
    -- the load ends now, and however it does, this is the first answer
    cases hspec with
    | ignored hwaiting' => simp [hwaiting] at hwaiting'
    | failed hwaiting' =>
      rw [hwaiting] at hwaiting'
      exact of_answer (x := ⟨a, _, none, true⟩) (hscope.trans (hscope'.trans hwaiting')) hforgotten
        hanswers
    | @stored _ _ ds hwaiting' _ =>
      rw [hwaiting] at hwaiting'
      exact of_answer (x := ⟨a, _, some ⟨ds⟩, true⟩) (hscope.trans (hscope'.trans hwaiting'))
        hforgotten hanswers
    | @adopted _ _ _ k hwaiting' _ =>
      rw [hwaiting] at hwaiting'
      exact of_answer (x := ⟨a, _, some k, true⟩) (hscope.trans (hscope'.trans hwaiting'))
        hforgotten hanswers

end Stands

end Traffic

/-- A load ends only after its access has started. -/
theorem Interleaving.endOf?_eq_none {events : List CacheEvent} (h : Interleaving events) {a : Nat}
    (ha : scopeOf? events a = none) : endOf? events a = none := by
  induction h with
  | nil => rfl
  | start h hnew ih =>
    rw [scopeOf?_append, Option.or_eq_none_iff] at ha
    simp [endOf?_append, ih ha.1]
  | @finish events b loaded h hstarted hopen ih =>
    rw [scopeOf?_append, Option.or_eq_none_iff] at ha
    have hab : b ≠ a := by
      rintro rfl
      simp [ha.1] at hstarted
    simp [endOf?_append, ih ha.1, hab]
  | drop h ih =>
    rw [scopeOf?_append, Option.or_eq_none_iff] at ha
    simp [endOf?_append, ih ha.1]

/-- Every access stands somewhere after every interleaving. -/
theorem Interleaving.stands {events : List CacheEvent} (h : Interleaving events) (c : Cache)
    (a : Nat) : Traffic.Stands events ((Traffic.ofCache c).run events) a := by
  -- only an event that is about the access itself moves it on
  induction h with
  | nil => exact .unknown rfl rfl rfl
  | @start events b s h hnew ih =>
    rw [Traffic.run_concat]
    by_cases hab : b = a
    · subst hab
      exact ih.start (h.endOf?_eq_none hnew) hnew
    · exact ih.step_of_other fun hb => hab (Option.some.inj hb)
  | @finish events b loaded h hstarted hopen ih =>
    rw [Traffic.run_concat]
    by_cases hab : b = a
    · subst hab
      exact ih.finish loaded hstarted
    · exact ih.step_of_other fun hb => hab (Option.some.inj hb)
  | drop h ih =>
    rw [Traffic.run_concat]
    exact ih.step_of_other nofun

/-- An answer is given for the scope that its access has looked up. -/
theorem Interleaving.scopeOf?_of_mem_answers {events : List CacheEvent} (h : Interleaving events)
    (c : Cache) {x : AccessAnswer} (hx : x ∈ ((Traffic.ofCache c).run events).answers) :
    scopeOf? events x.access = some x.scope := by
  have hto := Traffic.mem_answersTo.2 ⟨hx, rfl⟩
  cases h.stands c x.access with
  | unknown _ _ hanswers =>
    rw [hanswers] at hto
    cases hto
  | underWay _ _ _ hanswers =>
    rw [hanswers] at hto
    cases hto
  | answered hscope _ hanswers =>
    rw [hanswers] at hto
    obtain rfl := List.mem_singleton.1 hto
    exact hscope

end Rulebook
