import Rulebook.Descriptor.Cache

/-!
# Overlapping loads

How a descriptor cache behaves when accesses overlap. An access has two parts: the look-up, which
answers at once if something is stored and otherwise starts a load, and the end of that load, which
stores its collection or adopts the one stored in between. Between these parts any other part of any
other access may happen, and so may a drop.
-/

namespace Rulebook

/-- A part of the life of an access, or a drop. Accesses are told apart by numbers. -/
inductive CacheEvent where
  /-- An access looks the scope up. -/
  | start (access : Nat) (scope : Scope)
  /-- The load of an access ends, with descriptors or without. -/
  | finish (access : Nat) (loaded : Option (List Descriptor))
  /-- The collection of one scope is dropped, or of every scope. -/
  | drop (scope : Option Scope)

/-- How an access ended. -/
structure AccessAnswer where
  access : Nat
  scope : Scope
  /-- The collection returned; none if the access failed. -/
  returned : Option Collection
  /-- Whether a load was started for the access. -/
  loaderCalled : Bool

/-- The cache, the accesses whose loads have not ended, and the answers given. -/
structure Traffic where
  cache : Cache
  waiting : List (Nat × Scope)
  answers : List AccessAnswer

namespace Traffic

/-- A cache with no access under way. -/
def ofCache (c : Cache) : Traffic := ⟨c, [], []⟩

/-- Records the end of an access. -/
def answer (t : Traffic) (a : AccessAnswer) : Traffic := { t with answers := t.answers ++ [a] }

/-- The access is no longer under way. -/
def forget (t : Traffic) (access : Nat) : Traffic :=
  { t with waiting := t.waiting.filter fun w => w.1 ≠ access }

/-- One event. The end of a load that is not under way changes nothing. -/
def step (t : Traffic) : CacheEvent → Traffic
  | .start access scope =>
    match t.cache.get? scope with
    | some stored => t.answer ⟨access, scope, some stored, false⟩
    | none => { t with waiting := t.waiting ++ [(access, scope)] }
  | .finish access loaded =>
    match t.waiting.lookup access with
    | none => t
    | some scope =>
      let t := t.forget access
      match loaded with
      | none => t.answer ⟨access, scope, none, true⟩
      | some ds =>
        let (cache, kept) := t.cache.adopt scope ⟨ds⟩
        { t with cache := cache }.answer ⟨access, scope, some kept, true⟩
  | .drop scope => { t with cache := t.cache.drop scope }

/-- A sequence of events. -/
def run (t : Traffic) (events : List CacheEvent) : Traffic := events.foldl step t

end Traffic

/-! ## Rounds -/

/-- A load that is started at once with others: it gives way so many times, and then ends. -/
structure PlannedLoad where
  yields : Nat
  loaded : Option (List Descriptor)

/-- The events of accesses to one scope that all start at once. The loads that give way `k` times
end in round `k`, and in each round the earlier access comes first. -/
def roundEvents (scope : Scope) (plans : List PlannedLoad) : List CacheEvent :=
  let numbered := (List.range plans.length).zip plans
  let finishing (round : Nat) : List CacheEvent :=
    numbered.filterMap fun p => if p.2.yields = round then some (.finish p.1 p.2.loaded) else none
  let first := numbered.flatMap fun p =>
    .start p.1 scope :: (if p.2.yields = 0 then [.finish p.1 p.2.loaded] else [])
  let last := (plans.map (·.yields)).foldl max 0
  first ++ (List.range last).flatMap fun round => finishing (round + 1)

/-- Accesses to one scope that all start at once: the cache afterwards, and the answers in the order
of the accesses. -/
def Cache.accessTogether (c : Cache) (scope : Scope) (plans : List PlannedLoad) :
    Cache × List AccessAnswer :=
  let t := (Traffic.ofCache c).run (roundEvents scope plans)
  (t.cache, (List.range plans.length).filterMap fun i => t.answers.find? fun a => a.access == i)

end Rulebook
