import Rulebook.Descriptor.Collection

/-!
# The descriptor cache

One collection a scope, loaded on the first access and kept until it is dropped. A collection that
is stored is never replaced: of two loads that overlap, the first to finish is kept and the other
adopts it.
-/

namespace Rulebook

/-- The stored collections, at most one a scope. -/
structure Cache where
  entries : List (Scope × Collection)
  deriving Repr, Inhabited

namespace Cache

/-- The cache that holds nothing. -/
def empty : Cache := ⟨[]⟩

/-- The collection stored for a scope. -/
def get? (c : Cache) (s : Scope) : Option Collection := c.entries.lookup s

/-- Stores a collection unless one is there; answers the collection that is stored then. -/
def adopt (c : Cache) (s : Scope) (loaded : Collection) : Cache × Collection :=
  match c.get? s with
  -- a stored collection is never replaced
  | some stored => (c, stored)
  | none => (⟨(s, loaded) :: c.entries⟩, loaded)

/-- Drops the collection of one scope, or of every scope. -/
def drop (c : Cache) (scope : Option Scope) : Cache :=
  match scope with
  | none => empty
  | some s => ⟨c.entries.filter fun e => e.1 ≠ s⟩

/-- The stored collection of a scope, or else the loaded one, which is then stored. A load that
fails leaves the cache as it was. -/
def getOrLoad {ε : Type} (c : Cache) (s : Scope) (load : Unit → Except ε (List Descriptor)) :
    Cache × Except ε Collection :=
  match c.get? s with
  | some stored => (c, .ok stored)
  | none =>
    match load () with
    | .ok ds => let (c, kept) := c.adopt s ⟨ds⟩; (c, .ok kept)
    | .error e => (c, .error e)

@[simp] theorem get?_empty (s : Scope) : empty.get? s = none := rfl

theorem get?_adopt (c : Cache) (s : Scope) (loaded : Collection) :
    (c.adopt s loaded).1.get? s = some (c.adopt s loaded).2 := by
  unfold adopt
  split
  · assumption
  · simp [get?]

end Cache

end Rulebook
