import Rulebook.Failure

/-!
# The registry of providers

The providers by the scope they serve. A scope is served by the provider registered for it last.
-/

namespace Rulebook

/-- The providers by the scope they serve. -/
structure ProviderRegistry (α : Type) where
  find? : Scope → Option α

namespace ProviderRegistry

variable {α : Type} {r : ProviderRegistry α} {name : String} {s : Scope} {p : α}

/-- The registry in which no scope is served. -/
def empty : ProviderRegistry α := ⟨fun _ => none⟩

/-- Registers the provider of a scope in place of the one before. -/
def register (r : ProviderRegistry α) (s : Scope) (p : α) : ProviderRegistry α :=
  ⟨fun t => if t = s then some p else r.find? t⟩

/-- The registry of providers that are registered one after another. -/
def ofProviders (ps : List (Scope × α)) : ProviderRegistry α :=
  ps.foldl (fun r p => r.register p.1 p.2) empty

/-- The provider of the scope of a name. The name of no scope and a scope without a provider fail
alike. -/
def get (r : ProviderRegistry α) (name : String) : Except RuleError α :=
  match (Scope.ofName? name).bind r.find? with
  | some p => .ok p
  | none => .error (.unknownScope name)

@[simp] theorem find?_empty (t : Scope) : (empty : ProviderRegistry α).find? t = none := rfl

@[simp] theorem find?_register (r : ProviderRegistry α) (s t : Scope) (p : α) :
    (r.register s p).find? t = if t = s then some p else r.find? t := rfl

@[simp] theorem find?_ofProviders_singleton (s t : Scope) (p : α) :
    (ofProviders [(s, p)]).find? t = if t = s then some p else none := by
  simp [ofProviders]

theorem get_of_served (hs : Scope.ofName? name = some s) (hp : r.find? s = some p) :
    r.get name = .ok p := by
  simp [get, hs, hp]

theorem get_of_unserved (h : ∀ s, Scope.ofName? name = some s → r.find? s = none) :
    r.get name = .error (.unknownScope name) := by
  have hnone : (Scope.ofName? name).bind r.find? = none := Option.bind_eq_none_iff.2 h
  rw [get, hnone]

end ProviderRegistry

end Rulebook
