/-!
# Scopes

A scope is the part of the shop that a rule set applies to.
-/

namespace Rulebook

/-- The part of the shop that a rule set applies to. -/
inductive Scope where
  | productAttribute
  | cart
  | customer
  | product
  deriving DecidableEq, Repr, Inhabited

namespace Scope

/-- All scopes. -/
def all : List Scope := [productAttribute, cart, customer, product]

/-- The name under which a scope is stored. -/
def name : Scope → String
  | productAttribute => "product_attribute"
  | cart => "cart"
  | customer => "customer"
  | product => "product"

/-- The scope of a name. -/
def ofName? (s : String) : Option Scope := all.find? fun x => x.name == s

theorem ofName?_name (s : Scope) : ofName? s.name = some s := by cases s <;> decide

end Scope

end Rulebook
