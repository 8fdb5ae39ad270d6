import Rulebook.Scope
import Rulebook.ValueKind

/-!
# Descriptors

A descriptor defines one kind of condition within a scope: the kind of its values, the operators it
allows, how an editor offers its values, and the processor that decides it.
-/

namespace Rulebook

/-- One of the fixed values that an editor offers. -/
structure SelectOption where
  value : String
  text : String
  hint : Option String
  deriving DecidableEq, Repr

/-- How an editor offers the values of a condition. -/
inductive SelectList where
  /-- The options are known. -/
  | fixed (options : List SelectOption) (multiple : Bool)
  /-- The options come from the provider of a data source. -/
  | remote (dataSource : String) (multiple : Bool)
  deriving DecidableEq, Repr

/-- A kind of condition. -/
structure Descriptor where
  scope : Scope
  name : String
  displayName : Option String
  /-- The category that editors list it under. -/
  groupKey : Option String
  kind : ValueKind
  operators : List Operator
  selectList : Option SelectList
  /-- The key of the processor that decides conditions of this kind. -/
  processor : String
  metadata : List (String × Value)
  /-- False for the stand-in of a kind that is no longer known. -/
  isValid : Bool
  deriving Repr, Inhabited

namespace Descriptor

/-- The processor key of groups. -/
def compositeProcessor : String := "composite"

/-- The processor key of conditions whose kind is no longer known. -/
def invalidProcessor : String := "invalid"

/-- The descriptor stands for a group. -/
def isComposite (d : Descriptor) : Bool := d.processor == compositeProcessor

/-- The descriptor that every group of a scope carries. -/
def composite (scope : Scope) : Descriptor where
  scope := scope
  name := "composite"
  displayName := none
  groupKey := none
  kind := .boolean
  operators := ValueKind.boolean.operators
  selectList := none
  processor := compositeProcessor
  metadata := []
  isValid := true

/-- The stand-in for a kind of condition that is no longer known. It keeps the stored row visible,
so that it can be deleted. -/
def unknown (scope : Scope) (name : Option String) : Descriptor where
  scope := scope
  name := match name with
    | none => "unknown"
    | some n => if n.isEmpty then "unknown" else n
  displayName := name
  groupKey := none
  kind := .string
  operators := ValueKind.string.operators
  selectList := none
  processor := invalidProcessor
  metadata := []
  isValid := false

/-- The value of an item of metadata. -/
def metadata? (d : Descriptor) (key : String) : Option Value := d.metadata.lookup key

@[simp] theorem isComposite_composite (s : Scope) : (composite s).isComposite = true := rfl

@[simp] theorem isValid_unknown (s : Scope) (n : Option String) : (unknown s n).isValid = false := rfl

end Descriptor

end Rulebook
