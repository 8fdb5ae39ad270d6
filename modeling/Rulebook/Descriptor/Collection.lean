import Rulebook.Descriptor.Basic
import Rulebook.Text.Lowercase

/-!
# Collections of descriptors

The descriptors of a scope in their order, found by name in any case. Of several descriptors with
one name the last is found.
-/

namespace Rulebook

/-- The descriptors of a scope. -/
structure Collection where
  descriptors : List Descriptor
  deriving Repr, Inhabited

namespace Collection

/-- Two names are the same but for case. -/
def sameName (a b : String) : Bool := Text.lowercase a == Text.lowercase b

/-- The place of the last descriptor of a name. -/
def position? (c : Collection) (name : String) : Option Nat :=
  (c.descriptors.reverse.findIdx? fun d => sameName d.name name).map
    (c.descriptors.length - 1 - ·)

/-- The last descriptor of a name. The empty name finds nothing. -/
def find? (c : Collection) (name : Option String) : Option Descriptor :=
  match name with
  | none => none
  | some n => if n.isEmpty then none else c.descriptors.reverse.find? fun d => sameName d.name n

/-- Some descriptor has the name. -/
def contains (c : Collection) (name : String) : Bool :=
  c.descriptors.any fun d => sameName d.name name

/-- The names of the descriptors. -/
def names (c : Collection) : List String := c.descriptors.map (·.name)

theorem mem_of_find? {c : Collection} {name : Option String} {d : Descriptor}
    (h : c.find? name = some d) : d ∈ c.descriptors := by
  cases name with
  | none => simp [find?] at h
  | some n =>
    simp only [find?] at h
    split at h
    · simp at h
    · exact List.mem_reverse.1 (List.mem_of_find?_eq_some h)

end Collection

end Rulebook
