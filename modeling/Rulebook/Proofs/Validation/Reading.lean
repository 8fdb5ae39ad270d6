import Mathlib
import Rulebook.Expr.Reading

/-!
# Readings that succeed

A reading of several parts succeeds exactly if each of its parts does. What is read from a named
choice, from an optional value or from a list of items is what was written there.
-/

namespace Rulebook

/-! ## Names -/

/-- Where each name finds its own bearer, a name finds nothing but that. -/
theorem find?_name_eq_some_iff {α : Type} {all : List α} {name : α → String}
    (hall : ∀ a, (all.find? fun b => name b == name a) = some a) {s : String} {a : α} :
    (all.find? fun b => name b == s) = some a ↔ s = name a := by
  constructor
  · intro h
    have hname := List.find?_some h
    exact (eq_of_beq hname).symm
  · rintro rfl
    exact hall a

theorem Connective.ofName?_eq_some_iff {s : String} {k : Connective} :
    ofName? s = Option.some k ↔ s = k.name := by
  apply find?_name_eq_some_iff
  intro k
  cases k <;> decide

theorem Operator.ofName?_eq_some_iff {s : String} {o : Operator} :
    ofName? s = some o ↔ s = o.name := by
  apply find?_name_eq_some_iff
  intro o
  cases o <;> decide

theorem ValueKind.ofName?_eq_some_iff {s : String} {k : ValueKind} :
    ofName? s = some k ↔ s = k.name := by
  apply find?_name_eq_some_iff
  intro k
  cases k <;> decide

namespace Checked

variable {α β : Type}

/-! ## Parts -/

theorem seq_eq_ok {f : Checked (α → β)} {x : Checked α} {b : β} (h : f <*> x = .ok b) :
    ∃ g a, f = .ok g ∧ x = .ok a ∧ g a = b := by
  cases f <;> cases x <;> cases h
  exact ⟨_, _, rfl, rfl, rfl⟩

theorem map_eq_ok {f : α → β} {x : Checked α} {b : β} (h : f <$> x = .ok b) :
    ∃ a, x = .ok a ∧ f a = b := by
  obtain ⟨g, a, hg, ha, hb⟩ := seq_eq_ok h
  cases hg
  exact ⟨a, ha, hb⟩

theorem map_of_ok (f : α → β) {x : Checked α} {a : α} (h : x = .ok a) : f <$> x = .ok (f a) := by
  rw [h]
  rfl

theorem seq_of_ok {f : Checked (α → β)} {g : α → β} {x : Checked α} {a : α} (hf : f = .ok g)
    (hx : x = .ok a) : f <*> x = .ok (g a) := by
  rw [hf, hx]
  rfl

theorem within_of_ok {step : Step} {x : Checked α} {a : α} (h : x = .ok a) :
    x.within step = .ok a := by
  rw [h]
  rfl

theorem andThen_of_ok {x : Checked α} {f : α → Checked β} {a : α} {b : β} (hx : x = .ok a)
    (hf : f a = .ok b) : x.andThen f = .ok b := by
  rw [hx]
  exact hf

theorem andThen_eq_ok {x : Checked α} {f : α → Checked β} {b : β} (h : x.andThen f = .ok b) :
    ∃ a, x = .ok a ∧ f a = .ok b := by
  cases x with
  | ok a => exact ⟨a, rfl, h⟩
  | issues found => cases h

theorem within_eq_ok {step : Step} {x : Checked α} {a : α} (h : x.within step = .ok a) :
    x = .ok a := by
  cases x with
  | ok a' => exact h
  | issues found => cases h

/-! ## Members and items -/

section Members

variable {name : String} {read : Json → Checked α} {j v : Json} {a default : α}

theorem required_of_member (hmember : j.member? name = some v) (hread : read v = .ok a) :
    required name read j = .ok a := by
  rw [required, hmember]
  simp only [hread, within]

theorem required_eq_ok (h : required name read j = .ok a) :
    ∃ v, j.member? name = some v ∧ read v = .ok a := by
  have hread := within_eq_ok h
  cases hmember : j.member? name with
  | none =>
    rw [hmember] at hread
    cases hread
  | some v =>
    rw [hmember] at hread
    exact ⟨v, rfl, hread⟩

theorem optional_of_member (hmember : j.member? name = some v) (hread : read v = .ok a) :
    optional name default read j = .ok a := by
  rw [optional, hmember]
  simp only [hread, within]

theorem optional_eq_ok (h : optional name default read j = .ok a) :
    (j.member? name = none ∧ a = default) ∨ ∃ v, j.member? name = some v ∧ read v = .ok a := by
  have hread := within_eq_ok h
  cases hmember : j.member? name with
  | none =>
    rw [hmember] at hread
    cases hread
    exact .inl ⟨rfl, rfl⟩
  | some v =>
    rw [hmember] at hread
    exact .inr ⟨v, rfl, hread⟩

theorem nullable_eq_ok (h : nullable read j = .ok (some a)) : read j = .ok a := by
  cases j with
  | null => cases h
  | _ =>
    obtain ⟨_, hread, hsome⟩ := map_eq_ok h
    cases hsome
    exact hread

theorem items_of_written {write : α → Json} {xs : List α} (index : Nat)
    (h : ∀ x ∈ xs, read (write x) = .ok x) : items read index (xs.map write) = .ok xs := by
  induction xs generalizing index with
  | nil => rfl
  | cons x rest ih =>
    rw [List.forall_mem_cons] at h
    rw [List.map_cons, items, h.1, ih (index + 1) h.2]
    rfl

/-- Something is read from a list that holds something. -/
theorem ne_nil_of_items {js : List Json} {index : Nat} {as : List α} (hne : js ≠ [])
    (h : items read index js = .ok as) : as ≠ [] := by
  cases js with
  | nil => exact absurd rfl hne
  | cons j rest =>
    obtain ⟨g, tail, hg, -, rfl⟩ := seq_eq_ok h
    obtain ⟨first, -, rfl⟩ := map_eq_ok hg
    exact List.cons_ne_nil _ _

end Members

/-! ## Scalars -/

theorem choice_of_name {ofName? : String → Option α} {name : String} {a : α}
    (h : ofName? name = some a) : choice ofName? (.text name) = .ok a := by
  rw [choice, h]

theorem operator_of_name (o : Operator) : choice Operator.ofName? (.text o.name) = .ok o :=
  choice_of_name (Operator.ofName?_eq_some_iff.2 rfl)

theorem le_of_longText {least : Nat} {j : Json} {s : String} (h : longText least j = .ok s) :
    least ≤ s.length := by
  obtain ⟨read, -, hread⟩ := andThen_eq_ok h
  split_ifs at hread with hshort
  · cases hread
  · cases hread
    exact Nat.le_of_not_lt hshort

theorem longText_of_le {least : Nat} {s : String} (h : least ≤ s.length) :
    longText least (.text s) = .ok s := by
  rw [longText, text, andThen, if_neg (Nat.not_lt.2 h)]

theorem nullable_text (s : Option String) : nullable text (.ofText? s) = .ok s := by
  cases s <;> rfl

end Checked

end Rulebook
