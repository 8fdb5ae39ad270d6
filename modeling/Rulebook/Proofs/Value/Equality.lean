import Mathlib
import Rulebook.Value.Order
import Rulebook.Proofs.Time.Moments

/-!
# Equality of values

Equality goes across kinds of numbers and regardless of the order of sets and dictionaries, so it is
no identity. It is not reflexive either: not a number equals nothing. Inside a collection values are
looked for that are the same: equal, or one object (`same_iff`).

Equality and sameness are transitive on all values, and symmetric on `Proper` ones. A value is
proper if no two members of a set in it are the same, and no two keys of a dictionary. The sets and
dictionaries that are made of proper members and entries are proper themselves (`proper_ofMembers`,
`proper_ofEntries`).
-/

namespace Rulebook.Value

open Rulebook.Number Rulebook.Time

/-- What is shown of a value by what is shown of its items, or of its keys and their values. -/
@[elab_as_elim]
theorem items_induction {motive : Value → Prop} (null : motive .null)
    (number : ∀ v place, v.numberPlace? = some place → motive v) (text : ∀ s, motive (.text s))
    (moment : ∀ m, motive (.moment m))
    (list : ∀ items, (∀ x ∈ items, motive x) → motive (.list items))
    (tuple : ∀ items, (∀ x ∈ items, motive x) → motive (.tuple items))
    (set : ∀ items, (∀ x ∈ items, motive x) → motive (.set items))
    (dict : ∀ entries, (∀ e ∈ entries, motive e.1 ∧ motive e.2) → motive (.dict entries))
    (v : Value) : motive v := by
  refine @Value.rec motive (fun items => ∀ x ∈ items, motive x)
    (fun entries => ∀ e ∈ entries, motive e.1 ∧ motive e.2) (fun e => motive e.1 ∧ motive e.2)
    null (fun b => number _ _ rfl) (fun n => number _ _ rfl) (fun d => number _ _ rfl)
    (fun n => number _ _ rfl) text moment list tuple set dict nofun ?_ nofun ?_ (fun _ _ hk hv => ⟨hk, hv⟩) v
  · intro x rest hx hrest
    exact List.forall_mem_cons.2 ⟨hx, hrest⟩
  · intro e rest he hrest
    exact List.forall_mem_cons.2 ⟨he, hrest⟩

/-! ## What equals a value -/

section Equal

variable {x y : Value}

theorem placeOfInt_inj {n m : Int} : placeOfInt n = placeOfInt m ↔ n = m := by
  have hpos : 0 < Double.unitsPerOne := by decide +kernel
  have hunits : (Double.unitsPerOne : Int) ≠ 0 := by omega
  rw [placeOfInt, placeOfInt, Place.at.injEq]
  exact ⟨Int.eq_of_mul_eq_mul_right hunits, fun h => by rw [h]⟩

/-- Two numbers are at the same place of the number line. -/
def SamePlace (p q : Option Place) : Prop := ∃ place, p = some place ∧ q = some place

theorem samePlace_comm {p q : Option Place} : SamePlace p q ↔ SamePlace q p :=
  exists_congr fun _ => and_comm

theorem samePlace_some_iff {place : Place} {q : Option Place} :
    SamePlace (some place) q ↔ q = some place := by
  simp [SamePlace]

theorem sameNumber_iff {n : Int} {d : Double} :
    sameNumber n d = true ↔ SamePlace (some (placeOfInt n)) d.place? := by
  rw [sameNumber, beq_iff_eq, samePlace_some_iff]

theorem sameDouble_iff {a b : Double} : sameDouble a b = true ↔ SamePlace a.place? b.place? := by
  unfold sameDouble SamePlace
  cases a.place? <;> cases b.place? <;> simp
  exact eq_comm

theorem samePlace_ints_iff {n m : Int} :
    SamePlace (some (placeOfInt n)) (some (placeOfInt m)) ↔ n = m := by
  rw [samePlace_some_iff, Option.some.injEq, placeOfInt_inj, eq_comm]

/-- Numbers of whatever kinds are equal at the same place of the number line, and only there. -/
theorem eq_of_places {p q : Option Place} (hx : x.numberPlace? = some p)
    (hy : y.numberPlace? = some q) : x.eq y = true ↔ SamePlace p q := by
  cases x <;> cases hx <;> cases y <;> cases hy <;>
    simp only [eq, beq_iff_eq, sameNumber_iff, sameDouble_iff, samePlace_ints_iff]
  -- truth values are compared as such, which agrees with the numbers they count as
  case bool.refl.bool.refl a b => cases a <;> cases b <;> simp [ofBool]
  case double.refl.bool | double.refl.int => exact samePlace_comm
  all_goals simp [SamePlace]

theorem number_eq_iff {p : Option Place} (hx : x.numberPlace? = some p) :
    x.eq y = true ↔ ∃ q, y.numberPlace? = some q ∧ SamePlace p q := by
  cases hy : y.numberPlace? with
  | some q =>
    rw [eq_of_places hx hy]
    simp only [Option.some.injEq, exists_eq_left']
  | none =>
    -- a number equals numbers only
    have hne : x.eq y = false := by
      cases x <;> cases hx <;> cases y <;> simp_all [eq, numberPlace?]
    simp [hne]

theorem null_eq_iff : null.eq y = true ↔ y = .null := by
  cases y <;> simp [eq]

@[simp] theorem eq_sharedNan (x : Value) (object : Nat) : x.eq (.sharedNan object) = false := by
  cases x <;> simp [eq]

@[simp] theorem sharedNan_eq (object : Nat) (x : Value) : (sharedNan object).eq x = false := by
  cases x <;> simp [eq]

theorem text_eq_iff {s : String} : (text s).eq y = true ↔ y = .text s := by
  cases y <;> simp [eq]
  exact eq_comm

theorem moment_eq_iff {m : Moment} :
    (moment m).eq y = true ↔ ∃ n, y = .moment n ∧ m.same n = true := by
  cases y <;> simp [eq]

theorem eqItems_iff {a b : List Value} :
    eqItems a b = true ↔ List.Forall₂ (fun x y => x.same y = true) a b := by
  induction a generalizing b with
  | nil => cases b <;> simp [eqItems]
  | cons x a ih => cases b <;> simp [eqItems, same, ih]

theorem allAmong_iff {a b : List Value} :
    allAmong a b = true ↔ ∀ x ∈ a, ∃ y ∈ b, x.same y = true := by
  induction a with
  | nil => simp [allAmong]
  | cons x a ih =>
    rw [allAmong, Bool.and_eq_true, ih, List.any_eq_true, List.forall_mem_cons]
    rfl

theorem allEntriesAmong_iff {a b : List (Value × Value)} :
    allEntriesAmong a b = true ↔
      ∀ e ∈ a, ∃ e' ∈ b, e.1.same e'.1 = true ∧ e.2.same e'.2 = true := by
  induction a with
  | nil => simp [allEntriesAmong]
  | cons e a ih =>
    obtain ⟨k, v⟩ := e
    rw [allEntriesAmong, Bool.and_eq_true, ih, List.any_eq_true, List.forall_mem_cons]
    simp only [Bool.and_eq_true, same]

theorem list_eq_iff {a : List Value} : (list a).eq y = true ↔
    ∃ b, y = .list b ∧ List.Forall₂ (fun x y => x.same y = true) a b := by
  cases y <;> simp [eq, eqItems_iff]

theorem tuple_eq_iff {a : List Value} : (tuple a).eq y = true ↔
    ∃ b, y = .tuple b ∧ List.Forall₂ (fun x y => x.same y = true) a b := by
  cases y <;> simp [eq, eqItems_iff]

theorem set_eq_iff {a : List Value} : (set a).eq y = true ↔
    ∃ b, y = .set b ∧ a.length = b.length ∧ ∀ x ∈ a, ∃ y ∈ b, x.same y = true := by
  cases y <;> simp [eq, allAmong_iff]

theorem dict_eq_iff {a : List (Value × Value)} : (dict a).eq y = true ↔
    ∃ b, y = .dict b ∧ a.length = b.length ∧
      ∀ e ∈ a, ∃ e' ∈ b, e.1.same e'.1 = true ∧ e.2.same e'.2 = true := by
  cases y <;> simp [eq, allEntriesAmong_iff]

end Equal

/-! ## The same value -/

section Same

variable {x y z : Value}

theorem eq_of_identical (h : identical x y = true) : x = y := by
  cases x <;> cases y <;> simp_all [identical]

theorem identical_comm (x y : Value) : identical x y = identical y x := by
  cases x <;> cases y <;> simp [identical, eq_comm]

theorem same_iff : x.same y = true ↔ x.eq y = true ∨ identical x y = true := by
  rw [same, Bool.or_eq_true, or_comm]

theorem same_of_eq (h : x.eq y = true) : x.same y = true := same_iff.2 (.inl h)

theorem same_trans_of (ih : ∀ y z, x.eq y = true → y.eq z = true → x.eq z = true)
    (hxy : x.same y = true) (hyz : y.same z = true) : x.same z = true := by
  rcases same_iff.1 hxy with heq | hobject
  · rcases same_iff.1 hyz with heq' | hobject'
    · exact same_of_eq (ih y z heq heq')
    -- where two are one object, the other comparison is about the same values already
    · exact eq_of_identical hobject' ▸ hxy
  · exact eq_of_identical hobject ▸ hyz

theorem same_symm_of (ih : ∀ y, x.eq y = true → y.eq x = true) (h : x.same y = true) :
    y.same x = true := by
  rcases same_iff.1 h with heq | hobject
  · exact same_of_eq (ih y heq)
  · obtain rfl := eq_of_identical hobject
    exact h

end Same

/-! ## Transitivity -/

theorem SamePlace.trans {p q r : Option Place} (hpq : SamePlace p q) (hqr : SamePlace q r) :
    SamePlace p r := by
  obtain ⟨place, rfl, rfl⟩ := hpq
  rwa [samePlace_some_iff] at *

/-- Items are the same as third ones if each of the first equals what its equals do. -/
theorem forall₂_same_trans {a b c : List Value}
    (ih : ∀ x ∈ a, ∀ y z, x.eq y = true → y.eq z = true → x.eq z = true)
    (hab : List.Forall₂ (fun x y => x.same y = true) a b)
    (hbc : List.Forall₂ (fun x y => x.same y = true) b c) :
    List.Forall₂ (fun x y => x.same y = true) a c := by
  induction hab generalizing c with
  | nil => exact hbc
  | cons hxy _ ihrest =>
    cases hbc with
    | cons hyz hrest =>
      rw [List.forall_mem_cons] at ih
      exact .cons (same_trans_of ih.1 hxy hyz) (ihrest ih.2 hrest)

/-- Equality is transitive, on whatever values. -/
theorem eq_trans {x y z : Value} (hxy : x.eq y = true) (hyz : y.eq z = true) : x.eq z = true := by
  induction x using items_induction generalizing y z with
  | null =>
    obtain rfl := null_eq_iff.1 hxy
    exact hyz
  | number x place hx =>
    obtain ⟨q, hy, hpq⟩ := (number_eq_iff hx).1 hxy
    obtain ⟨r, hz, hqr⟩ := (number_eq_iff hy).1 hyz
    exact (number_eq_iff hx).2 ⟨r, hz, hpq.trans hqr⟩
  | text s =>
    obtain rfl := text_eq_iff.1 hxy
    exact hyz
  | moment m =>
    obtain ⟨n, rfl, hmn⟩ := moment_eq_iff.1 hxy
    obtain ⟨k, rfl, hnk⟩ := moment_eq_iff.1 hyz
    exact moment_eq_iff.2 ⟨k, rfl, Moment.same_trans hmn hnk⟩
  | list a ih =>
    obtain ⟨b, rfl, hab⟩ := list_eq_iff.1 hxy
    obtain ⟨c, rfl, hbc⟩ := list_eq_iff.1 hyz
    exact list_eq_iff.2 ⟨c, rfl, forall₂_same_trans (fun x hx y z => ih x hx) hab hbc⟩
  | tuple a ih =>
    obtain ⟨b, rfl, hab⟩ := tuple_eq_iff.1 hxy
    obtain ⟨c, rfl, hbc⟩ := tuple_eq_iff.1 hyz
    exact tuple_eq_iff.2 ⟨c, rfl, forall₂_same_trans (fun x hx y z => ih x hx) hab hbc⟩
  | set a ih =>
    obtain ⟨b, rfl, hlength, hab⟩ := set_eq_iff.1 hxy
    obtain ⟨c, rfl, hlength', hbc⟩ := set_eq_iff.1 hyz
    refine set_eq_iff.2 ⟨c, rfl, hlength.trans hlength', fun x hx => ?_⟩
    obtain ⟨y, hy, hxy⟩ := hab x hx
    obtain ⟨z, hz, hyz⟩ := hbc y hy
    exact ⟨z, hz, same_trans_of (fun y z => ih x hx) hxy hyz⟩
  | dict a ih =>
    obtain ⟨b, rfl, hlength, hab⟩ := dict_eq_iff.1 hxy
    obtain ⟨c, rfl, hlength', hbc⟩ := dict_eq_iff.1 hyz
    refine dict_eq_iff.2 ⟨c, rfl, hlength.trans hlength', fun x hx => ?_⟩
    obtain ⟨y, hy, hkey, hvalue⟩ := hab x hx
    obtain ⟨z, hz, hkey', hvalue'⟩ := hbc y hy
    exact ⟨z, hz, same_trans_of (fun y z => (ih x hx).1) hkey hkey',
      same_trans_of (fun y z => (ih x hx).2) hvalue hvalue'⟩

theorem same_trans {x y z : Value} (hxy : x.same y = true) (hyz : y.same z = true) :
    x.same z = true :=
  same_trans_of (fun _ _ => eq_trans) hxy hyz

/-! ## Symmetry -/

/-- A value whose sets, at any depth, hold no two members that are the same, and whose dictionaries
no two such keys. -/
inductive Proper : Value → Prop where
  | null : Proper .null
  | number {v : Value} {place : Option Place} (h : v.numberPlace? = some place) : Proper v
  | text (s : String) : Proper (.text s)
  | moment (m : Moment) : Proper (.moment m)
  | list {items : List Value} (h : ∀ x ∈ items, Proper x) : Proper (.list items)
  | tuple {items : List Value} (h : ∀ x ∈ items, Proper x) : Proper (.tuple items)
  | set {items : List Value} (h : ∀ x ∈ items, Proper x)
      (happart : items.Pairwise fun x y => x.same y = false) : Proper (.set items)
  | dict {entries : List (Value × Value)} (hkeys : ∀ e ∈ entries, Proper e.1)
      (hvalues : ∀ e ∈ entries, Proper e.2)
      (happart : entries.Pairwise fun e e' => e.1.same e'.1 = false) : Proper (.dict entries)

theorem Proper.of_mem_listed {v x : Value} (h : v.Proper) (hx : x ∈ v.listed) : x.Proper := by
  cases v with
  | null => cases hx
  | list items => cases h with
    | number h => cases h
    | list h => exact h x hx
  | tuple items => cases h with
    | number h => cases h
    | tuple h => exact h x hx
  | set items => cases h with
    | number h => cases h
    | set h => exact h x hx
  | _ => exact List.mem_singleton.1 hx ▸ h

/-- A list of which each element has a partner in a second list, and no two have the same one, is no
longer than the second. -/
theorem length_le_of_partners {α β : Type} {R : α → β → Prop} {a : List α} {b : List β}
    (hpartner : ∀ x ∈ a, ∃ y ∈ b, R x y)
    (happart : a.Pairwise fun x x' => ∀ y, R x y → ¬ R x' y) : a.length ≤ b.length := by
  induction a generalizing b with
  | nil => exact Nat.zero_le _
  | cons x a ih =>
    rw [List.pairwise_cons] at happart
    rw [List.forall_mem_cons] at hpartner
    obtain ⟨⟨y, hy, hxy⟩, hpartner⟩ := hpartner
    obtain ⟨before, after, rfl⟩ := List.append_of_mem hy
    -- the others have their partners in what is left when the first one has taken its own
    have hleft : ∀ x' ∈ a, ∃ y' ∈ before ++ after, R x' y' := by
      intro x' hx'
      obtain ⟨y', hy', hxy'⟩ := hpartner x' hx'
      refine ⟨y', ?_, hxy'⟩
      rw [List.mem_append, List.mem_cons] at hy'
      rw [List.mem_append]
      rcases hy' with hy' | rfl | hy'
      · exact .inl hy'
      · exact absurd hxy' (happart.1 x' hx' _ hxy)
      · exact .inr hy'
    have := ih hleft happart.2
    rw [List.length_append] at this
    rw [List.length_cons, List.length_append, List.length_cons]
    omega

/-- If the second list is as long as the first, nothing in it is left without a partner. -/
theorem exists_partner {α β : Type} {R : α → β → Prop} {a : List α} {b : List β}
    (hlength : a.length = b.length) (hpartner : ∀ x ∈ a, ∃ y ∈ b, R x y)
    (happart : a.Pairwise fun x x' => ∀ y, R x y → ¬ R x' y) : ∀ y ∈ b, ∃ x ∈ a, R x y := by
  intro y hy
  by_contra hlone
  push Not at hlone
  obtain ⟨before, after, rfl⟩ := List.append_of_mem hy
  have hothers : ∀ x ∈ a, ∃ y' ∈ before ++ after, R x y' := by
    intro x hx
    obtain ⟨y', hy', hxy'⟩ := hpartner x hx
    refine ⟨y', ?_, hxy'⟩
    rw [List.mem_append, List.mem_cons, or_left_comm] at hy'
    rcases hy' with rfl | hy'
    · exact absurd hxy' (hlone x hx)
    · exact List.mem_append.2 hy'
  have := length_le_of_partners hothers happart
  rw [List.length_append, List.length_cons] at hlength
  rw [List.length_append] at this
  omega

/-- Members that are apart from each other are not the same as one value. -/
theorem pairwise_no_common {a : List Value}
    (hsymm : ∀ x ∈ a, ∀ y, x.eq y = true → y.eq x = true)
    (happart : a.Pairwise fun x y => x.same y = false) :
    a.Pairwise fun x x' => ∀ y, x.same y = true → ¬ x'.same y = true := by
  refine happart.imp_of_mem fun {x x'} _ hx' hne y hxy hxy' => ?_
  simp [same_trans hxy (same_symm_of (hsymm x' hx') hxy')] at hne

theorem forall₂_same_symm {a b : List Value}
    (ih : ∀ x ∈ a, ∀ y, x.eq y = true → y.eq x = true)
    (h : List.Forall₂ (fun x y => x.same y = true) a b) :
    List.Forall₂ (fun x y => x.same y = true) b a := by
  induction h with
  | nil => exact .nil
  | cons hxy _ ihrest =>
    rw [List.forall_mem_cons] at ih
    exact .cons (same_symm_of ih.1 hxy) (ihrest ih.2)

/-- What equals a proper value is equalled by it. -/
theorem Proper.eq_symm {x y : Value} (hx : x.Proper) (h : x.eq y = true) : y.eq x = true := by
  induction hx generalizing y with
  | null =>
    obtain rfl := null_eq_iff.1 h
    exact h
  | number hx =>
    obtain ⟨q, hy, hsame⟩ := (number_eq_iff hx).1 h
    exact (number_eq_iff hy).2 ⟨_, hx, samePlace_comm.1 hsame⟩
  | text s =>
    obtain rfl := text_eq_iff.1 h
    exact h
  | moment m =>
    obtain ⟨n, rfl, hsame⟩ := moment_eq_iff.1 h
    exact moment_eq_iff.2 ⟨m, rfl, Moment.same_symm hsame⟩
  | list _ ih =>
    obtain ⟨b, rfl, hitems⟩ := list_eq_iff.1 h
    exact list_eq_iff.2 ⟨_, rfl, forall₂_same_symm (fun x hx y => ih x hx) hitems⟩
  | tuple _ ih =>
    obtain ⟨b, rfl, hitems⟩ := tuple_eq_iff.1 h
    exact tuple_eq_iff.2 ⟨_, rfl, forall₂_same_symm (fun x hx y => ih x hx) hitems⟩
  | @set a _ happart ih =>
    obtain ⟨b, rfl, hlength, hpartner⟩ := set_eq_iff.1 h
    -- the members of `a` have different partners, and so many that none of `b` is left over
    have hno := pairwise_no_common (fun x hx y => ih x hx) happart
    refine set_eq_iff.2 ⟨a, rfl, hlength.symm, fun y hy => ?_⟩
    obtain ⟨x, hx, hxy⟩ := exists_partner hlength hpartner hno y hy
    exact ⟨x, hx, same_symm_of (fun y => ih x hx) hxy⟩
  | @dict a _ _ happart ihkeys ihvalues =>
    obtain ⟨b, rfl, hlength, hpartner⟩ := dict_eq_iff.1 h
    -- keys that are apart from each other keep the entries apart, whatever their values
    have hno : a.Pairwise fun e e' => ∀ e'' : Value × Value,
        (e.1.same e''.1 = true ∧ e.2.same e''.2 = true) →
          ¬ (e'.1.same e''.1 = true ∧ e'.2.same e''.2 = true) := by
      refine happart.imp_of_mem fun {e e'} _ he' hne e'' hee hee' => ?_
      simp [same_trans hee.1 (same_symm_of (fun y => ihkeys e' he') hee'.1)] at hne
    refine dict_eq_iff.2 ⟨a, rfl, hlength.symm, fun e' he' => ?_⟩
    obtain ⟨e, he, hkey, hvalue⟩ := exists_partner hlength hpartner hno e' he'
    exact ⟨e, he, same_symm_of (fun y => ihkeys e he) hkey,
      same_symm_of (fun y => ihvalues e he) hvalue⟩

theorem Proper.same_symm {x y : Value} (hx : x.Proper) (h : x.same y = true) : y.same x = true :=
  same_symm_of (fun _ => hx.eq_symm) h

theorem isAmong_iff {x : Value} {items : List Value} :
    x.isAmong items = true ↔ ∃ y ∈ items, x.same y = true := by
  rw [isAmong, List.any_eq_true]

/-- A member that is added is apart from those that are there. -/
theorem proper_addMember {items : List Value} {x : Value} (hset : (set items).Proper)
    (hx : x.Proper) : (set (addMember items x)).Proper := by
  unfold addMember
  split
  · exact hset
  · next hnew =>
    cases hset with
    | number h => cases h
    | set h happart =>
      refine .set (List.forall_mem_append.2 ⟨h, List.forall_mem_singleton.2 hx⟩) ?_
      rw [List.pairwise_append]
      refine ⟨happart, List.pairwise_singleton _ _, fun y hy x' hx' => ?_⟩
      obtain rfl := List.mem_singleton.1 hx'
      rw [Bool.eq_false_iff]
      exact fun hyx => hnew (isAmong_iff.2 ⟨y, hy, (h y hy).same_symm hyx⟩)

theorem proper_ofMembers {items : List Value} (h : ∀ x ∈ items, x.Proper) :
    (ofMembers items).Proper := by
  suffices hmore : ∀ there : List Value, (set there).Proper →
      (set (items.foldl addMember there)).Proper from hmore [] (.set nofun .nil)
  induction items with
  | nil => exact fun there hthere => hthere
  | cons x rest ih =>
    rw [List.forall_mem_cons] at h
    exact fun there hthere => ih h.2 _ (proper_addMember hthere h.1)

section Entries

variable {k v : Value} {entries : List (Value × Value)}

theorem key_of_mem_putEntry {e : Value × Value} (h : e ∈ putEntry k v entries) :
    e.1 = k ∨ ∃ e' ∈ entries, e.1 = e'.1 := by
  induction entries with
  | nil => exact .inl (congrArg Prod.fst (List.mem_singleton.1 h))
  | cons first rest ih =>
    rw [putEntry] at h
    split at h
    · rcases List.mem_cons.1 h with rfl | h
      · exact .inr ⟨first, List.mem_cons_self, rfl⟩
      · exact .inr ⟨e, List.mem_cons_of_mem _ h, rfl⟩
    · rcases List.mem_cons.1 h with rfl | h
      · exact .inr ⟨e, List.mem_cons_self, rfl⟩
      · exact (ih h).imp_right fun ⟨e', he', hkey⟩ => ⟨e', List.mem_cons_of_mem _ he', hkey⟩

theorem value_of_mem_putEntry {e : Value × Value} (h : e ∈ putEntry k v entries) :
    e.2 = v ∨ e ∈ entries := by
  induction entries with
  | nil => exact .inl (congrArg Prod.snd (List.mem_singleton.1 h))
  | cons first rest ih =>
    rw [putEntry] at h
    split at h
    · rcases List.mem_cons.1 h with rfl | h
      · exact .inl rfl
      · exact .inr (List.mem_cons_of_mem _ h)
    · rcases List.mem_cons.1 h with rfl | h
      · exact .inr List.mem_cons_self
      · exact (ih h).imp_right (List.mem_cons_of_mem _)

theorem apart_putEntry (hkeys : ∀ e ∈ entries, e.1.Proper)
    (h : entries.Pairwise fun e e' => e.1.same e'.1 = false) :
    (putEntry k v entries).Pairwise fun e e' => e.1.same e'.1 = false := by
  induction entries with
  | nil => exact List.pairwise_singleton _ _
  | cons first rest ih =>
    rw [List.forall_mem_cons] at hkeys
    rw [List.pairwise_cons] at h
    rw [putEntry]
    split
    · exact List.pairwise_cons.2 h
    · next hfirst =>
      refine List.pairwise_cons.2 ⟨fun e he => ?_, ih hkeys.2 h.2⟩
      rcases key_of_mem_putEntry he with hkey | ⟨e', he', hkey⟩
      · rw [hkey, Bool.eq_false_iff]
        exact fun hsame => hfirst (hkeys.1.same_symm hsame)
      · rw [hkey]
        exact h.1 e' he'

theorem proper_putEntry (hdict : (dict entries).Proper) (hk : k.Proper) (hv : v.Proper) :
    (dict (putEntry k v entries)).Proper := by
  cases hdict with
  | number h => cases h
  | dict hkeys hvalues happart =>
    refine .dict (fun e he => ?_) (fun e he => ?_) (apart_putEntry hkeys happart)
    · rcases key_of_mem_putEntry he with hkey | ⟨e', he', hkey⟩
      · exact hkey ▸ hk
      · exact hkey ▸ hkeys e' he'
    · rcases value_of_mem_putEntry he with hvalue | he
      · exact hvalue ▸ hv
      · exact hvalues e he

end Entries

theorem proper_ofEntries {entries : List (Value × Value)} (hkeys : ∀ e ∈ entries, e.1.Proper)
    (hvalues : ∀ e ∈ entries, e.2.Proper) : (ofEntries entries).Proper := by
  suffices hmore : ∀ there : List (Value × Value), (dict there).Proper →
      (dict (entries.foldl (fun es e => putEntry e.1 e.2 es) there)).Proper from
    hmore [] (.dict nofun nofun .nil)
  induction entries with
  | nil => exact fun there hthere => hthere
  | cons e rest ih =>
    rw [List.forall_mem_cons] at hkeys hvalues
    exact fun there hthere => ih hkeys.2 hvalues.2 _ (proper_putEntry hthere hkeys.1 hvalues.1)

end Rulebook.Value
