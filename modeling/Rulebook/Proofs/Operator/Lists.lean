import Mathlib
import Rulebook.Operator
import Rulebook.Proofs.Value.Equality

/-!
# Operators for lists

"One of" and "all of" compare the values that two values list: some fact is the same as some listed
value, every listed value is the same as some fact. The same means equal or one object, which is more
than equal only for an object that does not equal itself.

Only which values are listed, up to equality, makes a difference (`Restates`), not their order, their
number or the kind of collection. Both comparisons make sense of any two values, so each operator and
its negation always exclude and complete each other.
-/

namespace Rulebook

/-! ## Comparisons that make no sense -/

namespace Operator

/-- Whether the relation of two values is one of those given, if they have one. -/
def ordered? (relations : List Relation) (fact value : Value) : Option Bool :=
  (fact.relation? value).map fun r => relations.contains r

/-- Whether the texts of two values pass a test, if both have one. -/
def textsPass? (test : List Char → List Char → Bool) (fact value : Value) : Option Bool := do
  return test (← value.text?).toList (← fact.text?).toList

/-- What the comparison of an operator answers, if it makes sense of the two values. -/
def answer? (o : Operator) (fact value : Value) : Option Bool :=
  match o with
  | equal => some (fact.eq value)
  | notEqual => some (!fact.eq value)
  | less => ordered? [.less] fact value
  | atMost => ordered? [.less, .level] fact value
  | greater => ordered? [.greater] fact value
  | atLeast => ordered? [.greater, .level] fact value
  | contains => fact.holds? value
  | notContains => (fact.holds? value).map (!·)
  | startsWith => textsPass? List.isPrefixOf fact value
  | endsWith => textsPass? List.isSuffixOf fact value
  | isEmpty => some fact.isEmpty
  | isNotEmpty => some !fact.isEmpty
  | isNull => some fact.isNull
  | isNotNull => some !fact.isNull
  | anyIn => some (anyListed fact value)
  | noneIn => some !anyListed fact value
  | allIn => some (allListed fact value)
  | notAllIn => some !allListed fact value

theorem related_eq (relations : List Relation) (fact value : Value) :
    related relations fact value = (ordered? relations fact value).getD false := by
  unfold related ordered?
  cases fact.relation? value <;> rfl

theorem textsPass_eq (test : List Char → List Char → Bool) (fact value : Value) :
    textsPass test fact value = (textsPass? test fact value).getD false := by
  unfold textsPass textsPass?
  cases fact.text? <;> cases value.text? <;> rfl

/-- An operator holds where its comparison answers so; where it makes no sense it does not hold. -/
theorem holds_eq_answer? (o : Operator) (fact value : Value) :
    o.holds fact value = (o.answer? fact value).getD false := by
  cases o with
  | less | atMost | greater | atLeast => exact related_eq _ fact value
  | startsWith | endsWith => exact textsPass_eq _ fact value
  | contains =>
    show (fact.holds? value == some true) = (fact.holds? value).getD false
    rcases fact.holds? value with _ | _ | _ <;> rfl
  | notContains =>
    show (fact.holds? value == some false) = ((fact.holds? value).map (!·)).getD false
    rcases fact.holds? value with _ | _ | _ <;> rfl
  | _ => rfl

end Operator

/-! ## Values that are listed -/

namespace Value

/-- Two lists hold the same values up to equality: one is the other in another order, with one of its
values once more, or with an equal value in the place of one, any number of times. -/
inductive Restates : List Value → List Value → Prop where
  | moved {xs ys : List Value} (h : xs.Perm ys) : Restates xs ys
  | repeated {x : Value} {xs : List Value} (h : x ∈ xs) : Restates xs (x :: xs)
  | exchanged {x y : Value} {xs : List Value} (hx : x.Proper) (h : x.eq y = true) :
      Restates (x :: xs) (y :: xs)
  | symm {xs ys : List Value} (h : Restates xs ys) : Restates ys xs
  | trans {xs ys zs : List Value} (hxy : Restates xs ys) (hyz : Restates ys zs) : Restates xs zs

/-- A property that equal values share. -/
def RespectsEquality (P : Value → Prop) : Prop :=
  ∀ x y : Value, x.Proper → x.eq y = true → (P x ↔ P y)

section Listed

variable {v x : Value} {xs ys zs : List Value}

theorem respectsEquality_left (z : Value) : RespectsEquality fun x => x.same z = true :=
  fun _ _ hx hxy => ⟨same_trans (same_of_eq (hx.eq_symm hxy)), same_trans (same_of_eq hxy)⟩

theorem respectsEquality_right (z : Value) : RespectsEquality fun x => z.same x = true :=
  fun _ _ hx hxy => ⟨fun hzx => same_trans hzx (same_of_eq hxy),
    fun hzy => same_trans hzy (same_of_eq (hx.eq_symm hxy))⟩

theorem RespectsEquality.exists_mem {P : Value → Value → Prop} (h : ∀ z, RespectsEquality (P z)) :
    RespectsEquality fun x => ∃ z ∈ zs, P z x :=
  fun x y hx hxy => exists_congr fun z => and_congr_right fun _ => h z x y hx hxy

theorem RespectsEquality.not {P : Value → Prop} (h : RespectsEquality P) :
    RespectsEquality fun x => ¬ P x :=
  fun x y hx hxy => not_congr (h x y hx hxy)

theorem Restates.exists_iff {P : Value → Prop} (hP : RespectsEquality P) (h : Restates xs ys) :
    (∃ x ∈ xs, P x) ↔ ∃ y ∈ ys, P y := by
  induction h with
  | moved h => simp only [h.mem_iff]
  | repeated h => exact ⟨fun ⟨z, hz, hPz⟩ => ⟨z, List.mem_cons_of_mem _ hz, hPz⟩,
      fun ⟨z, hz, hPz⟩ => ⟨z, (List.mem_cons.1 hz).elim (· ▸ h) id, hPz⟩⟩
  | exchanged hx hxy =>
    simp only [List.exists_mem_cons_iff, hP _ _ hx hxy]
  | symm _ ih => exact ih.symm
  | trans _ _ ihxy ihyz => exact ihxy.trans ihyz

theorem Restates.forall_iff {P : Value → Prop} (hP : RespectsEquality P) (h : Restates xs ys) :
    (∀ x ∈ xs, P x) ↔ ∀ y ∈ ys, P y := by
  -- all have the property where none lacks it
  have hlacking := not_congr (h.exists_iff hP.not)
  push Not at hlacking
  exact hlacking

end Listed

end Value

/-! ## The two comparisons -/

namespace Operator

variable {a b e a' e' : Value}

theorem anyIn_iff : anyIn.holds a e = true ↔ ∃ x ∈ a.listed, ∃ y ∈ e.listed, x.same y = true := by
  simp only [holds, anyListed, List.any_eq_true, Value.isAmong_iff]

theorem allIn_iff : allIn.holds a e = true ↔ ∀ y ∈ e.listed, ∃ x ∈ a.listed, y.same x = true := by
  simp only [holds, allListed, List.all_eq_true, Value.isAmong_iff]

/-- Where two values list no object in common that does not equal itself, the comparisons are a
matter of equality. -/
theorem same_iff_eq_of_listed (h : ∀ x ∈ a.listed, ∀ y ∈ e.listed, Value.identical x y = false) :
    ∀ x ∈ a.listed, ∀ y ∈ e.listed, (x.same y = true ↔ x.eq y = true) := by
  intro x hx y hy
  rw [Value.same_iff, h x hx y hy]
  simp only [Bool.false_eq_true, or_false]

theorem anyIn_iff_equal (h : ∀ x ∈ a.listed, ∀ y ∈ e.listed, Value.identical x y = false) :
    anyIn.holds a e = true ↔ ∃ x ∈ a.listed, ∃ y ∈ e.listed, x.eq y = true := by
  have hsame := same_iff_eq_of_listed h
  rw [anyIn_iff]
  refine exists_congr fun x => and_congr_right fun hx => ?_
  exact exists_congr fun y => and_congr_right fun hy => hsame x hx y hy

theorem allIn_iff_equal (h : ∀ x ∈ a.listed, ∀ y ∈ e.listed, Value.identical x y = false) :
    allIn.holds a e = true ↔ ∀ y ∈ e.listed, ∃ x ∈ a.listed, y.eq x = true := by
  have hsame := same_iff_eq_of_listed fun y hy x hx => Value.identical_comm x y ▸ h x hx y hy
  rw [allIn_iff]
  refine forall₂_congr fun y hy => ?_
  exact exists_congr fun x => and_congr_right fun hx => hsame y hy x hx

theorem anyIn_restated (ha : Value.Restates a.listed a'.listed)
    (he : Value.Restates e.listed e'.listed) : anyIn.holds a' e' = anyIn.holds a e := by
  rw [Bool.eq_iff_iff, anyIn_iff, anyIn_iff]
  have hfacts := ha.exists_iff (P := fun x => ∃ y ∈ e'.listed, x.same y = true)
    (.exists_mem Value.respectsEquality_left)
  rw [← hfacts]
  refine exists_congr fun x => and_congr_right fun _ => ?_
  exact (he.exists_iff (Value.respectsEquality_right x)).symm

theorem allIn_restated (ha : Value.Restates a.listed a'.listed)
    (he : Value.Restates e.listed e'.listed) : allIn.holds a' e' = allIn.holds a e := by
  rw [Bool.eq_iff_iff, allIn_iff, allIn_iff]
  have hvalues := he.forall_iff (P := fun y => ∃ x ∈ a'.listed, y.same x = true)
    (.exists_mem Value.respectsEquality_left)
  rw [← hvalues]
  refine forall₂_congr fun y _ => ?_
  exact (ha.exists_iff (Value.respectsEquality_right y)).symm

theorem anyIn_comm (ha : a.Proper) (he : e.Proper) : anyIn.holds a e = anyIn.holds e a := by
  have hswap {a e : Value} (ha : a.Proper) (h : anyIn.holds a e = true) :
      anyIn.holds e a = true := by
    obtain ⟨x, hx, y, hy, hxy⟩ := anyIn_iff.1 h
    exact anyIn_iff.2 ⟨y, hy, x, hx, (ha.of_mem_listed hx).same_symm hxy⟩
  rw [Bool.eq_iff_iff]
  exact ⟨hswap ha, hswap he⟩

theorem allIn_trans (hab : allIn.holds a b = true) (hbe : allIn.holds b e = true) :
    allIn.holds a e = true := by
  rw [allIn_iff] at *
  intro y hy
  obtain ⟨z, hz, hyz⟩ := hbe y hy
  obtain ⟨x, hx, hzx⟩ := hab z hz
  exact ⟨x, hx, Value.same_trans hyz hzx⟩

theorem anyIn_of_allIn (he : e.Proper) (hne : e.listed ≠ []) (h : allIn.holds a e = true) :
    anyIn.holds a e = true := by
  obtain ⟨y, hy⟩ := List.exists_mem_of_ne_nil _ hne
  obtain ⟨x, hx, hyx⟩ := allIn_iff.1 h y hy
  exact anyIn_iff.2 ⟨x, hx, y, hy, (he.of_mem_listed hy).same_symm hyx⟩

/-- The operators for lists as relations between what two values list. -/
structure RelatesLists (a e : Value) : Prop where
  someSame : anyIn.holds a e = true ↔ ∃ x ∈ a.listed, ∃ y ∈ e.listed, x.same y = true
  eachSame : allIn.holds a e = true ↔ ∀ y ∈ e.listed, ∃ x ∈ a.listed, y.same x = true
  /-- To be the same is to be equal, unless the two list one object that does not equal itself. -/
  equality : (∀ x ∈ a.listed, ∀ y ∈ e.listed, Value.identical x y = false) →
    (anyIn.holds a e = true ↔ ∃ x ∈ a.listed, ∃ y ∈ e.listed, x.eq y = true) ∧
      (allIn.holds a e = true ↔ ∀ y ∈ e.listed, ∃ x ∈ a.listed, y.eq x = true)
  /-- Order, repetition and the kinds of equal values make no difference, on either side. -/
  restated : ∀ a' e', Value.Restates a.listed a'.listed → Value.Restates e.listed e'.listed →
    anyIn.holds a' e' = anyIn.holds a e ∧ allIn.holds a' e' = allIn.holds a e
  symm : anyIn.holds a e = anyIn.holds e a
  trans : ∀ b, allIn.holds a b = true → allIn.holds b e = true → allIn.holds a e = true
  some_of_each : e.listed ≠ [] → allIn.holds a e = true → anyIn.holds a e = true
  /-- Both comparisons make sense of the two values. -/
  answered : (anyIn.answer? a e).isSome ∧ (allIn.answer? a e).isSome
  /-- So where an operator does not hold, its negation does. -/
  negated : noneIn.holds a e = !anyIn.holds a e ∧ notAllIn.holds a e = !allIn.holds a e

/-- "One of" holds exactly if some fact is the same as some listed value, and "all of" exactly if each
listed value is the same as some fact, whatever the kinds of the two values and of those that they
list. -/
theorem list_operators_relate_lists (a e : Value) (ha : a.Proper) (he : e.Proper) :
    RelatesLists a e where
  someSame := anyIn_iff
  eachSame := allIn_iff
  equality h := ⟨anyIn_iff_equal h, allIn_iff_equal h⟩
  restated _ _ ha' he' := ⟨anyIn_restated ha' he', allIn_restated ha' he'⟩
  symm := anyIn_comm ha he
  trans _ := allIn_trans
  some_of_each := anyIn_of_allIn he
  answered := ⟨rfl, rfl⟩
  negated := ⟨rfl, rfl⟩

/-- A set that has been given zero as a number and as a truth value, and an object that does not
equal itself. -/
def mixedFacts : Value := .ofMembers [.int 0, .bool false, .sharedNan 0]

/-- The same object, and a dictionary that has been given one key as a number and as a truth
value. -/
def mixedValue : Value :=
  .list [.sharedNan 0, .ofEntries [(.int 1, .text "red"), (.bool true, .text "blue")]]

theorem listed_mixedFacts : mixedFacts.listed = [.int 0, .sharedNan 0] := by
  have hzero : (Value.bool false).same (.int 0) = true := by decide +kernel
  have hobject : (Value.sharedNan 0).same (.int 0) = false := by decide +kernel
  simp [mixedFacts, Value.ofMembers, Value.addMember, Value.isAmong, Value.listed, hzero, hobject]

theorem proper_mixedFacts : mixedFacts.Proper := by
  apply Value.proper_ofMembers
  simp only [List.forall_mem_cons]
  exact ⟨.number rfl, .number rfl, .number rfl, nofun⟩

/-- An object that does not equal itself is found where it stands. -/
theorem shared_object_is_found : mixedFacts.Proper ∧
    ¬ (anyIn.holds mixedFacts (.sharedNan 0) = true ↔
      ∃ x ∈ mixedFacts.listed, ∃ y ∈ (Value.sharedNan 0).listed, x.eq y = true) ∧
    ¬ (allIn.holds mixedFacts mixedFacts = true ↔
      ∀ y ∈ mixedFacts.listed, ∃ x ∈ mixedFacts.listed, y.eq x = true) := by
  have hobject : (Value.sharedNan 0).same (.sharedNan 0) = true := by decide +kernel
  have hzero : (Value.int 0).same (.int 0) = true := by decide +kernel
  refine ⟨proper_mixedFacts, fun h => ?_, fun h => ?_⟩
  · have hfound : anyIn.holds mixedFacts (.sharedNan 0) = true := by
      rw [anyIn_iff, listed_mixedFacts]
      exact ⟨_, .tail _ (.head _), _, .head _, hobject⟩
    obtain ⟨x, -, y, hy, heq⟩ := h.1 hfound
    obtain rfl := List.mem_singleton.1 hy
    simp [Value.eq_sharedNan] at heq
  · have hfound : allIn.holds mixedFacts mixedFacts = true := by
      rw [allIn_iff, listed_mixedFacts]
      simp [hzero, hobject]
    obtain ⟨x, -, heq⟩ := h.1 hfound (.sharedNan 0) (by simp [listed_mixedFacts])
    simp [Value.sharedNan_eq] at heq

theorem mixedFacts_relate_lists :
    mixedFacts.Proper ∧ mixedValue.Proper ∧ anyIn.holds mixedFacts mixedValue = true ∧
      anyIn.holds mixedValue mixedFacts = true ∧
      allIn.holds (.tuple [.sharedNan 0, .double .negativeZero, .double .negativeZero])
        mixedFacts = true := by
  have hvalue : mixedValue.Proper := by
    refine .list ?_
    simp only [List.forall_mem_cons]
    refine ⟨.number rfl, Value.proper_ofEntries ?_ ?_, nofun⟩
    · simpa using ⟨.number rfl, .number rfl⟩
    · simpa using ⟨.text _, .text _⟩
  have hobject : (Value.sharedNan 0).same (.sharedNan 0) = true := by decide +kernel
  have hzero : (Value.int 0).same (.int 0) = true := by decide +kernel
  have hnegative : (Value.int 0).eq (.double .negativeZero) = true := by decide +kernel
  have hspec := list_operators_relate_lists mixedFacts mixedValue proper_mixedFacts hvalue
  have hfound : anyIn.holds mixedFacts mixedValue = true := by
    rw [hspec.someSame, listed_mixedFacts]
    exact ⟨_, .tail _ (.head _), _, .head _, hobject⟩
  -- another kind of zero takes the place of the first, once more, and the order changes
  have hrestated : Value.Restates mixedFacts.listed
      (Value.tuple [.sharedNan 0, .double .negativeZero, .double .negativeZero]).listed := by
    rw [listed_mixedFacts]
    have hexchanged : Value.Restates [.int 0, .sharedNan 0] [.double .negativeZero, .sharedNan 0] :=
      .exchanged (.number rfl) hnegative
    have hmoved : [.double .negativeZero, .double .negativeZero, .sharedNan 0].Perm
        (Value.tuple [.sharedNan 0, .double .negativeZero, .double .negativeZero]).listed :=
      List.perm_append_comm_assoc [_, _] [_] []
    exact (hexchanged.trans (.repeated List.mem_cons_self)).trans (.moved hmoved)
  have hitself := list_operators_relate_lists mixedFacts mixedFacts proper_mixedFacts
    proper_mixedFacts
  refine ⟨proper_mixedFacts, hvalue, hfound, hspec.symm ▸ hfound, ?_⟩
  rw [(hitself.restated _ mixedFacts hrestated (.moved (.refl _))).2, hitself.eachSame,
    listed_mixedFacts]
  simp [hzero, hobject]

end Operator

end Rulebook
