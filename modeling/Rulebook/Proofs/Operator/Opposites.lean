import Mathlib
import Rulebook.Operator
import Rulebook.Proofs.Number.Decimal
import Rulebook.Proofs.Operator.Lists
import Rulebook.Proofs.Operator.Ordering

/-!
# Opposite operators

Every operator answers for every two values: as its comparison does where that makes sense of them
(`MakesSense`), and "no" elsewhere. So exactly one of two opposite operators holds if their
comparison always makes sense, and at most one of them otherwise.

Comparisons that may make no sense are those of order (`Comparable`), of holding (`MayHold`) and of
texts (`HasText`): a set is asked only for members that may be in a set, and no text is made of a
number with too many digits, however deep inside a collection it stands.
-/

namespace Rulebook

open Rulebook.Number

namespace Value

variable {x : Value} {items : List Value}

/-! ## Holding -/

/-- A value that may be a member of a set: no list, set or dictionary, and no tuple with one
inside. -/
inductive Lasting : Value → Prop where
  | null : Lasting .null
  | number {v : Value} {place : Option Place} (h : v.numberPlace? = some place) : Lasting v
  | text (s : String) : Lasting (.text s)
  | moment (m : Time.Moment) : Lasting (.moment m)
  | tuple {items : List Value} (h : ∀ x ∈ items, Lasting x) : Lasting (.tuple items)

theorem areKeys_iff : isKey.areKeys items = true ↔ ∀ x ∈ items, x.isKey = true := by
  induction items with
  | nil => simp [isKey.areKeys]
  | cons x rest ih => simp [isKey.areKeys, ih]

theorem isKey_iff : x.isKey = true ↔ x.Lasting := by
  constructor
  · intro h
    induction x using items_induction with
    | null => exact .null
    | number x place hplace => exact .number hplace
    | text s => exact .text s
    | moment m => exact .moment m
    | tuple items ih => exact .tuple fun x hx => ih x hx (areKeys_iff.1 h x hx)
    | list | set | dict => cases h
  · intro h
    induction h with
    | null | text | moment => rfl
    | @number v _ h =>
      cases v with
      | bool | int | double | sharedNan => rfl
      | null | text | moment | list | tuple | set | dict => cases h
    | tuple _ ih => exact areKeys_iff.2 ih

/-- A value that may hold another one: a text asked for a text, a list or a tuple asked for
anything, a set or a dictionary asked for a member or a key that it could have. A set may also be
asked for a set, which it never holds. -/
inductive MayHold : Value → Value → Prop where
  | text (whole part : String) : MayHold (.text whole) (.text part)
  | list (items : List Value) (x : Value) : MayHold (.list items) x
  | tuple (items : List Value) (x : Value) : MayHold (.tuple items) x
  | member (items : List Value) {x : Value} (h : x.Lasting) : MayHold (.set items) x
  | subset (items others : List Value) : MayHold (.set items) (.set others)
  | key (entries : List (Value × Value)) {x : Value} (h : x.Lasting) : MayHold (.dict entries) x

theorem isSome_holds?_iff {holder : Value} : (holder.holds? x).isSome ↔ holder.MayHold x := by
  constructor
  · intro h
    cases holder with
    | text whole =>
      cases x with
      | text part => exact .text whole part
      | _ => cases h
    | list items => exact .list items x
    | tuple items => exact .tuple items x
    | set items =>
      by_cases hx : x.isKey = true
      · exact .member items (isKey_iff.1 hx)
      · cases x with
        | set others => exact .subset items others
        | _ => simp [holds?, hx] at h
    | dict entries =>
      by_cases hx : x.isKey = true
      · exact .key entries (isKey_iff.1 hx)
      · simp [holds?, hx] at h
    | _ => cases h
  · intro h
    cases h with
    | text | list | tuple | subset => rfl
    | member items h =>
      cases x with
      | set others => rfl
      | _ => simp only [holds?, isKey_iff.2 h, if_true, Option.isSome_some]
    | key entries h => simp only [holds?, isKey_iff.2 h, if_true, Option.isSome_some]

/-! ## Texts -/

/-- A value that has a text: all of them, as long as no number in it has too many digits. -/
inductive HasText : Value → Prop where
  | null : HasText .null
  | bool (b : Bool) : HasText (.bool b)
  | int {n : Int} (h : IsShort n) : HasText (.int n)
  | double (d : Double) : HasText (.double d)
  | sharedNan (object : Nat) : HasText (.sharedNan object)
  | text (s : String) : HasText (.text s)
  | moment (m : Time.Moment) : HasText (.moment m)
  | list {items : List Value} (h : ∀ x ∈ items, HasText x) : HasText (.list items)
  | tuple {items : List Value} (h : ∀ x ∈ items, HasText x) : HasText (.tuple items)
  | set {items : List Value} (h : ∀ x ∈ items, HasText x) : HasText (.set items)
  | dict {entries : List (Value × Value)} (hkeys : ∀ e ∈ entries, HasText e.1)
      (hvalues : ∀ e ∈ entries, HasText e.2) : HasText (.dict entries)

theorem isSome_innerTexts?_iff :
    (innerTexts? items).isSome ↔ ∀ x ∈ items, x.innerText?.isSome := by
  induction items with
  | nil => simp [innerTexts?]
  | cons x rest ih =>
    rw [List.forall_mem_cons, ← ih, innerTexts?]
    cases x.innerText? <;> cases innerTexts? rest <;> simp

theorem isSome_entryTexts?_iff {entries : List (Value × Value)} : (entryTexts? entries).isSome ↔
    ∀ e ∈ entries, e.1.innerText?.isSome ∧ e.2.innerText?.isSome := by
  induction entries with
  | nil => simp [entryTexts?]
  | cons e rest ih =>
    obtain ⟨k, v⟩ := e
    rw [List.forall_mem_cons, ← ih, entryTexts?]
    cases k.innerText? <;> cases v.innerText? <;> cases entryTexts? rest <;> simp

theorem isSome_intText?_iff {n : Int} : (intText? n).isSome ↔ IsShort n := by
  have hdigits : decimalDigits n.natAbs = digitsOf n.natAbs := rfl
  rw [intText?, IsShort, hdigits]
  split <;> simp <;> omega

theorem isSome_innerText?_iff : x.innerText?.isSome ↔ x.HasText := by
  constructor
  · intro h
    induction x using items_induction with
    | null => exact .null
    | number x place hplace =>
      -- only a whole number can have too many digits
      cases x with
      | bool b => exact .bool b
      | int n => exact .int (isSome_intText?_iff.1 h)
      | double d => exact .double d
      | sharedNan object => exact .sharedNan object
      | _ => cases hplace
    | text s => exact .text s
    | moment m => exact .moment m
    | list items ih =>
      rw [innerText?, Option.isSome_map, isSome_innerTexts?_iff] at h
      exact .list fun x hx => ih x hx (h x hx)
    | tuple items ih =>
      rw [innerText?, Option.isSome_map, isSome_innerTexts?_iff] at h
      exact .tuple fun x hx => ih x hx (h x hx)
    | set items ih =>
      rw [innerText?, Option.isSome_map, isSome_innerTexts?_iff] at h
      exact .set fun x hx => ih x hx (h x hx)
    | dict entries ih =>
      rw [innerText?, Option.isSome_map, isSome_entryTexts?_iff] at h
      exact .dict (fun e he => (ih e he).1 (h e he).1) fun e he => (ih e he).2 (h e he).2
  · intro h
    induction h with
    | null | bool | double | sharedNan | text | moment => rfl
    | int h => exact isSome_intText?_iff.2 h
    | list _ ih | tuple _ ih | set _ ih =>
      rw [innerText?, Option.isSome_map, isSome_innerTexts?_iff]
      exact ih
    | dict _ _ ihkeys ihvalues =>
      rw [innerText?, Option.isSome_map, isSome_entryTexts?_iff]
      exact fun e he => ⟨ihkeys e he, ihvalues e he⟩

theorem isSome_text?_iff : x.text?.isSome ↔ x.HasText := by
  rw [← isSome_innerText?_iff]
  cases x with
  | moment m => simp only [text?, innerText?, Option.isSome_some]
  | _ => rfl

end Value

/-! ## Pairs -/

namespace Operator

/-- Whether the comparison of an operator makes sense of two values. -/
def MakesSense (o : Operator) (fact value : Value) : Prop :=
  match o with
  | less => fact.Comparable value
  | atMost => fact.Comparable value
  | greater => fact.Comparable value
  | atLeast => fact.Comparable value
  | contains => fact.MayHold value
  | notContains => fact.MayHold value
  | startsWith => fact.HasText ∧ value.HasText
  | endsWith => fact.HasText ∧ value.HasText
  | _ => True

/-- An operator whose comparison makes sense of every two values, with its opposite. -/
def opposites : List (Operator × Operator) :=
  [(equal, notEqual), (anyIn, noneIn), (allIn, notAllIn), (isEmpty, isNotEmpty),
   (isNull, isNotNull)]

variable {fact value : Value}

theorem isSome_textsPass?_iff {test : List Char → List Char → Bool} :
    (textsPass? test fact value).isSome ↔ fact.HasText ∧ value.HasText := by
  rw [← Value.isSome_text?_iff, ← Value.isSome_text?_iff, textsPass?]
  cases fact.text? <;> cases value.text? <;> simp

theorem isSome_answer?_iff (o : Operator) :
    (o.answer? fact value).isSome ↔ o.MakesSense fact value := by
  cases o with
  | less | atMost | greater | atLeast =>
    rw [answer?, ordered?, Option.isSome_map]
    exact Value.isSome_relation?_iff
  | contains => exact Value.isSome_holds?_iff
  | notContains =>
    rw [answer?, Option.isSome_map]
    exact Value.isSome_holds?_iff
  | startsWith | endsWith =>
    rw [answer?]
    exact isSome_textsPass?_iff
  | _ => exact ⟨fun _ => trivial, fun _ => rfl⟩

theorem notContains_eq_not_contains (h : fact.MayHold value) :
    notContains.holds fact value = !contains.holds fact value := by
  obtain ⟨answer, hanswer⟩ := Option.isSome_iff_exists.1 (Value.isSome_holds?_iff.2 h)
  simp only [holds, hanswer]
  cases answer <;> rfl

theorem contains_eq_false (h : ¬ fact.MayHold value) :
    contains.holds fact value = false ∧ notContains.holds fact value = false := by
  have hnone : fact.holds? value = none := by
    rwa [← Value.isSome_holds?_iff, Option.not_isSome_iff_eq_none] at h
  simp only [holds, hnone]
  exact ⟨rfl, rfl⟩

/-- Two values do not have two relations. -/
theorem not_related_both {relations others : List Relation}
    (hdisjoint : relations.Disjoint others) :
    ¬ (related relations fact value = true ∧ related others fact value = true) := by
  rintro ⟨h, h'⟩
  obtain ⟨r, hr, hrelation⟩ := related_iff.1 h
  obtain ⟨r', hr', hrelation'⟩ := related_iff.1 h'
  obtain rfl : r = r' := Option.some.inj (hrelation.symm.trans hrelation')
  exact hdisjoint hr hr'

/-- What an operator and its opposite say of the same two values. -/
structure AnswersInPairs (fact value : Value) : Prop where
  /-- Each operator answers as its comparison does, and "no" where that makes no sense. -/
  answered : ∀ o : Operator, o.holds fact value = (o.answer? fact value).getD false
  sensible : ∀ o : Operator, (o.answer? fact value).isSome ↔ o.MakesSense fact value
  opposite : ∀ p ∈ opposites, p.2.holds fact value = !p.1.holds fact value
  containing : fact.MayHold value → notContains.holds fact value = !contains.holds fact value
  /-- Where the question makes no sense, neither answer to it holds. -/
  not_containing : ¬ fact.MayHold value →
    contains.holds fact value = false ∧ notContains.holds fact value = false
  /-- Two values without order make both fail. -/
  ordered : ∀ p ∈ [(less, atLeast), (atMost, greater)],
    ¬ (p.1.holds fact value = true ∧ p.2.holds fact value = true)

/-- Every operator answers for every two values, and opposite operators never both hold; exactly one
of them does where their comparison makes sense, those of order apart. -/
theorem operators_answer_in_pairs (fact value : Value) : AnswersInPairs fact value where
  answered o := holds_eq_answer? o fact value
  sensible o := isSome_answer?_iff o
  opposite p hp := by
    simp only [opposites, List.mem_cons, List.not_mem_nil, or_false] at hp
    rcases hp with rfl | rfl | rfl | rfl | rfl <;> rfl
  containing := notContains_eq_not_contains
  not_containing := contains_eq_false
  ordered p hp := by
    simp only [List.mem_cons, List.not_mem_nil, or_false] at hp
    rcases hp with rfl | rfl
    · exact not_related_both (by simp)
    · exact not_related_both (by simp)

end Operator

end Rulebook
