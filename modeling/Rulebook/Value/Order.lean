import Rulebook.Value.Basic

/-!
# Order of values

How two values of comparable kinds are related. Numbers are ordered along the number line, texts by
their code points, moments in time, sets by inclusion, and lists and tuples by the first items that
differ. Values of different kinds have no relation, nor have moments of which one carries an offset.

Two moments that denote the same instant in different zones are level with each other, even where
they are not equal.
-/

namespace Rulebook

open Rulebook.Number Rulebook.Time

/-- How two comparable values are related. -/
inductive Relation where
  | less
  /-- Neither lies before the other. -/
  | level
  | greater
  /-- Comparable, but neither level nor ordered. -/
  | apart
  deriving DecidableEq, Repr

namespace Relation

/-- The relation found from its two comparisons. -/
def ofTests (isLess isGreater : Bool) : Relation :=
  if isLess then less else if isGreater then greater else level

/-- The relation of two sets, from inclusion both ways. -/
def ofInclusion (isIn contains : Bool) : Relation :=
  match isIn, contains with
  | true, true => level
  | true, false => less
  | false, true => greater
  | false, false => apart

end Relation

namespace Value

/-- How two places on the number line are related; not a number is apart from every number. -/
def placeRelation (a b : Option Place) : Relation :=
  match a, b with
  | some p, some q => .ofTests (p.precedes q) (q.precedes p)
  | _, _ => .apart

/-- Where a number lies on the number line; the outer answer says whether the value is a number. -/
def numberPlace? : Value → Option (Option Place)
  | .bool b => some (some (placeOfInt (ofBool b)))
  | .int n => some (some (placeOfInt n))
  | .double d => some d.place?
  | .sharedNan _ => some none
  | _ => none

/-- How two values that are not collections are related. -/
def plainRelation? (a b : Value) : Option Relation :=
  match a, b with
  | .text s, .text t => some (.ofTests (decide (s < t)) (decide (t < s)))
  | .moment m, .moment n =>
    if m.comparable n then some (.ofTests (m.precedes n) (n.precedes m)) else none
  | a, b => do return placeRelation (← a.numberPlace?) (← b.numberPlace?)

mutual

/-- How two values are related, if they are comparable. -/
def relation? : Value → Value → Option Relation
  | .list a, .list b => itemsRelation? a b
  | .tuple a, .tuple b => itemsRelation? a b
  | .set a, .set b => some (.ofInclusion (allAmong a b) (allAmong b a))
  | a, b => plainRelation? a b

/-- How two lists of items are related: by the first items that are not the same, else by length. -/
def itemsRelation? : List Value → List Value → Option Relation
  | [], [] => some .level
  | [], _ :: _ => some .less
  | _ :: _, [] => some .greater
  -- the same items are passed over even where they have no order of their own
  | x :: a, y :: b => if same x y then itemsRelation? a b else relation? x y

end

end Value

end Rulebook
