import Rulebook.Time.Moment
import Rulebook.Json.Basic
import Rulebook.Text.Pattern

/-!
# Values

The values that conditions compare: stored texts are converted to them, and the facts of a context
are given as them.

Numbers of different kinds are equal when they lie at the same place on the number line, truth
values counting as zero and one; not a number equals nothing. Lists and tuples are equal item by
item and never to each other. Sets and dictionaries are equal regardless of order.

Inside a collection it is enough to be the same object (`Value.same`). That makes a difference for
not a number alone, since every other object equals itself: one that stands in several places is
found where it stands, although it does not equal itself.
-/

namespace Rulebook

open Rulebook.Number Rulebook.Time

/-- A value. -/
inductive Value where
  | null
  | bool (b : Bool)
  | int (n : Int)
  /-- A double. If it is not a number, it is an object that stands nowhere else. -/
  | double (d : Double)
  /-- Not a number, as an object that may stand in several places. -/
  | sharedNan (object : Nat)
  | text (s : String)
  | moment (m : Moment)
  | list (items : List Value)
  | tuple (items : List Value)
  | set (items : List Value)
  | dict (entries : List (Value × Value))
  deriving Repr, Inhabited

namespace Value

/-- The whole number that a truth value counts as. -/
def ofBool (b : Bool) : Int := if b then 1 else 0

/-! ## Equality -/

/-- Two doubles lie at the same place of the number line. -/
def sameDouble (a b : Double) : Bool :=
  match a.place?, b.place? with
  | some p, some q => p == q
  | _, _ => false

/-- A whole number and a double lie at the same place of the number line. -/
def sameNumber (n : Int) (d : Double) : Bool := d.place? == some (placeOfInt n)

/-- Two values are one object that does not equal itself. -/
def identical : Value → Value → Bool
  | .sharedNan a, .sharedNan b => a == b
  | _, _ => false

mutual

/-- Two values are equal. -/
def eq : Value → Value → Bool
  | .null, .null => true
  | .bool a, .bool b => a == b
  | .bool a, .int n => ofBool a == n
  | .bool a, .double d => sameNumber (ofBool a) d
  | .int n, .bool b => n == ofBool b
  | .int n, .int m => n == m
  | .int n, .double d => sameNumber n d
  | .double d, .bool b => sameNumber (ofBool b) d
  | .double d, .int n => sameNumber n d
  | .double a, .double b => sameDouble a b
  | .text a, .text b => a == b
  | .moment a, .moment b => a.same b
  | .list a, .list b => eqItems a b
  | .tuple a, .tuple b => eqItems a b
  | .set a, .set b => a.length == b.length && allAmong a b
  | .dict a, .dict b => a.length == b.length && allEntriesAmong a b
  | _, _ => false

/-- Two lists of values are the same item by item. -/
def eqItems : List Value → List Value → Bool
  | [], [] => true
  | x :: a, y :: b => (identical x y || eq x y) && eqItems a b
  | _, _ => false

/-- Each item of the first list is the same as some item of the second. -/
def allAmong : List Value → List Value → Bool
  | [], _ => true
  | x :: a, b => b.any (fun y => identical x y || eq x y) && allAmong a b

/-- Each entry of the first list has the same key and value as some entry of the second. -/
def allEntriesAmong : List (Value × Value) → List (Value × Value) → Bool
  | [], _ => true
  | (k, v) :: a, b =>
    b.any (fun e => (identical k e.1 || eq k e.1) && (identical v e.2 || eq v e.2)) &&
      allEntriesAmong a b

end

/-- Two values are the same object, or equal. -/
def same (x y : Value) : Bool := identical x y || eq x y

/-- Some item of a list is the same as the value. -/
def isAmong (x : Value) (items : List Value) : Bool := items.any fun y => x.same y

/-! ## Sets and dictionaries -/

/-- A value that may be a member of a set or a key of a dictionary. -/
def isKey : Value → Bool
  | .list _ => false
  | .set _ => false
  | .dict _ => false
  | .tuple items => areKeys items
  | _ => true
where
  /-- Each of the values may be a key. -/
  areKeys : List Value → Bool
    | [] => true
    | x :: rest => isKey x && areKeys rest

/-- Adds a member to a set unless the same one is there. -/
def addMember (items : List Value) (x : Value) : List Value :=
  if isAmong x items then items else items ++ [x]

/-- The set of the given members, each kept once, where it first stands. -/
def ofMembers (items : List Value) : Value := .set (items.foldl addMember [])

/-- Puts an entry into a dictionary: the same key keeps its place and takes the new value. -/
def putEntry (k v : Value) : List (Value × Value) → List (Value × Value)
  | [] => [(k, v)]
  | e :: rest => if k.same e.1 then (e.1, v) :: rest else e :: putEntry k v rest

/-- The dictionary of the given entries, later ones replacing earlier ones with the same key. -/
def ofEntries (entries : List (Value × Value)) : Value :=
  .dict (entries.foldl (fun es e => putEntry e.1 e.2 es) [])

/-! ## Views -/

/-- The values that a value lists: none for `null`, its items if it is a list, a tuple or a set, and
otherwise itself alone. -/
def listed : Value → List Value
  | .null => []
  | .list items => items
  | .tuple items => items
  | .set items => items
  | v => [v]

/-- Nothing is there: `null`, a text of blanks, or no items. -/
def isEmpty : Value → Bool
  | .null => true
  | .text s => Text.isBlankText s
  | .list items => items.isEmpty
  | .tuple items => items.isEmpty
  | .set items => items.isEmpty
  | .dict entries => entries.isEmpty
  | _ => false

/-- The value is `null`. -/
def isNull : Value → Bool
  | .null => true
  | _ => false

/-- Whether a value holds another: a part of a text, an item of a list or tuple, a member of a set,
a key of a dictionary. There is no answer where the question makes no sense: other holders, a part
that is no text, and a key that may not be one. A set is never a member of a set. -/
def holds? (holder x : Value) : Option Bool :=
  match holder with
  | .text whole =>
    match x with
    | .text part => some (Text.occursIn part.toList whole.toList)
    | _ => none
  | .list items => some (isAmong x items)
  | .tuple items => some (isAmong x items)
  | .set items =>
    match x with
    | .set _ => some false
    | _ => if x.isKey then some (isAmong x items) else none
  | .dict entries => if x.isKey then some (isAmong x (entries.map (·.1))) else none
  | _ => none

end Value

end Rulebook
