import Rulebook.Failure

/-!
# Values as whole numbers

The whole number that a value stands for: itself, a truth value as zero or one, a double cut toward
zero, or a text that reads as a whole number.
-/

namespace Rulebook.Value

open Rulebook.Number

/-- The whole number that a value stands for. -/
def toInt : Value → Result Int
  | .int n => .ok n
  | .bool b => .ok (ofBool b)
  | .double .nan => .error .unreadable
  | .sharedNan _ => .error .unreadable
  | .double d =>
    match d.truncate? with
    | some n => .ok n
    | none => .error .outOfRange
  | .text s =>
    match readInt? s with
    | some n => .ok n
    | none => .error .unreadable
  | _ => .error .wrongKind

/-- The values that a value is made of, one after another: items, keys, or the characters of a
text. -/
def parts : Value → Result (List Value)
  | .list items => .ok items
  | .tuple items => .ok items
  | .set items => .ok items
  | .dict entries => .ok (entries.map (·.1))
  | .text s => .ok (s.toList.map fun c => .text (String.singleton c))
  | _ => .error .wrongKind

end Rulebook.Value
