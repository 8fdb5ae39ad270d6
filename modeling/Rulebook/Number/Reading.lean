import Rulebook.Number.Double
import Rulebook.Text.Digit

/-!
# Reading numbers

The texts that hold a whole number or a double.

Blanks around the number are skipped. One sign may stand in front, and the digits may be of any
script, with a single underscore between two of them. A whole number has at most `digitLimit`
digits. A double may have a fraction and an exponent, or be one of the names `inf`, `infinity` and
`nan` in any case.
-/

namespace Rulebook.Number

open Rulebook.Text

/-- The largest number of digits that a text of a whole number may have. -/
def digitLimit : Nat := 4300

/-- The digits of a text in which a single underscore may stand between two digits. -/
def groupedDigits? : List Char → Option (List Nat)
  | [] => none
  | [c] => (digitValue? c).map ([·])
  | c :: '_' :: rest => do return (← digitValue? c) :: (← groupedDigits? rest)
  | c :: rest => do return (← digitValue? c) :: (← groupedDigits? rest)

/-- The number that decimal digits denote, the leading digit first. -/
def ofDigits (digits : List Nat) : Nat := digits.foldl (fun n d => 10 * n + d) 0

/-- Takes one sign off; the first part says whether it was a minus. -/
def splitSign : List Char → Bool × List Char
  | '-' :: rest => (true, rest)
  | '+' :: rest => (false, rest)
  | cs => (false, cs)

/-- Reads a whole number. -/
def readInt? (s : String) : Option Int := do
  let (negative, body) := splitSign (trimList isNumberBlank s.toList)
  let digits ← groupedDigits? body
  if digitLimit < digits.length then none
  else return if negative then -(ofDigits digits : Int) else ofDigits digits

/-! ## Doubles -/

/-- A part of a number that may be missing. -/
def optionalDigits? (cs : List Char) : Option (List Nat) :=
  if cs.isEmpty then some [] else groupedDigits? cs

/-- The exponent mark. -/
def isExponentMark (c : Char) : Bool := c == 'e' || c == 'E'

/-- The exponent that follows a mantissa: nothing, or a mark, a sign and digits. -/
def readExponent? : List Char → Option Int
  | [] => some 0
  | _ :: rest => do
    let (negative, body) := splitSign rest
    let digits ← groupedDigits? body
    return if negative then -(ofDigits digits : Int) else ofDigits digits

/-- The digits before and after the point of a mantissa, at least one in all. -/
def readMantissa? (cs : List Char) : Option (List Nat × List Nat) := do
  let whole ← optionalDigits? (cs.takeWhile (· ≠ '.'))
  let fraction ← optionalDigits? ((cs.dropWhile (· ≠ '.')).drop 1)
  if whole.isEmpty && fraction.isEmpty then none else return (whole, fraction)

/-- The double that a name stands for. -/
def readName? (negative : Bool) (cs : List Char) : Option Double :=
  let name := String.ofList (cs.map Char.toLower)
  if name = "inf" || name = "infinity" then some (.infinity negative)
  else if name = "nan" then some .nan
  else none

/-- Reads a double. -/
def readDouble? (s : String) : Option Double :=
  let (negative, body) := splitSign (trimList isNumberBlank s.toList)
  (readName? negative body).orElse fun _ => do
    let (whole, fraction) ← readMantissa? (body.takeWhile (!isExponentMark ·))
    let exponent ← readExponent? (body.dropWhile (!isExponentMark ·))
    return .ofDecimal negative (ofDigits (whole ++ fraction)) (exponent - fraction.length)

end Rulebook.Number
