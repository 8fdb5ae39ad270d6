import Rulebook.Number.Double

/-!
# Shortest decimal text of a double

The text of a double has the fewest digits that read back as the same number, and among those the
digits nearest to it. Numbers from `10 ^ -4` up to `10 ^ 16` are written with a point and at least
one digit on either side of it; the others with one leading digit and an exponent of at least two
digits.
-/

namespace Rulebook.Number

/-- Decimal digits of a natural number. -/
def decimalDigits (n : Nat) : List Char := Nat.toDigits 10 n

/-- A decimal number `digits * 10 ^ exponent`. -/
structure Decimal where
  digits : Nat
  exponent : Int
  deriving DecidableEq, Repr

/-- A ratio divided by `10 ^ exponent` and cut to a natural number. -/
def cutAt (num den : Nat) (exponent : Int) : Nat :=
  if 0 ≤ exponent then num / (den * Nat.pow 10 exponent.toNat)
  else num * Nat.pow 10 (-exponent).toNat / den

/-- The exponent of the leading decimal digit of a positive ratio, from a guess that is at most one
off. -/
def leadingExponent (num den : Nat) (guess : Int) : Int :=
  if cutAt num den guess = 0 then guess - 1
  else if 10 ≤ cutAt num den guess then guess + 1
  else guess

/-- Distance of a decimal from `num / den`, multiplied by `den` and by the power of ten that clears
the exponent. -/
def distance (num den digits : Nat) (exponent : Int) : Nat :=
  let value := if 0 ≤ exponent then num else num * Nat.pow 10 (-exponent).toNat
  let decimal := digits * den * (if 0 ≤ exponent then Nat.pow 10 exponent.toNat else 1)
  (value - decimal) + (decimal - value)

/-- The digits of the given count that read back as so many units, if there are any: one of the two
neighbours on the decimal grid, the nearer one if both do. -/
def digitsReadingBack? (units : Nat) (exponent : Int) : Option Decimal :=
  let den := Double.unitsPerOne
  let low := cutAt units den exponent
  let readsBack (digits : Nat) : Bool :=
    Double.ofDecimal false digits exponent == .finite units
  match readsBack low, readsBack (low + 1) with
  | true, true =>
    if distance units den (low + 1) exponent < distance units den low exponent
    then some ⟨low + 1, exponent⟩ else some ⟨low, exponent⟩
  | true, false => some ⟨low, exponent⟩
  | false, true => some ⟨low + 1, exponent⟩
  | false, false => none

/-- The shortest decimal that reads back as so many units. Seventeen digits always do. -/
def shortestDecimal (units : Nat) : Decimal :=
  -- the binary logarithm times the decimal logarithm of two
  let guess := ((units.log2 : Int) - 1074) * 30103 / 100000
  let leading := leadingExponent units Double.unitsPerOne guess
  ((List.range 17).findSome? fun extra => digitsReadingBack? units (leading - (extra : Nat))).getD
    ⟨cutAt units Double.unitsPerOne (leading - 16), leading - 16⟩

/-- Digits without the zeros at their end. -/
def dropEndZeros (cs : List Char) : List Char := (cs.reverse.dropWhile (· == '0')).reverse

/-- An exponent with its sign and at least two digits. -/
def exponentText (exponent : Int) : List Char :=
  let digits := decimalDigits exponent.natAbs
  (if exponent < 0 then '-' else '+') :: (if digits.length < 2 then '0' :: digits else digits)

/-- Writes a positive decimal. `point` is the place of the decimal point, counted from before the
first digit. -/
def decimalText (d : Decimal) : List Char :=
  let all := decimalDigits d.digits
  let point : Int := all.length + d.exponent
  let digits := dropEndZeros all
  -- far from the point: one leading digit and an exponent
  if point ≤ -4 || 16 < point then
    match digits with
    | [] => ['0']
    | [c] => c :: 'e' :: exponentText (point - 1)
    | c :: rest => c :: '.' :: (rest ++ 'e' :: exponentText (point - 1))
  -- below one: zeros after the point
  else if point ≤ 0 then
    '0' :: '.' :: (List.replicate (-point).toNat '0' ++ digits)
  -- otherwise the point falls among the digits or after them
  else
    let whole := point.toNat
    let front := digits.take whole
    let back := digits.drop whole
    front ++ List.replicate (whole - front.length) '0' ++ '.' :: (if back.isEmpty then ['0'] else back)

/-- The text of a double. -/
def Double.text : Double → String
  | .nan => "nan"
  | .infinity negative => if negative then "-inf" else "inf"
  | .negativeZero => "-0.0"
  | .finite units =>
    if units = 0 then "0.0"
    else
      let body := decimalText (shortestDecimal units.natAbs)
      String.ofList (if units < 0 then '-' :: body else body)

end Rulebook.Number
