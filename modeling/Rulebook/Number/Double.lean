/-!
# Double-precision numbers

A finite double-precision number is a whole number of least units of `2 ^ -1074`, so the finite
numbers are kept as integers and every comparison with a whole number is exact. Negative zero is a
number of its own, equal to zero wherever numbers are compared.

`Double.ofRatio` rounds a ratio of natural numbers to the nearest double, a tie going to the even
neighbour; `Double.ofBits` and `Double.toBits` give the interchange form.
-/

namespace Rulebook.Number

/-- A double-precision number. -/
inductive Double where
  /-- Not a number. -/
  | nan
  /-- Beyond every finite number, on either side. -/
  | infinity (negative : Bool)
  /-- Zero approached from below. -/
  | negativeZero
  /-- A whole number of least units. -/
  | finite (units : Int)
  deriving DecidableEq, Repr

namespace Double

/-- The number of least units in the number one. -/
def unitsPerOne : Nat := Nat.pow 2 1074

/-- The first number of units that is too large for a finite double. -/
def unitLimit : Nat := Nat.pow 2 2098

/-- The finite number of so many units on the given side of zero. -/
def ofUnits (negative : Bool) (units : Nat) : Double :=
  if unitLimit ≤ units then .infinity negative
  else if negative then (if units = 0 then .negativeZero else .finite (-(units : Int)))
  else .finite units

/-! ## Rounding -/

/-- The quotient rounded to the nearest natural number, a tie to the even one. -/
def roundedQuotient (num den : Nat) : Nat :=
  let quotient := num / den
  let rest := num % den
  if 2 * rest < den || (2 * rest == den && quotient % 2 == 0) then quotient else quotient + 1

/-- The representable number of units that is nearest to `num / den`: fifty-three leading binary
digits are kept. -/
def nearestUnits (num den : Nat) : Nat :=
  let spacing := Nat.pow 2 ((num / den).log2 - 52)
  roundedQuotient num (den * spacing) * spacing

/-- The double nearest to `num / den` on the given side of zero. -/
def ofRatio (negative : Bool) (num den : Nat) : Double :=
  ofUnits negative (nearestUnits (num * unitsPerOne) den)

/-- The double nearest to `digits * 10 ^ exponent`. Exponents so far out that the answer is zero or
infinite are decided without computing the power. -/
def ofDecimal (negative : Bool) (digits : Nat) (exponent : Int) : Double :=
  if digits = 0 then ofUnits negative 0
  -- beyond the range of doubles on either side
  else if 400 < exponent then .infinity negative
  else if exponent + digits.log2 < -400 then ofUnits negative 0
  else if 0 ≤ exponent then ofRatio negative (digits * Nat.pow 10 exponent.toNat) 1
  else ofRatio negative digits (Nat.pow 10 (-exponent).toNat)

/-! ## Whole parts -/

/-- The whole part of a finite number, cut toward zero. -/
def truncate? : Double → Option Int
  | .nan => none
  | .infinity _ => none
  | .negativeZero => some 0
  | .finite units => some (units.tdiv unitsPerOne)

/-- A finite number without a fractional part. -/
def isWhole : Double → Bool
  | .nan => false
  | .infinity _ => false
  | .negativeZero => true
  | .finite units => units.tmod unitsPerOne == 0

/-! ## Interchange form -/

/-- The number of fractions that the interchange form tells apart. -/
def fractionSize : Nat := 0x10000000000000

/-- The bit of the interchange form that tells the side of zero. -/
def signBit : Nat := 0x8000000000000000

/-- Reads the sixty-four bits of the interchange form. -/
def ofBits (bits : Nat) : Double :=
  let negative := (bits >>> 63) % 2 == 1
  let exponent := (bits >>> 52) % 2048
  let fraction := bits % fractionSize
  if exponent = 2047 then (if fraction = 0 then .infinity negative else .nan)
  else ofUnits negative
    (if exponent = 0 then fraction else (fraction + fractionSize) * Nat.pow 2 (exponent - 1))

/-- The interchange form of so many units, without the sign. The exponent field counts the binary
digits beyond the fifty-third, and the leading digit carries into it. -/
def unitBits (units : Nat) : Nat :=
  let extra := units.log2 - 52
  extra * fractionSize + units / Nat.pow 2 extra

/-- The sixty-four bits of the interchange form. -/
def toBits : Double → Nat
  | .nan => 0x7FF8000000000000
  | .infinity negative => (if negative then signBit else 0) + 0x7FF0000000000000
  | .negativeZero => signBit
  | .finite units => (if units < 0 then signBit else 0) + unitBits units.natAbs

end Double

/-! ## Comparison -/

/-- A place on the extended number line, in least units. -/
inductive Place where
  /-- Below every number. -/
  | below
  /-- At a whole number of least units. -/
  | at (units : Int)
  /-- Above every number. -/
  | above
  deriving DecidableEq, Repr

/-- One place lies before another. -/
def Place.precedes : Place → Place → Bool
  | .below, .below => false
  | .below, _ => true
  | .at _, .below => false
  | .at a, .at b => a < b
  | .at _, .above => true
  | .above, _ => false

/-- Where a double lies on the number line; not a number lies nowhere. -/
def Double.place? : Double → Option Place
  | .nan => none
  | .infinity negative => some (if negative then .below else .above)
  | .negativeZero => some (.at 0)
  | .finite units => some (.at units)

/-- Where a whole number lies on the number line. -/
def placeOfInt (n : Int) : Place := .at (n * Double.unitsPerOne)

end Rulebook.Number
