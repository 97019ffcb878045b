/-!
# Binary64

Finite binary floating point numbers as exact data: a sign, a significand
below `2 ^ 53` and a power of two.  All arithmetic is exact arithmetic followed
by one rounding to the nearest number, ties to the even significand, so order
and equality can be read off integers.
-/

namespace SnapshotQuery

/-- A finite binary64 number: `significand * 2 ^ exponent` with a sign. -/
structure Binary64 where
  negative : Bool
  significand : Nat
  exponent : Int
deriving DecidableEq, Inhabited

namespace Binary64

def minExponent : Int := -1074

def maxExponent : Int := 971

/-- The form every finite number has exactly once. -/
def Canonical (number : Binary64) : Prop :=
  number.significand < 1 <<< 53 ∧ minExponent ≤ number.exponent ∧ number.exponent ≤ maxExponent ∧
    (1 <<< 52 ≤ number.significand ∨ number.exponent = minExponent)

def zero (negative : Bool) : Binary64 := ⟨negative, 0, minExponent⟩

def isZero (number : Binary64) : Bool := number.significand == 0

/-- The magnitude as a multiple of the least positive number. -/
def magnitudeUnits (number : Binary64) : Nat :=
  number.significand <<< (number.exponent - minExponent).toNat

def units (number : Binary64) : Int :=
  if number.negative then -(number.magnitudeUnits : Int) else number.magnitudeUnits

/-- The quotient rounded to a whole number, a half to the even neighbour. -/
def roundHalfEven (numerator denominator : Nat) : Nat :=
  let quotient := numerator / denominator
  let twice := 2 * (numerator % denominator)
  if twice < denominator then quotient
  else if denominator < twice then quotient + 1
  else if quotient % 2 = 0 then quotient else quotient + 1

def scaleDown (numerator denominator : Nat) (exponent : Int) : Nat × Nat :=
  (numerator <<< (-exponent).toNat, denominator <<< exponent.toNat)

/-- The exponent at which a quotient is rounded: 53 significant bits, fewer near zero. -/
def roundingExponent (numerator denominator : Nat) : Int :=
  let guess : Int := (numerator.log2 : Int) - (denominator.log2 : Int) - 52
  let scaled := scaleDown numerator denominator guess
  max minExponent (if scaled.1 / scaled.2 < 1 <<< 52 then guess - 1 else guess)

def ofRatio? (negative : Bool) (numerator denominator : Nat) : Option Binary64 :=
  if numerator = 0 then some (zero negative)
  else
    let exponent := roundingExponent numerator denominator
    let scaled := scaleDown numerator denominator exponent
    let significand := roundHalfEven scaled.1 scaled.2
    let number : Binary64 :=
      if significand = 1 <<< 53 then ⟨negative, 1 <<< 52, exponent + 1⟩
      else ⟨negative, significand, exponent⟩
    if number.exponent ≤ maxExponent then some number else none

def ofInt (value : Int) : Binary64 :=
  (ofRatio? (value < 0) value.natAbs 1).getD (zero false)

def magnitudeRatio (number : Binary64) : Nat × Nat :=
  (number.significand <<< number.exponent.toNat, 1 <<< (-number.exponent).toNat)

def powerOfTen (power : Nat) : Binary64 :=
  (ofRatio? false (Nat.pow 10 power) 1).getD (zero false)

def scaleBy? (number factor : Binary64) : Option Binary64 :=
  let left := number.magnitudeRatio
  let right := factor.magnitudeRatio
  ofRatio? number.negative (left.1 * right.1) (left.2 * right.2)

def divideBy (number divisor : Binary64) : Binary64 :=
  let left := number.magnitudeRatio
  let right := divisor.magnitudeRatio
  (ofRatio? number.negative (left.1 * right.2) (left.2 * right.1)).getD (zero number.negative)

/-- Order by value; the two zeros are equal. -/
def compare (left right : Binary64) : Ordering :=
  Ord.compare left.units right.units

end Binary64

end SnapshotQuery
