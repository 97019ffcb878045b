import SnapshotQuery.Number.Basic

/-!
# Number literals

A literal without point and exponent that fits 64 bits is that integer.  Any
other literal is a float: as many leading digits as fit 64 bits are kept as one
natural number, the digits dropped before the point count as powers of ten, and
the rounded number is scaled by one rounded power of ten.
-/

namespace SnapshotQuery

structure NumberLiteral where
  negative : Bool
  whole : List Nat
  fraction : Option (List Nat)
  exponent : Option (Bool × List Nat)
deriving DecidableEq

namespace NumberLiteral

def digitsValue (digits : List Nat) : Nat :=
  digits.foldl (fun value digit => 10 * value + digit) 0

/-- Extend a natural number below `2 ^ 64` by digits while it stays below, and give the
digits left over. -/
def absorb (value : Nat) : List Nat → Nat × List Nat
  | [] => (value, [])
  | digit :: rest =>
      if 10 * value + digit < UInt64.size then absorb (10 * value + digit) rest
      else (value, digit :: rest)

def kept (literal : NumberLiteral) : Nat × Int :=
  let (whole, overflow) := absorb 0 literal.whole
  let (significand, unread) := absorb whole (literal.fraction.getD [])
  (significand,
    overflow.length - ((literal.fraction.getD []).length - unread.length : Nat))

def exponentLimit : Int := (1 <<< 31 : Nat)

def clampExponent (exponent : Int) : Int :=
  max (-exponentLimit) (min (exponentLimit - 1) exponent)

/-- Scale by a power of ten: one rounded product or quotient, after quotients by `10 ^ 308`
while the power lies below the table of powers.  Nothing is beyond the finite range. -/
def scale? : Nat → Binary64 → Int → Option Binary64
  | 0, number, _ => some number
  | fuel + 1, number, power =>
      if power.natAbs ≤ 308 then
        if 0 ≤ power then number.scaleBy? (Binary64.powerOfTen power.natAbs)
        else some (number.divideBy (Binary64.powerOfTen power.natAbs))
      else if number.isZero then some number
      else if 0 ≤ power then none
      else scale? fuel (number.divideBy (Binary64.powerOfTen 308)) (power + 308)

/-- The float of a literal, or nothing beyond the finite range.  Five quotients by `10 ^ 308`
take every significand to zero. -/
def float? (literal : NumberLiteral) : Option Binary64 :=
  let (significand, shift) := literal.kept
  let signed (number : Binary64) : Binary64 := { number with negative := literal.negative }
  let start := Binary64.ofInt significand
  match literal.exponent with
  | none => (scale? 5 start shift).map signed
  | some (negative, digits) =>
      let size := digitsValue digits
      if exponentLimit ≤ size then
        if significand ≠ 0 ∧ ¬ negative then none else some (Binary64.zero literal.negative)
      else
        let power := clampExponent (if negative then shift - size else shift + size)
        (scale? 5 start power).map signed

def number? (literal : NumberLiteral) : Option Number :=
  match literal.fraction, literal.exponent with
  | none, none =>
      let size := digitsValue literal.whole
      if literal.negative then
        if 0 < size ∧ size ≤ Number.signedLimit then some (.integer (-(size : Int)))
        else literal.float?.map .float
      else if size < UInt64.size then some (.integer size)
      else literal.float?.map .float
  | _, _ => literal.float?.map .float

end NumberLiteral

end SnapshotQuery
