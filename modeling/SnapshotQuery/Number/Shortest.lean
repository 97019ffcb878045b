import SnapshotQuery.Number.Binary64

/-!
# Shortest decimals

The decimal of a binary64 number is the one with the fewest digits that reads
back as the same number, and among those of that length the nearest.
-/

namespace SnapshotQuery

/-- A positive decimal number `digits * 10 ^ exponent`. -/
structure Decimal where
  digits : Nat
  exponent : Int
deriving DecidableEq, Inhabited

namespace Decimal

def ratio (decimal : Decimal) : Nat × Nat :=
  (decimal.digits * Nat.pow 10 decimal.exponent.toNat, Nat.pow 10 (-decimal.exponent).toNat)

def readsBackAs (decimal : Decimal) (number : Binary64) : Bool :=
  Binary64.ofRatio? number.negative decimal.ratio.1 decimal.ratio.2 = some number

def dropZeros : Nat → Decimal → Decimal
  | 0, decimal => decimal
  | fuel + 1, decimal =>
      if decimal.digits ≠ 0 ∧ decimal.digits % 10 = 0 then
        dropZeros fuel ⟨decimal.digits / 10, decimal.exponent + 1⟩
      else decimal

/-- The greatest `power` with `10 ^ power` at most the quotient. -/
def leadingPower (numerator denominator : Nat) : Int :=
  let guess : Int := ((Nat.toDigits 10 numerator).length : Int) -
    ((Nat.toDigits 10 denominator).length : Int)
  if denominator * Nat.pow 10 guess.toNat ≤ numerator * Nat.pow 10 (-guess).toNat then guess
  else guess - 1

/-- The two neighbours of a quotient on the grid of multiples of `10 ^ power`, with the
remainder and the width of the grid cell in a common unit. -/
def neighbours (numerator denominator : Nat) (power : Int) : Decimal × Decimal × Nat × Nat :=
  let top := numerator * Nat.pow 10 (-power).toNat
  let bottom := denominator * Nat.pow 10 power.toNat
  (⟨top / bottom, power⟩, ⟨top / bottom + 1, power⟩, top % bottom, bottom)

/-- The neighbour on a grid that reads back, the nearer if both do, the even one on a tie. -/
def onGrid? (number : Binary64) (power : Int) : Option Decimal :=
  let magnitude := number.magnitudeRatio
  let (low, high, rest, width) := neighbours magnitude.1 magnitude.2 power
  match low.readsBackAs number, high.readsBackAs number with
  | true, true =>
      if 2 * rest < width then some low
      else if width < 2 * rest then some high
      else if low.digits % 2 = 0 then some low else some high
  | true, false => some low
  | false, true => some high
  | false, false => none

def search (number : Binary64) (leading : Int) : Nat → Nat → Decimal
  | _, 0 => ⟨0, 0⟩
  | length, fuel + 1 =>
      match onGrid? number (leading - (length - 1 : Nat)) with
      | some decimal => decimal
      | none => search number leading (length + 1) fuel

/-- The shortest decimal of a nonzero number; 17 digits always suffice. -/
def shortest (number : Binary64) : Decimal :=
  let magnitude := number.magnitudeRatio
  dropZeros 20 (search number (leadingPower magnitude.1 magnitude.2) 1 17)

end Decimal

structure FloatLayout where
  positionalFrom : Int
  positionalTo : Int
  exponentSign : String

namespace FloatLayout

def positional (digits : List Char) (whole : Int) : String :=
  if whole ≤ 0 then
    "0." ++ String.ofList (List.replicate (-whole).toNat '0' ++ digits)
  else
    let count := whole.toNat
    let fraction := digits.drop count
    String.ofList (digits.take count ++ List.replicate (count - digits.length) '0') ++ "." ++
      (if fraction.isEmpty then "0" else String.ofList fraction)

def scientific (layout : FloatLayout) (digits : List Char) (power : Int) : String :=
  let mantissa := match digits with
    | [] => "0"
    | [digit] => String.ofList [digit]
    | digit :: rest => String.ofList (digit :: '.' :: rest)
  mantissa ++ "e" ++ (if power < 0 then "-" else layout.exponentSign) ++ toString power.natAbs

def text (layout : FloatLayout) (number : Binary64) : String :=
  let sign := if number.negative then "-" else ""
  if number.isZero then sign ++ "0.0"
  else
    let decimal := Decimal.shortest number
    let digits := Nat.toDigits 10 decimal.digits
    let power := decimal.exponent + digits.length - 1
    if layout.positionalFrom ≤ power ∧ power ≤ layout.positionalTo then
      sign ++ positional digits (power + 1)
    else sign ++ layout.scientific digits power

end FloatLayout

end SnapshotQuery
