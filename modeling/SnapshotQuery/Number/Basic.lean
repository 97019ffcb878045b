import SnapshotQuery.Number.Shortest

/-!
# Numbers

A number of a document is an integer of at most 64 bits or a finite binary64
number.  The two kinds stay apart: `1` and `1.0` are different numbers that
compare as equal.
-/

namespace SnapshotQuery

inductive Number where
  | integer (value : Int)
  | float (value : Binary64)
deriving DecidableEq, Inhabited

namespace Number

/-- Signed integers of 64 bits lie below it and not below its opposite. -/
def signedLimit : Nat := 1 <<< 63

/-- Integers a document can hold: signed below zero, unsigned from zero on, both 64 bits. -/
def InRange (value : Int) : Prop := -signedLimit ≤ value ∧ value < UInt64.size

instance (value : Int) : Decidable (InRange value) := inferInstanceAs (Decidable (_ ∧ _))

def layout : FloatLayout := ⟨-5, 15, "+"⟩

def isInteger : Number → Bool
  | integer _ => true
  | float _ => false

def signed? : Number → Option Int
  | integer value => if -signedLimit ≤ value ∧ value < signedLimit then some value else none
  | float _ => none

def toBinary64 : Number → Binary64
  | integer value => Binary64.ofInt value
  | float value => value

/-- Exact order between signed integers, order of the nearest binary64 numbers otherwise. -/
def compare (left right : Number) : Ordering :=
  match left.signed?, right.signed? with
  | some left, some right => Ord.compare left right
  | _, _ => left.toBinary64.compare right.toBinary64

/-- Same kind and same value; the two zeros of the float kind are one value. -/
def same : Number → Number → Bool
  | integer left, integer right => left == right
  | float left, float right => left.units == right.units
  | _, _ => false

def text : Number → String
  | integer value => toString value
  | float value => layout.text value

end Number

end SnapshotQuery
