import SnapshotQuery.Number.Basic
import SnapshotQuery.OrderedMap

/-!
# Values

The values rows hold and predicates compare with.  The fields of an object are
a map, so they stand in increasing key order and every key stands once.
-/

namespace SnapshotQuery

inductive Value where
  | null
  | bool (flag : Bool)
  | number (number : Number)
  | string (text : String)
  | array (items : List Value)
  | object (fields : List (String × Value))
deriving Inhabited

namespace Value

/-- An object from fields in any order; the last of several fields with one key stays. -/
def ofFields (fields : List (String × Value)) : Value :=
  object (OrderedMap.ofList fields).entries

def integer (value : Int) : Value := number (.integer value)

def nat (value : Nat) : Value := integer value

def strings (texts : List String) : Value := array (texts.map string)

/-- The value of a null-or-value field. -/
def ofOption {Item : Type} (encode : Item → Value) : Option Item → Value
  | none => null
  | some item => encode item

def isNull : Value → Bool
  | null => true
  | _ => false

/-- A field of an object; other values have none. -/
def field? (value : Value) (key : String) : Option Value :=
  match value with
  | object fields => fields.lookup key
  | _ => none

/-- Equality of values, with numbers of one kind compared by value. -/
def same : Value → Value → Bool
  | null, null => true
  | bool left, bool right => left == right
  | number left, number right => left.same right
  | string left, string right => left == right
  | array left, array right => sameItems left right
  | object left, object right => sameFields left right
  | _, _ => false
where
  sameItems : List Value → List Value → Bool
    | [], [] => true
    | left :: lefts, right :: rights => same left right && sameItems lefts rights
    | _, _ => false
  sameFields : List (String × Value) → List (String × Value) → Bool
    | [], [] => true
    | (key, left) :: lefts, (other, right) :: rights =>
        key == other && same left right && sameFields lefts rights
    | _, _ => false

end Value

end SnapshotQuery
