import SnapshotQuery.Schema
import SnapshotQuery.Value.Text

/-!
# Predicates

A predicate is a conjunction of conditions on fields; the empty one holds of
every document.  An absent or null field meets no condition.
-/

namespace SnapshotQuery

inductive FilterOp where
  | eq (operand : Value)
  | gte (bound : Value)
  | gt (bound : Value)
  | lte (bound : Value)
  | lt (bound : Value)
  /-- Both bounds belong to the range. -/
  | between (low high : Value)
deriving Inhabited

namespace FilterOp

def name : FilterOp → String
  | eq _ => "eq"
  | gte _ => "gte"
  | gt _ => "gt"
  | lte _ => "lte"
  | lt _ => "lt"
  | between _ _ => "between"

def operands : FilterOp → List Value
  | eq operand => [operand]
  | gte bound | gt bound | lte bound | lt bound => [bound]
  | between low high => [low, high]

def isRange : FilterOp → Bool
  | eq _ => false
  | _ => true

end FilterOp

structure Condition where
  field : String
  op : FilterOp
deriving Inhabited

structure Predicate where
  conditions : List Condition
deriving Inhabited

inductive PredicateFault where
  | unknownField (field : String)
  | operandType (field : String) (op : FilterOp) (expected : FieldType) (operand : Value)
  | rangeOnBool (field : String) (op : FilterOp)

namespace PredicateFault

def reason (table : String) : PredicateFault → String
  | unknownField field => table ++ ": unknown field '" ++ field ++ "'"
  | operandType field op expected operand =>
      table ++ ": '" ++ field ++ "' " ++ op.name ++ " expects " ++ expected.name ++
        " operand, got " ++ operand.text
  | rangeOnBool field op =>
      table ++ ": range '" ++ op.name ++ "' on bool field '" ++ field ++ "'"

end PredicateFault

/-- Order of two values of one kind: numbers by value, strings by code points. -/
def Value.compare? : Value → Value → Option Ordering
  | .number left, .number right => some (left.compare right)
  | .string left, .string right => some (compareOfLessAndEq left right)
  | _, _ => none

/-- Numbers are equal by value, all else exactly. -/
def Value.matchesExactly : Value → Value → Bool
  | .number left, .number right => left.compare right == .eq
  | left, right => left.same right

namespace FilterOp

def ordered (value bound : Value) (test : Ordering → Bool) : Bool :=
  ((value.compare? bound).map test).getD false

def holds (op : FilterOp) (value : Value) : Bool :=
  match op with
  | eq operand => value.matchesExactly operand
  | gte bound => ordered value bound Ordering.isGE
  | gt bound => ordered value bound Ordering.isGT
  | lte bound => ordered value bound Ordering.isLE
  | lt bound => ordered value bound Ordering.isLT
  | between low high =>
      ordered value low Ordering.isGE && ordered value high Ordering.isLE

end FilterOp

namespace Condition

def holds (condition : Condition) (document : Value) : Bool :=
  match document.field? condition.field with
  | some value => !value.isNull && condition.op.holds value
  | none => false

/-- Every operand fits the field, and a bool field is not compared by order. -/
def check (condition : Condition) (schema : TableSchema) : Except PredicateFault Unit :=
  match schema.fieldType? condition.field with
  | none => .error (.unknownField condition.field)
  | some type =>
      match condition.op.operands.find? fun operand => !type.accepts operand with
      | some operand => .error (.operandType condition.field condition.op type operand)
      | none =>
          if condition.op.isRange && type == .bool then
            .error (.rangeOnBool condition.field condition.op)
          else .ok ()

end Condition

namespace Predicate

/-- The predicate of every document. -/
def all : Predicate := ⟨[]⟩

def and (predicate : Predicate) (field : String) (op : FilterOp) : Predicate :=
  ⟨predicate.conditions ++ [⟨field, op⟩]⟩

def holds (predicate : Predicate) (document : Value) : Bool :=
  predicate.conditions.all fun condition => condition.holds document

/-- Check conditions in order; the first fault is reported. -/
def checkConditions (schema : TableSchema) : List Condition → Except PredicateFault Unit
  | [] => .ok ()
  | condition :: rest =>
      match condition.check schema with
      | .ok () => checkConditions schema rest
      | .error fault => .error fault

def check (predicate : Predicate) (schema : TableSchema) : Except PredicateFault Unit :=
  checkConditions schema predicate.conditions

end Predicate

end SnapshotQuery
