import SnapshotQuery.OrderedMap
import SnapshotQuery.Text.Decode

/-!
# Schemas

A table declares the fields its documents may carry.  Every field is optional,
and null stands for an absent field.
-/

namespace SnapshotQuery

inductive FieldType where
  | string
  | int
  | bool
  | float
deriving DecidableEq, Inhabited

namespace FieldType

def name : FieldType → String
  | string => "string"
  | int => "int"
  | bool => "bool"
  | float => "float"

/-- Values a field can hold: a float field takes any number, an int field integers only. -/
def accepts : FieldType → Value → Bool
  | string, .string _ => true
  | bool, .bool _ => true
  | int, .number number => number.isInteger
  | float, .number _ => true
  | _, _ => false

def decode : Decoder FieldType :=
  .oneOf [("string", .plain string), ("int", .plain int), ("bool", .plain bool),
    ("float", .plain float)]

end FieldType

/-- The name of a table and its declared fields. -/
structure TableSchema where
  name : String
  fields : OrderedMap String FieldType
deriving DecidableEq, Inhabited

/-- Why a document does not fit a schema. -/
inductive DocumentFault where
  | notAnObject
  | undeclaredField (field : String)
  | wrongType (field : String) (expected : FieldType)
deriving DecidableEq

namespace DocumentFault

/-- The fault in words, for the table of a name. -/
def reason (table : String) : DocumentFault → String
  | notAnObject => table ++ ": document must be an object"
  | undeclaredField field => table ++ ": undeclared field '" ++ field ++ "'"
  | wrongType field expected => table ++ ": field '" ++ field ++ "' expects " ++ expected.name

end DocumentFault

namespace TableSchema

/-- A table without fields. -/
def new (name : String) : TableSchema := ⟨name, .empty⟩

def declare (schema : TableSchema) (field : String) (type : FieldType) : TableSchema :=
  { schema with fields := schema.fields.insert field type }

def fieldType? (schema : TableSchema) (field : String) : Option FieldType :=
  schema.fields.find? field

def checkField (schema : TableSchema) (field : String) (value : Value) :
    Except DocumentFault Unit :=
  match schema.fieldType? field with
  | none => .error (.undeclaredField field)
  | some type =>
      if value.isNull || type.accepts value then .ok () else .error (.wrongType field type)

def checkFields (schema : TableSchema) : List (String × Value) → Except DocumentFault Unit
  | [] => .ok ()
  | (field, value) :: rest =>
      match schema.checkField field value with
      | .ok () => schema.checkFields rest
      | .error fault => .error fault

def checkDocument (schema : TableSchema) : Value → Except DocumentFault Unit
  | .object fields => schema.checkFields fields
  | _ => .error .notAnObject

/-- A schema being read. -/
structure Draft where
  name : Option String
  fields : Option (OrderedMap String FieldType)

def form : RecordForm Draft where
  name := "struct TableSchema"
  mayStopEarly := false
  fields := [
    { name := "name"
      given := fun draft => draft.name.isSome
      read := fun draft outline => do
        return { draft with name := some (← Decoder.string outline) } },
    { name := "fields"
      given := fun draft => draft.fields.isSome
      read := fun draft outline => do
        return { draft with fields := some (← Decoder.map FieldType.decode outline) } }]

def decode : Decoder TableSchema := fun outline => do
  match ← form.decode ⟨none, none⟩ outline with
  | ⟨some name, some fields⟩ => return ⟨name, fields⟩
  | ⟨none, _⟩ => .error (.missingField "name")
  | ⟨some _, none⟩ => .error (.missingField "fields")

def toValue (schema : TableSchema) : Value :=
  .ofFields [
    ("fields", .object (schema.fields.entries.map fun entry => (entry.1, .string entry.2.name))),
    ("name", .string schema.name)]

end TableSchema

end SnapshotQuery
