import SnapshotQuery.Text.Escape
import SnapshotQuery.Text.Outline
import SnapshotQuery.Text.Printable

/-!
# Decoding

A decoder reads a value of a known type off an outline.  It meets the problems
of the text from left to right and reports the first, be it a value of the
wrong type or a place where the text is not well formed.
-/

namespace SnapshotQuery

/-- What a text holds where something else was expected. -/
inductive Found where
  | integer (value : Int)
  | float (value : Binary64)
  | bool (flag : Bool)
  | string (text : String)
  | null
  | array
  | object
  /-- The name of a variant without the data it carries. -/
  | bareVariant
deriving DecidableEq

namespace Found

/-- A character in a quoted sample of the text; the code of an unprintable one is in braces. -/
def sampleChar (character : Char) : List Char :=
  if character = '"' then ['\\', '"']
  else if character = '\\' then ['\\', '\\']
  else if character = '\n' then ['\\', 'n']
  else if character = '\r' then ['\\', 'r']
  else if character = '\t' then ['\\', 't']
  else if character = '\x00' then ['\\', '0']
  else if Printable.isPrintable character then [character]
  else ['\\', 'u', '\x7b'] ++ Nat.toDigits 16 character.toNat ++ ['\x7d']

def text : Found → String
  | integer value => "integer `" ++ toString value ++ "`"
  | float value => "floating point `" ++ Number.layout.text value ++ "`"
  | bool flag => "boolean `" ++ (if flag then "true" else "false") ++ "`"
  | string content => "string \"" ++ String.ofList (content.toList.flatMap sampleChar) ++ "\""
  | null => "null"
  | array => "sequence"
  | object => "map"
  | bareVariant => "unit variant"

end Found

inductive DecodeError where
  | malformed
  | wrongType (found : Found) (expected : String)
  | outOfRange (value : Int) (expected : String)
  | missingField (name : String)
  | duplicateField (name : String)
  | unknownVariant (name : String) (known : List String)
  | tooShort (length : Nat) (expected : String)
deriving DecidableEq

namespace DecodeError

def choices : List String → String
  | [] => "there are no variants"
  | [only] => "expected `" ++ only ++ "`"
  | [first, second] => "expected `" ++ first ++ "` or `" ++ second ++ "`"
  | names => "expected one of " ++ ", ".intercalate (names.map fun name => "`" ++ name ++ "`")

def message : DecodeError → String
  | malformed => "malformed JSON"
  | wrongType found expected => "invalid type: " ++ found.text ++ ", expected " ++ expected
  | outOfRange value expected =>
      "invalid value: integer `" ++ toString value ++ "`, expected " ++ expected
  | missingField name => "missing field `" ++ name ++ "`"
  | duplicateField name => "duplicate field `" ++ name ++ "`"
  | unknownVariant name known => "unknown variant `" ++ name ++ "`, " ++ choices known
  | tooShort length expected => "invalid length " ++ toString length ++ ", expected " ++ expected

end DecodeError

abbrev Decoder (Item : Type) := Outline → Except DecodeError Item

namespace Decoder

variable {Item : Type}

/-- What an outline holds; half a surrogate pair or an infinite number is malformed here. -/
def found : Decoder Found
  | .null => .ok .null
  | .bool flag => .ok (.bool flag)
  | .number (some (.integer value)) => .ok (.integer value)
  | .number (some (.float value)) => .ok (.float value)
  | .number none => .error .malformed
  | .string (some text) => .ok (.string text)
  | .string none => .error .malformed
  | .array _ _ => .ok .array
  | .object _ _ => .ok .object
  | .broken => .error .malformed

def refuse (expected : String) (outline : Outline) : Except DecodeError Item :=
  match found outline with
  | .ok holding => .error (.wrongType holding expected)
  | .error problem => .error problem

/-- An integer from zero up to but not including `bound`. -/
def unsigned (bound : Nat) (name : String) : Decoder Nat
  | .number (some (.integer value)) =>
      if 0 ≤ value ∧ value < bound then .ok value.toNat else .error (.outOfRange value name)
  | outline => refuse name outline

def unsigned32 : Decoder Nat := unsigned UInt32.size "u32"

def unsigned64 : Decoder Nat := unsigned UInt64.size "u64"

def count : Decoder Nat := unsigned UInt64.size "usize"

def string : Decoder String
  | .string (some text) => .ok text
  | outline => refuse "a string" outline

def unit : Decoder Unit
  | .null => .ok ()
  | outline => refuse "unit" outline

def orNull (decoder : Decoder Item) : Decoder (Option Item)
  | .null => .ok none
  | outline => (decoder outline).map some

inductive Variant (Item : Type) where
  | plain (item : Item)
  | carrying (decoder : Decoder Item)

def Variant.ofData : Variant Item → Decoder Item
  | .plain item, outline => (unit outline).map fun _ => item
  | .carrying decoder, outline => decoder outline

def Variant.ofName : Variant Item → Except DecodeError Item
  | .plain item => .ok item
  | .carrying _ => .error (.wrongType .bareVariant "newtype variant")

def variantNamed (variants : List (String × Variant Item)) (name : String) :
    Except DecodeError (Variant Item) :=
  match variants.lookup name with
  | some variant => .ok variant
  | none => .error (.unknownVariant name (variants.map (·.1)))

/-- One of several named variants: its name, or an object with the name as its one key. -/
def oneOf (variants : List (String × Variant Item)) : Decoder Item
  | .string (some name) => do (← variantNamed variants name).ofName
  | .object ((some name, data) :: rest) closed => do
      let item ← (← variantNamed variants name).ofData data
      if rest.isEmpty && closed then .ok item else .error .malformed
  | _ => .error .malformed

/-- Decode each value of a map; the last value of a key stays. -/
def mapEntries (decoder : Decoder Item) :
    OrderedMap String Item → List (Option String × Outline) →
      Except DecodeError (OrderedMap String Item)
  | map, [] => .ok map
  | map, (some key, value) :: rest => do
      mapEntries decoder (map.insert key (← decoder value)) rest
  | _, _ :: _ => .error .malformed

def map (decoder : Decoder Item) : Decoder (OrderedMap String Item)
  | .object fields closed => do
      let map ← mapEntries decoder .empty fields
      if closed then .ok map else .error .malformed
  | outline => refuse "a map" outline

/-- Decode a whole text; nothing but blanks may follow the value. -/
def ofText (decoder : Decoder Item) (text : String) : Except DecodeError Item :=
  let (outline, complete) := Outline.ofText text
  match decoder outline with
  | .ok item => if complete then .ok item else .error .malformed
  | .error problem => .error problem

end Decoder

structure DraftField (Draft : Type) where
  name : String
  /-- The draft has a value of the field already. -/
  given : Draft → Bool
  read : Draft → Decoder Draft

/-- A record is an object with its fields in any order, or an array of them in order. -/
structure RecordForm (Draft : Type) where
  name : String
  fields : List (DraftField Draft)
  /-- An array may leave out trailing fields. -/
  mayStopEarly : Bool

namespace RecordForm

variable {Draft : Type}

def ofFields (form : RecordForm Draft) :
    Draft → List (Option String × Outline) → Except DecodeError Draft
  | draft, [] => .ok draft
  | draft, (some key, value) :: rest =>
      match form.fields.find? fun field => field.name = key with
      | some field =>
          if field.given draft then .error (.duplicateField key)
          else do form.ofFields (← field.read draft value) rest
      | none => if value.wellFormed then form.ofFields draft rest else .error .malformed
  | _, _ :: _ => .error .malformed

def ofItems (form : RecordForm Draft) (closed : Bool) :
    List (DraftField Draft) → Draft → List Outline → Except DecodeError Draft
  | [], draft, [] => if closed then .ok draft else .error .malformed
  | [], _, _ :: _ => .error .malformed
  | fields@(_ :: _), draft, [] =>
      if !closed then .error .malformed
      else if form.mayStopEarly then .ok draft
      else .error (.tooShort (form.fields.length - fields.length)
        (form.name ++ " with " ++ toString form.fields.length ++ " elements"))
  | field :: fields, draft, item :: items => do
      form.ofItems closed fields (← field.read draft item) items

def decode (form : RecordForm Draft) (draft : Draft) : Decoder Draft
  | .object fields closed => do
      let draft ← form.ofFields draft fields
      if closed then .ok draft else .error .malformed
  | .array items closed => form.ofItems closed form.fields draft items
  | outline => Decoder.refuse form.name outline

end RecordForm

end SnapshotQuery
