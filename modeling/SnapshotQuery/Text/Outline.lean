import SnapshotQuery.Number.Literal
import SnapshotQuery.Value.Basic

/-!
# Outlines

The outline of a text is its tree of values as far as the text is well formed.
It stops at the first place that is not: from there on it says `broken`, and
every bracket open at that place is marked as not closed.  A reader that walks
an outline from left to right meets its problems in the order of the text.
-/

namespace SnapshotQuery

/-- The tree of a text up to the first place that is not well formed. -/
inductive Outline where
  | null
  | bool (flag : Bool)
  /-- A number, or nothing beyond the finite range. -/
  | number (number : Option Number)
  /-- The text between quotes, or nothing if it has half a surrogate pair. -/
  | string (text : Option String)
  | array (items : List Outline) (closed : Bool)
  /-- Fields as key and value; a key with half a surrogate pair is no text, and a key that is
  not a string is broken together with its value. -/
  | object (fields : List (Option String × Outline)) (closed : Bool)
  | broken
deriving Inhabited

namespace Outline

def isBlank (character : Char) : Bool :=
  character = ' ' || character = '\n' || character = '\t' || character = '\r'

def skipBlanks : List Char → List Char
  | [] => []
  | character :: rest => if isBlank character then skipBlanks rest else character :: rest

def hexDigit? (character : Char) : Option Nat :=
  let code := character.toNat
  if 0x30 ≤ code ∧ code ≤ 0x39 then some (code - 0x30)
  else if 0x61 ≤ code ∧ code ≤ 0x66 then some (code - 0x61 + 10)
  else if 0x41 ≤ code ∧ code ≤ 0x46 then some (code - 0x41 + 10)
  else none

def hexUnit? : List Char → Option (Nat × List Char)
  | first :: second :: third :: fourth :: rest => do
      let a ← hexDigit? first
      let b ← hexDigit? second
      let c ← hexDigit? third
      let d ← hexDigit? fourth
      return (((a * 16 + b) * 16 + c) * 16 + d, rest)
  | _ => none

def shortEscape? (letter : Char) : Option Char :=
  if letter = '"' then some '"'
  else if letter = '\\' then some '\\'
  else if letter = '/' then some '/'
  else if letter = 'b' then some '\x08'
  else if letter = 'f' then some '\x0c'
  else if letter = 'n' then some '\n'
  else if letter = 'r' then some '\r'
  else if letter = 't' then some '\t'
  else none

inductive Piece where
  | character (character : Char)
  | unit (code : Nat)
deriving DecidableEq

def pieces? : List Char → Option (List Piece × List Char)
  | [] => none
  | '"' :: rest => some ([], rest)
  | '\\' :: 'u' :: first :: second :: third :: fourth :: rest =>
      match hexUnit? [first, second, third, fourth], pieces? rest with
      | some (code, _), some (found, after) => some (.unit code :: found, after)
      | _, _ => none
  | '\\' :: letter :: rest =>
      match shortEscape? letter, pieces? rest with
      | some character, some (found, after) => some (.character character :: found, after)
      | _, _ => none
  | character :: rest =>
      if character = '\\' ∨ character.toNat < 0x20 then none
      else (pieces? rest).map fun (found, after) => (.character character :: found, after)

/-- Join the pieces: two units that form a surrogate pair are one character, and a lone half
of a pair is no character. -/
def joinPieces : List Piece → Option (List Char)
  | [] => some []
  | .character character :: rest => (joinPieces rest).map (character :: ·)
  | .unit high :: .unit low :: rest =>
      if 0xD800 ≤ high ∧ high < 0xDC00 then
        if 0xDC00 ≤ low ∧ low < 0xE000 then
          (joinPieces rest).map
            (Char.ofNat (0x10000 + (high - 0xD800) * 0x400 + (low - 0xDC00)) :: ·)
        else none
      else if 0xDC00 ≤ high ∧ high < 0xE000 then none
      else (joinPieces (.unit low :: rest)).map (Char.ofNat high :: ·)
  | .unit code :: rest =>
      if 0xD800 ≤ code ∧ code < 0xE000 then none
      else (joinPieces rest).map (Char.ofNat code :: ·)

def quoted? (text : List Char) : Option (Option String × List Char) :=
  (pieces? text).map fun (found, rest) => ((joinPieces found).map String.ofList, rest)

def digit? (character : Char) : Option Nat :=
  if '0' ≤ character ∧ character ≤ '9' then some (character.toNat - '0'.toNat) else none

def digits : List Char → List Nat × List Char
  | [] => ([], [])
  | character :: rest =>
      match digit? character with
      | some digit => (digit :: (digits rest).1, (digits rest).2)
      | none => ([], character :: rest)

/-- The whole part of a number: one zero, or digits that do not start with a zero. -/
def whole? (text : List Char) : Option (List Nat × List Char) :=
  match digits text with
  | ([], _) => none
  | (0 :: _ :: _, _) => none
  | (found, rest) => some (found, rest)

/-- The fraction after a point, if there is a point; a point needs a digit after it. -/
def fraction? : List Char → Option (Option (List Nat) × List Char)
  | '.' :: text =>
      match digits text with
      | ([], _) => none
      | (found, rest) => some (some found, rest)
  | text => some (none, text)

def exponentSign : List Char → Bool × List Char
  | '+' :: rest => (false, rest)
  | '-' :: rest => (true, rest)
  | text => (false, text)

/-- The exponent, if there is one; its letter needs a digit after it and its sign. -/
def exponent? (text : List Char) : Option (Option (Bool × List Nat) × List Char) :=
  match text with
  | letter :: after =>
      if letter = 'e' ∨ letter = 'E' then
        let (negative, rest) := exponentSign after
        match digits rest with
        | ([], _) => none
        | (found, rest) => some (some (negative, found), rest)
      else some (none, text)
  | [] => some (none, [])

def literal? (negative : Bool) (text : List Char) : Option (NumberLiteral × List Char) := do
  let (whole, text) ← whole? text
  let (fraction, text) ← fraction? text
  let (exponent, text) ← exponent? text
  return (⟨negative, whole, fraction, exponent⟩, text)

def after? : List Char → List Char → Option (List Char)
  | [], text => some text
  | expected :: word, character :: text =>
      if expected = character then after? word text else none
  | _ :: _, [] => none

def scalar : List Char → Outline × Option (List Char)
  | [] => (broken, none)
  | '"' :: text =>
      match quoted? text with
      | some (content, rest) => (string content, some rest)
      | none => (broken, none)
  | '-' :: text => number true text
  | character :: text =>
      if (digit? character).isSome then number false (character :: text)
      else if character = 'n' then word ['u', 'l', 'l'] null text
      else if character = 't' then word ['r', 'u', 'e'] (bool true) text
      else if character = 'f' then word ['a', 'l', 's', 'e'] (bool false) text
      else (broken, none)
where
  number (negative : Bool) (text : List Char) : Outline × Option (List Char) :=
    match literal? negative text with
    | some (literal, rest) => (Outline.number literal.number?, some rest)
    | none => (broken, none)
  word (tail : List Char) (meaning : Outline) (text : List Char) :
      Outline × Option (List Char) :=
    match after? tail text with
    | some rest => (meaning, some rest)
    | none => (broken, none)

/-- The key of a field, with what follows its colon unless there is no key or no colon. -/
def keyAt : List Char → Option String × Option (List Char)
  | '"' :: text =>
      match quoted? text with
      | some (key, rest) =>
          match skipBlanks rest with
          | ':' :: rest => (key, some rest)
          | _ => (key, none)
      | none => (none, none)
  | _ => (none, none)

mutual

/-- A value at the front of a text, with what follows it unless the text broke down inside.
The fuel bounds how many characters are looked at. -/
def valueAt : Nat → List Char → Outline × Option (List Char)
  | 0, _ => (broken, none)
  | fuel + 1, text =>
      match skipBlanks text with
      | '[' :: rest =>
          let (items, after) := itemsAt fuel true rest
          (array items after.isSome, after)
      | '\x7b' :: rest =>
          let (fields, after) := fieldsAt fuel true rest
          (object fields after.isSome, after)
      | text => scalar text

def itemsAt : Nat → Bool → List Char → List Outline × Option (List Char)
  | 0, _, _ => ([broken], none)
  | fuel + 1, first, text =>
      match first, skipBlanks text with
      | _, ']' :: rest => ([], some rest)
      | false, ',' :: rest => itemAt fuel (skipBlanks rest)
      | true, text => itemAt fuel text
      | false, _ => ([broken], none)

/-- One item and the items after it; a closing bracket is no item. -/
def itemAt : Nat → List Char → List Outline × Option (List Char)
  | 0, _ => ([broken], none)
  | fuel + 1, text =>
      match valueAt fuel text with
      | (item, some rest) =>
          let (items, after) := itemsAt fuel false rest
          (item :: items, after)
      | (item, none) => ([item], none)

def fieldsAt : Nat → Bool → List Char → List (Option String × Outline) × Option (List Char)
  | 0, _, _ => ([(none, broken)], none)
  | fuel + 1, first, text =>
      match first, skipBlanks text with
      | _, '\x7d' :: rest => ([], some rest)
      | false, ',' :: rest => fieldAt fuel (skipBlanks rest)
      | true, text => fieldAt fuel text
      | false, _ => ([(none, broken)], none)

def fieldAt : Nat → List Char → List (Option String × Outline) × Option (List Char)
  | 0, _ => ([(none, broken)], none)
  | fuel + 1, text =>
      match keyAt text with
      | (key, some rest) =>
          match valueAt fuel rest with
          | (value, some rest) =>
              let (fields, after) := fieldsAt fuel false rest
              ((key, value) :: fields, after)
          | (value, none) => ([(key, value)], none)
      | (key, none) => ([(key, broken)], none)

end

def ofText (text : String) : Outline × Bool :=
  let characters := text.toList
  match valueAt (2 * characters.length + 2) characters with
  | (outline, some rest) => (outline, (skipBlanks rest).isEmpty)
  | (outline, none) => (outline, false)

/-- No place of the outline is broken; what a skipped value must satisfy. -/
def wellFormed : Outline → Bool
  | null | bool _ | number _ | string _ => true
  | array items closed => closed && itemsWellFormed items
  | object fields closed => closed && fieldsWellFormed fields
  | broken => false
where
  itemsWellFormed : List Outline → Bool
    | [] => true
    | item :: rest => wellFormed item && itemsWellFormed rest
  fieldsWellFormed : List (Option String × Outline) → Bool
    | [] => true
    | (_, value) :: rest => wellFormed value && fieldsWellFormed rest

/-- The value an outline stands for; every part of it must have one. -/
def value? : Outline → Option Value
  | null => some .null
  | bool flag => some (.bool flag)
  | number held => held.map .number
  | string text => text.map .string
  | array items closed => if closed then (itemValues? items).map .array else none
  | object fields closed => if closed then (fieldValues? fields).map Value.ofFields else none
  | broken => none
where
  itemValues? : List Outline → Option (List Value)
    | [] => some []
    | item :: rest =>
        match value? item, itemValues? rest with
        | some value, some values => some (value :: values)
        | _, _ => none
  fieldValues? : List (Option String × Outline) → Option (List (String × Value))
    | [] => some []
    | (some key, item) :: rest =>
        match value? item, fieldValues? rest with
        | some value, some fields => some ((key, value) :: fields)
        | _, _ => none
    | _ :: _ => none

end Outline

def Value.ofText? (text : String) : Option Value :=
  match Outline.ofText text with
  | (outline, true) => outline.value?
  | (_, false) => none

end SnapshotQuery
