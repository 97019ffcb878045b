import SnapshotQuery.Text.Escape
import SnapshotQuery.Value.Basic

/-!
# Value text

A value is written without blanks, the fields of an object in key order.
-/

namespace SnapshotQuery

namespace Value

/-- Quotes, backslashes and the control characters below the blank are escaped. -/
def escapes : EscapeRule where
  short? character :=
    if character = '"' then some '"'
    else if character = '\\' then some '\\'
    else if character = '\x08' then some 'b'
    else if character = '\x0c' then some 'f'
    else if character = '\n' then some 'n'
    else if character = '\r' then some 'r'
    else if character = '\t' then some 't'
    else none
  long character := character.toNat < 0x20

def text : Value → String
  | null => "null"
  | bool true => "true"
  | bool false => "false"
  | number held => held.text
  | string content => escapes.quote content
  | array [] => "[]"
  | array (item :: rest) => "[" ++ text item ++ itemsText rest ++ "]"
  | object [] => "\x7b\x7d"
  | object ((key, value) :: rest) =>
      "\x7b" ++ escapes.quote key ++ ":" ++ text value ++ fieldsText rest ++ "\x7d"
where
  itemsText : List Value → String
    | [] => ""
    | item :: rest => "," ++ text item ++ itemsText rest
  fieldsText : List (String × Value) → String
    | [] => ""
    | (key, value) :: rest =>
        "," ++ escapes.quote key ++ ":" ++ text value ++ fieldsText rest

end Value

end SnapshotQuery
