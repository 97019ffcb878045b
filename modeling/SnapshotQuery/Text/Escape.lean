/-!
# Escapes

Inside quotes a character is written as itself or as an escape.  Which
characters are escaped, and which of them have a short form, is given by an
`EscapeRule`.
-/

namespace SnapshotQuery

def hexQuad (code : Nat) : List Char :=
  [code / 4096 % 16, code / 256 % 16, code / 16 % 16, code % 16].map Nat.digitChar

structure EscapeRule where
  /-- The letter after the backslash of a character with a short form. -/
  short? : Char → Option Char
  /-- The other characters that are written with four hexadecimal digits. -/
  long : Char → Bool

namespace EscapeRule

def escapeChar (rule : EscapeRule) (character : Char) : List Char :=
  match rule.short? character with
  | some letter => ['\\', letter]
  | none =>
      if rule.long character then '\\' :: 'u' :: hexQuad character.toNat else [character]

def escape (rule : EscapeRule) (text : List Char) : List Char :=
  text.flatMap rule.escapeChar

def quote (rule : EscapeRule) (text : String) : String :=
  "\"" ++ String.ofList (rule.escape text.toList) ++ "\""

end EscapeRule

end SnapshotQuery
