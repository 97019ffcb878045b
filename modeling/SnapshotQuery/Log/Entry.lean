import SnapshotQuery.Log.Severity
import SnapshotQuery.Text.Escape

/-!
# Log lines

An occurrence is written as one line holding a JSON object: the event first,
the severity second, then the other fields in key order.  Lines below the
threshold are dropped; errors go to the error stream.
-/

namespace SnapshotQuery

structure Entry where
  severity : Severity
  event : String
  fields : List (String × String)
deriving DecidableEq, Inhabited

namespace Entry

/-- Quotes, backslashes and all control characters are escaped. -/
def escapes : EscapeRule where
  short? character :=
    if character = '"' then some '"'
    else if character = '\\' then some '\\'
    else if character = '\n' then some 'n'
    else if character = '\r' then some 'r'
    else if character = '\t' then some 't'
    else none
  long character :=
    character.toNat < 0x20 || (0x7f ≤ character.toNat && character.toNat < 0xa0)

/-- Put a field before the first field with a key that is not smaller. -/
def insertField (field : String × String) : List (String × String) → List (String × String)
  | [] => [field]
  | other :: rest =>
      if other.1 < field.1 then other :: insertField field rest else field :: other :: rest

/-- Fields in key order; fields with one key keep their order. -/
def sortFields (fields : List (String × String)) : List (String × String) :=
  fields.foldr insertField []

def member (key value : String) : String := escapes.quote key ++ ":" ++ escapes.quote value

def line (entry : Entry) : String :=
  "\x7b" ++ ",".intercalate
    ((("event", entry.event) :: ("severity", entry.severity.name) :: sortFields entry.fields).map
      fun field => member field.1 field.2) ++ "\x7d"

end Entry

inductive Stream where
  | output
  | error
deriving DecidableEq

structure PrintedLine where
  stream : Stream
  text : String
deriving DecidableEq

def Severity.stream (severity : Severity) : Stream :=
  if Severity.error ≤ severity then .error else .output

/-- The lines printed so far, and the least severity that is printed. -/
structure Journal where
  threshold : Severity
  lines : List PrintedLine
deriving Inhabited

namespace Journal

def initial : Journal := ⟨.info, []⟩

def withThreshold (journal : Journal) (threshold : Severity) : Journal :=
  { journal with threshold }

def enabled (journal : Journal) (severity : Severity) : Bool :=
  decide (journal.threshold ≤ severity)

def record (journal : Journal) (entry : Entry) : Journal :=
  if journal.enabled entry.severity then
    { journal with lines := journal.lines ++ [⟨entry.severity.stream, entry.line⟩] }
  else journal

def recordAll (journal : Journal) (entries : List Entry) : Journal :=
  entries.foldl record journal

/-- Print a line whatever the threshold. -/
def print (journal : Journal) (text : String) : Journal :=
  { journal with lines := journal.lines ++ [⟨.output, text⟩] }

def on (journal : Journal) (stream : Stream) : List String :=
  (journal.lines.filter fun line => line.stream = stream).map (·.text)

end Journal

end SnapshotQuery
