import SnapshotQuery.Text.Decode

/-!
# Severities

The severity of a log line decides whether it is written and to which stream.
-/

namespace SnapshotQuery

/-- How severe an occurrence is, from detail to failure. -/
inductive Severity where
  | trace
  | info
  | warn
  | error
  | fatal
deriving DecidableEq, Inhabited

namespace Severity

def rank : Severity → Nat
  | trace => 0
  | info => 1
  | warn => 2
  | error => 3
  | fatal => 4

instance : LE Severity := ⟨fun left right => left.rank ≤ right.rank⟩

instance (left right : Severity) : Decidable (left ≤ right) :=
  inferInstanceAs (Decidable (left.rank ≤ right.rank))

def name : Severity → String
  | trace => "TRACE"
  | info => "INFO"
  | warn => "WARN"
  | error => "ERROR"
  | fatal => "FATAL"

def all : List Severity := [trace, info, warn, error, fatal]

def decode : Decoder Severity :=
  .oneOf (all.map fun severity => (severity.name, .plain severity))

end Severity

end SnapshotQuery
