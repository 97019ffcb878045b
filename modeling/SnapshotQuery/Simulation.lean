import SnapshotQuery.CommandLine.Error
import SnapshotQuery.Service.Schedule

/-!
# Simulation

One query runs against a table that its own background hook refills a fixed
number of times.  The report tells whether the query converged under its
policy.
-/

namespace SnapshotQuery

structure Simulation where
  rows : Nat
  writes : Nat
  /-- The rows that the refill of an attempt leaves behind. -/
  rowsAfter : Nat → Nat
  policy : RetryPolicy

structure SimulationReport where
  /-- The number of rows delivered, or the error. -/
  outcome : Except QueryError Nat
  attempts : Nat
  version : VersionStamp

def SimulationReport.toValue (report : SimulationReport) : Value :=
  let (outcome, rows, code) := match report.outcome with
    | .ok rows => ("converged", .nat rows, .null)
    | .error error => ("failed", .null, .string error.code)
  .ofFields [("outcome", .string outcome), ("rows", rows), ("attempts", .nat report.attempts),
    ("version", .nat report.version), ("error_code", code)]

namespace Simulation

def schema : TableSchema :=
  ((TableSchema.new "all_types").declare "column_long" .int).declare "column_string" .string

def document (index : Nat) : Value :=
  .ofFields [("column_long", .nat index),
    ("column_string", .string ("test data " ++ toString index))]

def refill (rows : Nat) : Script where
  calls := .clear :: (List.range rows).map fun index => .insert (document index)
  keepGoing := false
  abort := none

/-- The rows numbered below ten. -/
def predicate : Predicate := Predicate.all.and "column_long" (.between (.nat 0) (.nat 9))

def query (simulation : Simulation) : Query where
  label := "simulation"
  predicate := predicate
  policy := simulation.policy
  hook := some fun run => [.reportedWrite (refill (simulation.rowsAfter run.attempt)) run.attempt]
  onSuccess := ⟨none, fun _ => []⟩
  onError := fun _ => []

def delivered? : List Observation → Option (Except QueryError Nat)
  | [] => none
  | .succeeded _ _ seen :: _ => some (.ok seen.rows.size)
  | .failed _ _ error :: _ => some (.error error)
  | _ :: rest => delivered? rest

/-- Submit the query and run it until it has ended; every attempt posts one message. -/
def runQuery (simulation : Simulation) (config : Config) (workers : Nat) (service : Service) :
    Service × Except CommandFailure SimulationReport :=
  let (service, dispatcher) := service.addDispatcher "simulation" workers none
  let (service, origin) := service.addOrigin dispatcher config
  let (service, _) := service.submit origin simulation.query
  let service := Service.runUntilIdle origin.id (simulation.writes + 2) service
  match delivered? service.observations with
  | some outcome =>
      (service, .ok ⟨outcome, (service.metrics origin.registry).attempts,
        service.store.currentVersion⟩)
  | none => (service, .error (.reported (.simulation "query finished without a result")))

def run (simulation : Simulation) (config : Config) :
    Service × Except CommandFailure SimulationReport :=
  let config := config.withBackgroundHookRuns simulation.writes
  match (Service.new schema).write (refill simulation.rows) with
  | (service, ⟨_, .failed error⟩) => (service, .error (.reported (.ofStore error)))
  | (service, ⟨_, .panicked message⟩) => (service, .error (.panicked message))
  | (service, _) =>
      match Dispatcher.workersFor config with
      | .error message => (service, .error (.panicked message))
      | .ok workers => simulation.runQuery config workers service

end Simulation

end SnapshotQuery
