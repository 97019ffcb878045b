import SnapshotQuery.Log.Entry

/-!
# Event kinds

Every occurrence the query service reports is of one of these kinds, and the
kind fixes its name and its severity.
-/

namespace SnapshotQuery

inductive EventKind where
  | configLoaded
  | storeCommit
  | storeSnapshotOpened
  | storeGarbageCollected
  | querySubmitted
  | queryAttemptDispatched
  | queryVersionMismatch
  | queryRederived
  | queryRetrying
  | queryConverged
  | queryFailed
  | queryCancelled
  | queryStaleMessageDropped
  | workerAttemptSkipped
  | workerAttemptCompleted
  | workerPanicked
  | workerOriginGone
deriving DecidableEq, Inhabited

namespace EventKind

def name : EventKind → String
  | configLoaded => "CONFIG_LOADED"
  | storeCommit => "STORE_COMMIT"
  | storeSnapshotOpened => "STORE_SNAPSHOT_OPENED"
  | storeGarbageCollected => "STORE_GC_COMPLETE"
  | querySubmitted => "QUERY_SUBMITTED"
  | queryAttemptDispatched => "QUERY_ATTEMPT_DISPATCHED"
  | queryVersionMismatch => "QUERY_VERSION_MISMATCH"
  | queryRederived => "QUERY_REDERIVED"
  | queryRetrying => "QUERY_RETRYING"
  | queryConverged => "QUERY_CONVERGED"
  | queryFailed => "QUERY_FAILED"
  | queryCancelled => "QUERY_CANCELLED"
  | queryStaleMessageDropped => "QUERY_STALE_MESSAGE_DROPPED"
  | workerAttemptSkipped => "WORKER_ATTEMPT_SKIPPED"
  | workerAttemptCompleted => "WORKER_ATTEMPT_COMPLETED"
  | workerPanicked => "WORKER_PANICKED"
  | workerOriginGone => "WORKER_ORIGIN_GONE"

/-- Detail of single attempts is traced, disagreement warns, failure is an error. -/
def severity : EventKind → Severity
  | storeSnapshotOpened | queryAttemptDispatched | workerAttemptSkipped
  | workerAttemptCompleted | queryStaleMessageDropped => .trace
  | queryVersionMismatch | workerOriginGone => .warn
  | queryFailed | workerPanicked => .error
  | configLoaded | storeCommit | storeGarbageCollected | querySubmitted | queryRederived
  | queryRetrying | queryConverged | queryCancelled => .info

def entry (kind : EventKind) (fields : List (String × String)) : Entry :=
  ⟨kind.severity, kind.name, fields⟩

end EventKind

end SnapshotQuery
