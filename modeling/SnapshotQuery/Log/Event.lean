import SnapshotQuery.Log.EventKind
import SnapshotQuery.Query.Config
import SnapshotQuery.Store.Collection

/-!
# Events

What happens in the query service, with the data that is reported about it.
-/

namespace SnapshotQuery

/-- When a worker noticed that its request is cancelled. -/
inductive SkipPhase where
  | beforeEvaluation
  | afterEvaluation
deriving DecidableEq, Inhabited

def SkipPhase.name : SkipPhase → String
  | beforeEvaluation => "before_evaluation"
  | afterEvaluation => "after_evaluation"

/-- Why a message was thrown away. -/
inductive StaleReason where
  /-- The request had ended before its cancellation arrived. -/
  | cancelAfterFinish
  | unknownRequest
  | supersededAttempt
  /-- The message was sent to another context. -/
  | misdelivered (error : QueryError)
deriving DecidableEq, Inhabited

def StaleReason.field : StaleReason → String × String
  | cancelAfterFinish => ("reason", "cancel_after_finish")
  | unknownRequest => ("reason", "unknown_request")
  | supersededAttempt => ("reason", "superseded_attempt")
  | misdelivered error => ("error_code", error.code)

inductive Event where
  | configLoaded (path : String) (config : Config)
  | storeCommit (table : String) (version : VersionStamp) (changes : Nat)
  | snapshotOpened (version : VersionStamp)
  | garbageCollected (report : GcReport)
  | submitted (request : RequestId) (origin : ContextId) (policy : RetryPolicy)
  | attemptDispatched (request : RequestId) (attempt : Nat) (hook : Bool)
  | versionMismatch (request : RequestId) (attempt : Nat) (snapshot origin : VersionStamp)
  | rederived (request : RequestId) (attempt : Nat) (version : VersionStamp)
  | retrying (request : RequestId) (nextAttempt : Nat)
  | converged (request : RequestId) (attempts rows : Nat) (version : VersionStamp)
  | failed (request : RequestId) (attempts : Nat) (error : QueryError)
  | cancelled (request : RequestId) (attempts : Nat)
  | staleMessageDropped (request : RequestId) (origin : ContextId) (reason : StaleReason)
  | attemptSkipped (request : RequestId) (attempt : Nat) (phase : SkipPhase)
  | attemptCompleted (request : RequestId) (attempt : Nat) (result : Except QueryError RowSet)
  | workerPanicked (request : RequestId) (attempt : Nat) (message : String)
  | originGone (request : RequestId) (origin : ContextId)
  | simulationWriteFailed (attempt : Nat) (error : StoreError)

namespace Event

def ofRequest (request : RequestId) : String × String := ("request_id", request.text)

def entry : Event → Entry
  | configLoaded path config =>
      EventKind.configLoaded.entry [("path", path),
        ("max_workers", toString config.maxWorkers),
        ("reconcile_mode", config.reconcileMode.name),
        ("retry_policy", config.defaultRetryPolicy.name)]
  | storeCommit table version changes =>
      EventKind.storeCommit.entry [("changes", toString changes), ("table", table),
        ("version", VersionStamp.text version)]
  | snapshotOpened version =>
      EventKind.storeSnapshotOpened.entry [("version", VersionStamp.text version)]
  | garbageCollected report =>
      EventKind.storeGarbageCollected.entry [("dropped_rows", toString report.droppedRows),
        ("horizon", VersionStamp.text report.horizon),
        ("reclaimed_versions", toString report.reclaimedVersions)]
  | submitted request origin policy =>
      EventKind.querySubmitted.entry [("origin", origin.text), ofRequest request,
        ("retry_policy", policy.name)]
  | attemptDispatched request attempt hook =>
      EventKind.queryAttemptDispatched.entry [("attempt", toString attempt),
        ("background_hook", if hook then "true" else "false"), ofRequest request]
  | versionMismatch request attempt snapshot origin =>
      EventKind.queryVersionMismatch.entry [("attempt", toString attempt),
        ("origin_version", VersionStamp.text origin), ofRequest request,
        ("snapshot_version", VersionStamp.text snapshot)]
  | rederived request attempt version =>
      EventKind.queryRederived.entry [("attempt", toString attempt), ofRequest request,
        ("version", VersionStamp.text version)]
  | retrying request nextAttempt =>
      EventKind.queryRetrying.entry [("next_attempt", toString nextAttempt), ofRequest request]
  | converged request attempts rows version =>
      EventKind.queryConverged.entry [("attempts", toString attempts), ofRequest request,
        ("rows", toString rows), ("version", VersionStamp.text version)]
  | failed request attempts error =>
      EventKind.queryFailed.entry [("attempts", toString attempts), ("error", error.message),
        ("error_code", error.code), ofRequest request]
  | cancelled request attempts =>
      EventKind.queryCancelled.entry [("attempts", toString attempts), ofRequest request]
  | staleMessageDropped request origin reason =>
      EventKind.queryStaleMessageDropped.entry [("origin", origin.text), reason.field,
        ofRequest request]
  | attemptSkipped request attempt phase =>
      EventKind.workerAttemptSkipped.entry [("attempt", toString attempt), ("phase", phase.name),
        ofRequest request]
  | attemptCompleted request attempt (.ok rows) =>
      EventKind.workerAttemptCompleted.entry [("attempt", toString attempt), ofRequest request,
        ("rows", toString rows.size), ("version", VersionStamp.text rows.version)]
  | attemptCompleted request attempt (.error error) =>
      EventKind.workerAttemptCompleted.entry [("attempt", toString attempt),
        ("error_code", error.code), ofRequest request]
  | workerPanicked request attempt message =>
      EventKind.workerPanicked.entry [("attempt", toString attempt), ("error", message),
        ofRequest request]
  | originGone request origin =>
      EventKind.workerOriginGone.entry [("origin", origin.text), ofRequest request]
  | simulationWriteFailed attempt error =>
      ⟨.warn, "SIMULATION_WRITE_FAILED",
        [("attempt", toString attempt), ("error", error.message)]⟩

end Event

end SnapshotQuery
