import SnapshotQuery.Store.Error

/-!
# Query errors

What a query can end with.  A stale result is no error: the retry policy deals
with it, and only a spent budget becomes one.
-/

namespace SnapshotQuery

structure RequestId where
  number : Nat
deriving DecidableEq, Inhabited

def RequestId.text (id : RequestId) : String := "req-" ++ toString id.number

structure ContextId where
  number : Nat
deriving DecidableEq, Inhabited

def ContextId.text (id : ContextId) : String := "ctx-" ++ toString id.number

inductive RequestState where
  | pending
  | running
  /-- A result has arrived and its version is to be compared. -/
  | awaitingReconciliation
  | converged
  /-- The result was stale and another attempt follows. -/
  | retrying
  | failed
  | cancelled
deriving DecidableEq, Inhabited

namespace RequestState

def name : RequestState → String
  | pending => "Pending"
  | running => "Running"
  | awaitingReconciliation => "AwaitingReconciliation"
  | converged => "Converged"
  | retrying => "Retrying"
  | failed => "Failed"
  | cancelled => "Cancelled"

/-- No transition leads out of the state. -/
def isTerminal : RequestState → Bool
  | converged | failed | cancelled => true
  | pending | running | awaitingReconciliation | retrying => false

def isOffOrigin : RequestState → Bool
  | running | retrying => true
  | pending | awaitingReconciliation | converged | failed | cancelled => false

end RequestState

inductive QueryError where
  | store (error : StoreError)
  | unreachableVersion (attempts : Nat) (snapshot origin : VersionStamp)
  /-- Rows of one version were to be handed over at another. -/
  | handoverMismatch (rows target : VersionStamp)
  | contextMismatch (expected actual : ContextId)
  | invalidTransition (request : RequestId) (source target : RequestState)
  | alreadyInFlight (request : RequestId)
  | dispatcherClosed
  | noRuntime (reason : String)
  | workerPanicked (message : String)
  | config (reason : String)
deriving DecidableEq, Inhabited

namespace QueryError

def code : QueryError → String
  | store error => error.code
  | unreachableVersion _ _ _ => "AERO_UNREACHABLE_VERSION"
  | handoverMismatch _ _ => "AERO_HANDOVER_VERSION_MISMATCH"
  | contextMismatch _ _ => "AERO_CONTEXT_MISMATCH"
  | invalidTransition _ _ _ => "AERO_INVALID_TRANSITION"
  | alreadyInFlight _ => "AERO_ALREADY_IN_FLIGHT"
  | dispatcherClosed => "AERO_DISPATCHER_CLOSED"
  | noRuntime _ => "AERO_NO_RUNTIME"
  | workerPanicked _ => "AERO_WORKER_PANICKED"
  | config _ => "AERO_CONFIG_ERROR"

def message : QueryError → String
  | store error => error.message
  | unreachableVersion attempts snapshot origin =>
      "Unreachable version after " ++ toString attempts ++ " attempt(s): result computed at " ++
        VersionStamp.text snapshot ++ ", origin at " ++ VersionStamp.text origin
  | handoverMismatch rows target =>
      "Handover refused: rows computed at " ++ VersionStamp.text rows ++ ", target is " ++
        VersionStamp.text target
  | contextMismatch expected actual =>
      "Context mismatch: message for " ++ expected.text ++ " delivered to " ++ actual.text
  | invalidTransition request source target =>
      "Invalid transition for request " ++ request.text ++ ": " ++ source.name ++ " -> " ++
        target.name
  | alreadyInFlight request => "Request " ++ request.text ++ " already has an attempt in flight"
  | dispatcherClosed => "Dispatcher closed"
  | noRuntime reason => "No runtime available: " ++ reason
  | workerPanicked message => "Worker panicked: " ++ message
  | config reason => "Configuration error: " ++ reason

/-- Retries answer stale results only, never errors. -/
def isRetryable (_ : QueryError) : Bool := false

def isUnreachableVersion : QueryError → Bool
  | unreachableVersion _ _ _ => true
  | _ => false

end QueryError

end SnapshotQuery
