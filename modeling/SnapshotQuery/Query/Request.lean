import SnapshotQuery.Query.Callback
import SnapshotQuery.Query.Retry

/-!
# Requests

A request moves from state to state only along its transitions; a forbidden one
is refused and changes nothing.  Its callbacks are taken out when it ends, so
at most one of them is ever called.
-/

namespace SnapshotQuery

structure Request where
  id : RequestId
  origin : ContextId
  label : String
  predicate : Predicate
  policy : RetryPolicy
  state : RequestState
  /-- Attempts started so far. -/
  attempts : Nat
  /-- Attempts that carried the background hook. -/
  hookRuns : Nat
  onSuccess : Option SuccessCallback
  onError : Option ErrorCallback
  hook : Option Hook

namespace Request

def retriesSpent (request : Request) : Nat := request.attempts - 1

def forbidden {Item : Type} (request : Request) (target : RequestState) :
    Except QueryError Item :=
  .error (.invalidTransition request.id request.state target)

def transition (request : Request) (allowed : List RequestState) (target : RequestState) :
    Except QueryError Request :=
  if request.state ∈ allowed then .ok { request with state := target }
  else request.forbidden target

def startAttempt (request : Request) : Except QueryError Request :=
  (request.transition [.pending, .retrying] .running).map fun started =>
    { started with attempts := started.attempts + 1 }

def awaitReconciliation (request : Request) : Except QueryError Request :=
  request.transition [.running] .awaitingReconciliation

def scheduleRetry (request : Request) : Except QueryError Request :=
  request.transition [.awaitingReconciliation] .retrying

/-- End with a result; the success callback is taken out to be called. -/
def converge (request : Request) : Except QueryError (Request × Option SuccessCallback) :=
  (request.transition [.awaitingReconciliation] .converged).map fun ended =>
    ({ ended with onSuccess := none, onError := none }, ended.onSuccess)

def fail (request : Request) : Except QueryError (Request × Option ErrorCallback) :=
  (request.transition [.pending, .running, .awaitingReconciliation, .retrying] .failed).map
    fun ended => ({ ended with onSuccess := none, onError := none }, ended.onError)

def cancel (request : Request) : Except QueryError Request :=
  if request.state.isTerminal then request.forbidden .cancelled
  else .ok { request with state := .cancelled, onSuccess := none, onError := none, hook := none }

/-- The hook for the next attempt, while the limit on its runs is not reached. -/
def armHook (request : Request) (limit : Option Nat) : Request × Option Hook :=
  match request.hook with
  | none => (request, none)
  | some hook =>
      if (limit.map fun limit => decide (limit ≤ request.hookRuns)).getD false then
        (request, none)
      else ({ request with hookRuns := request.hookRuns + 1 }, some hook)

end Request

end SnapshotQuery
