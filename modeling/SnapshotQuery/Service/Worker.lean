import SnapshotQuery.Service.Access

/-!
# Workers

An attempt waits for a worker, is evaluated on a snapshot of the current
version and posted to its origin.  Every step of it is taken on its own, so
steps of several attempts may alternate.  A cancelled attempt posts nothing.

What a dispatcher does about an attempt that is lost on its worker (it releases
the request and reports a panic) has no step: a panic in an evaluation or a hook
is caught there and becomes the result, nothing after that panics, and workers
are not stopped while the service is in use.
-/

namespace SnapshotQuery

namespace Service

def setPhase (service : Service) (request : RequestId) (phase : Phase) : Service :=
  { service with
    attempts := service.attempts.map fun attempt =>
      if attempt.request = request then { attempt with phase } else attempt }

def dropAttempt (service : Service) (request : RequestId) : Service :=
  { service with attempts := service.attempts.filter fun attempt => attempt.request ≠ request }

def leaveFlight (service : Service) (attempt : Attempt) : Service :=
  service.updateDispatcher attempt.dispatcher fun dispatcher =>
    { dispatcher with inFlight := dispatcher.inFlight.filter fun id => id ≠ attempt.request }

def freeWorker (service : Service) (attempt : Attempt) : Service :=
  service.updateDispatcher attempt.dispatcher fun dispatcher =>
    { dispatcher with idle := dispatcher.idle + 1 }

/-- Accept an attempt, unless the dispatcher is closed or has one of the request already. -/
def dispatch (service : Service) (attempt : Attempt) : Service × Except QueryError Unit :=
  match service.dispatcher? attempt.dispatcher with
  | none => (service, .error .dispatcherClosed)
  | some dispatcher =>
      if dispatcher.closed then (service, .error .dispatcherClosed)
      else if attempt.request ∈ dispatcher.inFlight then
        (service, .error (.alreadyInFlight attempt.request))
      else
        let service := service.updateDispatcher dispatcher.id fun dispatcher =>
          { dispatcher with inFlight := attempt.request :: dispatcher.inFlight }
        let service := service.count dispatcher.registry .attempts
        ({ service with attempts := service.attempts ++ [attempt] }, .ok ())

/-- A panic on a worker is reported and becomes the result of the attempt. -/
def panicOnWorker (service : Service) (attempt : Attempt) (message : String) : Service × Outcome :=
  (service.report (.workerPanicked attempt.request attempt.number message),
    ⟨.error (.workerPanicked message), none, true⟩)

def failOnWorker (service : Service) (attempt : Attempt) : CallFailure → Service × Outcome
  | .refused error => (service, ⟨.error (.store error), none, true⟩)
  | .panicked message => service.panicOnWorker attempt message

def runHook (service : Service) (attempt : Attempt) (version : VersionStamp) :
    Service × Option String :=
  match attempt.hook with
  | none => (service, none)
  | some hook =>
      let run : HookRun := ⟨attempt.request, attempt.number, version⟩
      (service.observe (.hookRan attempt.label run)).actAll (hook run)

/-- Open a snapshot, evaluate the predicate on it, then run the hook.  The snapshot stays
open if nothing fails. -/
def evaluateAttempt (service : Service) (attempt : Attempt) : Service × Outcome :=
  match service.reachSnapshot none with
  | (service, .error failure) => service.failOnWorker attempt failure
  | (service, .ok snapshot) =>
      match service.reachRows snapshot attempt.predicate with
      | (service, .error failure) => (service.release snapshot).failOnWorker attempt failure
      | (service, .ok rows) =>
          match service.runHook attempt rows.version with
          | (service, some message) => (service.release snapshot).panicOnWorker attempt message
          | (service, none) => (service, ⟨.ok rows, some snapshot, true⟩)

/-- Forget an attempt of a cancelled request; one that was evaluated is reported. -/
def skipOutcome (service : Service) (attempt : Attempt) (outcome : Outcome) : Service :=
  let service := if outcome.evaluated then
      (service.report (.attemptSkipped attempt.request attempt.number .afterEvaluation)).freeWorker
        attempt
    else service
  (service.releaseAll outcome.snapshot.toList).dropAttempt attempt.request

/-- Post an outcome to the origin, or report that the origin is gone. -/
def postOutcome (service : Service) (attempt : Attempt) (outcome : Outcome) : Service :=
  let service := if outcome.evaluated then service.freeWorker attempt else service
  let service := match service.origin? attempt.origin with
    | some _ =>
        service.post attempt.origin (.completed
          { request := attempt.request, origin := attempt.origin, attempt := attempt.number
            result := outcome.result, snapshot := outcome.snapshot })
    | none =>
        (service.report (.originGone attempt.request attempt.origin)).releaseAll
          outcome.snapshot.toList
  service.dropAttempt attempt.request

/-- Give a queued attempt to a worker; a closed dispatcher fails it, and without an idle
worker it keeps waiting. -/
def giveWorker (service : Service) (attempt : Attempt) : Service :=
  match service.dispatcher? attempt.dispatcher with
  | none => service
  | some dispatcher =>
      if dispatcher.closed then
        service.setPhase attempt.request (.finished ⟨.error .dispatcherClosed, none, false⟩)
      else if dispatcher.idle = 0 then service
      else
        (service.updateDispatcher dispatcher.id fun dispatcher =>
          { dispatcher with idle := dispatcher.idle - 1 }).setPhase attempt.request .admitted

def advanceAttempt (service : Service) (attempt : Attempt) : Service :=
  match attempt.phase with
  | .queued => service.giveWorker attempt
  | .admitted =>
      service.setPhase attempt.request
        (if service.isCancelled attempt.request then .abandoned else .cleared)
  | .cleared =>
      let (service, outcome) := service.evaluateAttempt attempt
      service.setPhase attempt.request (.finished outcome)
  | .abandoned =>
      (((service.leaveFlight attempt).report
        (.attemptSkipped attempt.request attempt.number .beforeEvaluation)).freeWorker
          attempt).dropAttempt attempt.request
  | .finished outcome =>
      (service.leaveFlight attempt).setPhase attempt.request (.released outcome)
  | .released outcome =>
      if service.isCancelled attempt.request then service.skipOutcome attempt outcome
      else
        let service := if outcome.evaluated then
            service.report (.attemptCompleted attempt.request attempt.number outcome.result)
          else service
        service.setPhase attempt.request (.checked outcome)
  | .checked outcome => service.postOutcome attempt outcome

def advance (service : Service) (request : RequestId) : Service :=
  match service.attempts.find? fun attempt => attempt.request = request with
  | some attempt => service.advanceAttempt attempt
  | none => service

end Service

end SnapshotQuery
