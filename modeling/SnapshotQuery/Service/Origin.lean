import SnapshotQuery.Service.Reconciliation
import SnapshotQuery.Service.Worker

/-!
# Origins

An origin owns its requests.  It launches their attempts, handles the messages
in its mailbox one by one and is the only place where callbacks are called.  A
request that has ended is owned no longer, also if its callback panicked: the
panic ends the step, and the request is neither counted nor reported.
-/

namespace SnapshotQuery

namespace Service

def callError (service : Service) (request : Request) (callback : ErrorCallback)
    (error : QueryError) : Service × Option String :=
  (service.observe (.failed request.label request.id error)).actAll (callback error)

/-- Call a success callback with a view, which is dropped afterwards unless it is kept. -/
def callSuccess (service : Service) (request : Request) (callback : SuccessCallback)
    (view : View) : Service × Option String :=
  let (service, seen) := service.inspect view
  let service := service.observe (.succeeded request.label request.id seen)
  match callback.keep with
  | some name => (service.keepView name view).actAll (callback.actions view)
  | none =>
      let acted := service.actAll (callback.actions view)
      (acted.1.release view.snapshot, acted.2)

/-- Count and report how a request has ended.  A panic of its callback ends the step before
that. -/
def recordEnd (service : Service) (origin : OriginSettings) (request : Request)
    (counter : Counter) (event : Event) : Option String → Service
  | none => (service.count origin.registry counter).report event
  | some message => service.observe (.panicked request.id message)

def deliverError (service : Service) (origin : OriginSettings) (request : Request)
    (error : QueryError) : Service × Request :=
  match request.fail with
  | .error _ => (service, request)
  | .ok (request, callback) =>
      let called := match callback with
        | some callback => service.callError request callback error
        | none => (service, none)
      (called.1.recordEnd origin request .failed (.failed request.id request.attempts error)
          called.2,
        request)

def deliverSuccess (service : Service) (origin : OriginSettings) (request : Request)
    (view : View) : Service × Request :=
  match request.converge with
  | .error error => (service.release view.snapshot).deliverError origin request error
  | .ok (request, callback) =>
      let called := match callback with
        | some callback => service.callSuccess request callback view
        | none => (service.release view.snapshot, none)
      (called.1.recordEnd origin request .converged
          (.converged request.id request.attempts view.rows.size view.rows.version) called.2,
        request)

def recordCancelled (service : Service) (origin : OriginSettings) (request : Request) : Service :=
  (service.count origin.registry .cancelled).report (.cancelled request.id request.attempts)

/-- End a request without a callback; its token is set from now on. -/
def endCancelled (service : Service) (origin : OriginSettings) (request : Request) :
    Service × Request :=
  match request.cancel with
  | .error _ => (service, request)
  | .ok ended =>
      ({ service with cancelled := service.cancelled.insert ended.id }.recordCancelled origin ended,
        ended)

/-- Start the next attempt.  A refusal of the dispatcher is posted to the origin, so that it is
handled like any other result. -/
def launchAttempt (service : Service) (origin : OriginSettings) (request : Request) :
    Service × Request :=
  match request.startAttempt with
  | .error error => service.deliverError origin request error
  | .ok request =>
      let (request, hook) := request.armHook origin.config.simulation.maxBackgroundHookRuns
      let service := service.report (.attemptDispatched request.id request.attempts hook.isSome)
      let attempt : Attempt :=
        { request := request.id, origin := origin.id, dispatcher := origin.dispatcher
          label := request.label, number := request.attempts, predicate := request.predicate
          hook, phase := .queued }
      match service.dispatch attempt with
      | (service, .ok ()) => (service, request)
      | (service, .error error) =>
          (service.post origin.id (.completed
              { request := request.id, origin := origin.id, attempt := request.attempts
                result := .error error, snapshot := none }),
            request)

def reportMismatch (service : Service) (origin : OriginSettings) (request : Request)
    (snapshot current : VersionStamp) : Service :=
  (service.count origin.registry .versionMismatches).report
    (.versionMismatch request.id request.attempts snapshot current)

def conclude (service : Service) (origin : OriginSettings) (request : Request) :
    Reconciliation → Service × Request
  | .converged view => service.deliverSuccess origin request view
  | .rederived view =>
      let service := (service.count origin.registry .versionMismatches).count origin.registry
        .rederived
      let service := service.report (.rederived request.id request.attempts view.rows.version)
      service.deliverSuccess origin request view
  | .retry snapshot current =>
      let service := (service.reportMismatch origin request snapshot current).count
        origin.registry .retries
      match request.scheduleRetry with
      | .error error => service.deliverError origin request error
      | .ok request =>
          (service.report (.retrying request.id (request.attempts + 1))).launchAttempt origin
            request
  | .giveUp (.unreachableVersion attempts snapshot current) =>
      (service.reportMismatch origin request snapshot current).deliverError origin request
        (.unreachableVersion attempts snapshot current)
  | .giveUp error => service.deliverError origin request error

/-- Reconcile the rows of the running attempt.  A cancellation that comes in between wins
over any result. -/
def settleRows (service : Service) (origin : OriginSettings) (request : Request) (rows : RowSet) :
    Service × Request :=
  match request.awaitReconciliation with
  | .error error => service.deliverError origin request error
  | .ok request =>
      let (service, outcome) := service.reconcile origin.config.reconcileMode rows request.policy
        request.attempts (service.isCancelled request.id)
      if service.isCancelled request.id then
        let (service, request) := service.endCancelled origin request
        (service.releaseAll (outcome.view?.toList.map View.snapshot), request)
      else service.conclude origin request outcome

def removeLive (service : Service) (origin : ContextId) (request : RequestId) : Service :=
  service.updateOrigin origin fun owner =>
    { owner with live := owner.live.filter fun other => other.id ≠ request }

def insertLive (service : Service) (origin : ContextId) (request : Request) : Service :=
  service.updateOrigin origin fun owner => { owner with live := owner.live ++ [request] }

/-- Give a request back to its origin, unless it has ended. -/
def putBack (service : Service) (origin : ContextId) (request : Request) : Service :=
  if request.state.isTerminal then { service with ended := request :: service.ended }
  else service.insertLive origin request

def liveRequest? (service : Service) (origin : ContextId) (request : RequestId) :
    Option Request :=
  (service.origin? origin).bind fun owner => owner.live.find? fun held => held.id = request

def dropStale (service : Service) (origin : OriginSettings) (request : RequestId)
    (reason : StaleReason) : Service :=
  (service.count origin.registry .droppedMessages).report
    (.staleMessageDropped request origin.id reason)

def handleResult (service : Service) (origin : OriginSettings) (completion : Completion) :
    Service :=
  if completion.origin ≠ origin.id then
    service.dropStale origin completion.request
      (.misdelivered (.contextMismatch completion.origin origin.id))
  else
    match service.liveRequest? origin.id completion.request with
    | none => service.dropStale origin completion.request .unknownRequest
    | some request =>
        if service.isCancelled request.id then
          let (service, request) :=
            (service.removeLive origin.id request.id).endCancelled origin request
          service.putBack origin.id request
        else if completion.attempt ≠ request.attempts ∨ request.state ≠ .running then
          service.dropStale origin request.id .supersededAttempt
        else
          let service := service.removeLive origin.id request.id
          let (service, request) := match completion.result with
            | .ok rows => service.settleRows origin request rows
            | .error error => service.deliverError origin request error
          service.putBack origin.id request

/-- Handle one message.  The snapshot of a result is dropped at the end. -/
def handle (service : Service) (origin : OriginSettings) : Message → Service
  | .completed completion =>
      (service.handleResult origin completion).releaseAll completion.snapshot.toList
  | .cancelRequested id =>
      match service.liveRequest? origin.id id with
      | none => service.dropStale origin id .cancelAfterFinish
      | some request =>
          let (service, request) :=
            (service.removeLive origin.id request.id).endCancelled origin request
          service.putBack origin.id request

/-- Handle the oldest message of an origin, if there is one. -/
def process? (service : Service) (id : ContextId) : Option Service :=
  match service.origin? id with
  | none => none
  | some origin =>
      match origin.mailbox with
      | [] => none
      | message :: rest =>
          some ((service.updateOrigin id fun origin => { origin with mailbox := rest }).handle
            origin.settings message)

end Service

end SnapshotQuery
