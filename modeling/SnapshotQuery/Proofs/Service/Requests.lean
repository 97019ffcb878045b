import SnapshotQuery.Proofs.Service.Calls

/-!
# Endings and starts of requests

A request in hand ends with one call of a callback or with none, or its next
attempt is started.  The lemmas say what each of these does to the service.
-/

namespace SnapshotQuery

namespace Request

/-- The request waits for its attempt, and neither callback was called. -/
structure Ready (request : Request) : Prop where
  running : request.state = .running
  onSuccess : request.onSuccess.isSome = true
  onError : request.onError.isSome = true

/-- The request after it has ended in a state. -/
def endedAs (request : Request) (state : RequestState) : Request :=
  { request with state, onSuccess := none, onError := none }

/-- The request while its result is looked at. -/
def awaiting (request : Request) : Request := { request with state := .awaitingReconciliation }

/-- The request between two attempts. -/
def between (request : Request) : Request := { request with state := .retrying }

/-- The request after it was cancelled. -/
def abandoned (request : Request) : Request :=
  { request.endedAs .cancelled with hook := none }

/-- The next attempt of the request is started. -/
structure Starts (request started : Request) : Prop where
  id : started.id = request.id
  origin : started.origin = request.origin
  predicate : started.predicate = request.predicate
  policy : started.policy = request.policy
  onSuccess : started.onSuccess = request.onSuccess
  onError : started.onError = request.onError
  running : started.state = .running
  attempts : started.attempts = request.attempts + 1

variable {request : Request}

theorem awaitReconciliation_eq (running : request.state = .running) :
    request.awaitReconciliation = .ok request.awaiting := by
  simp [awaitReconciliation, transition, running, awaiting]

theorem scheduleRetry_awaiting (request : Request) :
    request.awaiting.scheduleRetry = .ok request.between :=
  rfl

theorem converge_awaiting (request : Request) :
    request.awaiting.converge = .ok (request.endedAs .converged, request.onSuccess) :=
  rfl

theorem fail_eq (going : request.state.isTerminal = false) :
    request.fail = .ok (request.endedAs .failed, request.onError) := by
  have allowed : request.state ∈
      [RequestState.pending, .running, .awaitingReconciliation, .retrying] := by
    cases state : request.state <;> simp_all [RequestState.isTerminal]
  simp only [fail, transition, if_pos allowed]
  rfl

theorem cancel_eq (going : request.state.isTerminal = false) :
    request.cancel = .ok request.abandoned := by
  simp [cancel, going, abandoned, endedAs]

theorem startAttempt_eq (idle : request.state = .pending ∨ request.state = .retrying) :
    request.startAttempt =
      .ok { request with state := .running, attempts := request.attempts + 1 } := by
  have allowed : request.state ∈ [RequestState.pending, .retrying] := by simpa using idle
  simp only [startAttempt, transition, if_pos allowed]
  rfl

/-- Arming the hook is all that a start does besides the transition. -/
theorem starts_armHook (limit : Option Nat) :
    request.Starts
      ({ request with state := .running, attempts := request.attempts + 1 }.armHook limit).1 := by
  unfold armHook
  split
  · exact ⟨rfl, rfl, rfl, rfl, rfl, rfl, rfl, rfl⟩
  · split <;> exact ⟨rfl, rfl, rfl, rfl, rfl, rfl, rfl, rfl⟩

theorem Starts.ready {started : Request} (starts : request.Starts started)
    (onSuccess : request.onSuccess.isSome = true) (onError : request.onError.isSome = true) :
    started.Ready :=
  ⟨starts.running, starts.onSuccess ▸ onSuccess, starts.onError ▸ onError⟩

end Request

/-- The attempt carries what its request asks for. -/
structure Attempt.Carries (attempt : Attempt) (origin : OriginSettings) (started : Request) :
    Prop where
  request : attempt.request = started.id
  origin : attempt.origin = origin.id
  number : attempt.number = started.attempts
  predicate : attempt.predicate = started.predicate
  queued : attempt.phase = .queued

namespace Service

variable {service : Service} {origin : OriginSettings} {request : Request}

theorem deliverError_eq (going : request.state.isTerminal = false) {callback : ErrorCallback}
    (given : request.onError = some callback) (error : QueryError) :
    service.deliverError origin request error =
      let called := service.callError (request.endedAs .failed) callback error
      (called.1.recordEnd origin (request.endedAs .failed) .failed
          (.failed request.id request.attempts error) called.2,
        request.endedAs .failed) := by
  simp only [deliverError, Request.fail_eq going, given]
  rfl

theorem deliverSuccess_eq {callback : SuccessCallback}
    (given : request.onSuccess = some callback) (view : View) :
    service.deliverSuccess origin request.awaiting view =
      let called := service.callSuccess (request.endedAs .converged) callback view
      (called.1.recordEnd origin (request.endedAs .converged) .converged
          (.converged request.id request.attempts view.rows.size view.rows.version) called.2,
        request.endedAs .converged) := by
  simp only [deliverSuccess, Request.converge_awaiting, given]
  rfl

theorem interlude_recordEnd (service : Service) (counter : Counter) (event : Event)
    (panic : Option String) :
    Interlude [] service (service.recordEnd origin request counter event panic) := by
  cases panic with
  | none => exact (service.interlude_count _ _).then (interlude_report _ _)
  | some message => exact service.interlude_observe rfl

theorem interlude_deliverError (service : Service) (origin : OriginSettings)
    (going : request.state.isTerminal = false)
    (callback : request.onError.isSome = true) (error : QueryError) :
    (service.deliverError origin request error).2 = request.endedAs .failed ∧
      Interlude [.failed request.label request.id error] service
        (service.deliverError origin request error).1 := by
  obtain ⟨actions, given⟩ := Option.isSome_iff_exists.mp callback
  have called : Interlude [.failed request.label request.id error] service
      (service.callError (request.endedAs .failed) actions error).1 :=
    (service.interlude_observe_callback rfl).then (interlude_actAll _ _)
  rw [deliverError_eq going given]
  exact ⟨rfl, called.then (interlude_recordEnd _ _ _ _)⟩

theorem interlude_callSuccess (callback : SuccessCallback) (view : View) :
    Interlude [.succeeded request.label request.id (service.inspect view).2] service
      (service.callSuccess request callback view).1 := by
  have inspected := service.interlude_inspect view
  simp only [callSuccess]
  generalize service.inspect view = result at inspected
  obtain ⟨moment, seen⟩ := result
  have called : Interlude [.succeeded request.label request.id seen] service
      (moment.observe (.succeeded request.label request.id seen)) :=
    inspected.trans (moment.interlude_observe_callback rfl)
  cases callback.keep with
  | some name => exact (called.then (interlude_keepView _ _ _)).then (interlude_actAll _ _)
  | none => exact (called.then (interlude_actAll _ _)).then (interlude_release _ _)

theorem interlude_deliverSuccess (service : Service) (origin : OriginSettings)
    (callback : request.onSuccess.isSome = true) (view : View) :
    (service.deliverSuccess origin request.awaiting view).2 = request.endedAs .converged ∧
      Interlude [.succeeded request.label request.id (service.inspect view).2] service
        (service.deliverSuccess origin request.awaiting view).1 := by
  obtain ⟨actions, given⟩ := Option.isSome_iff_exists.mp callback
  rw [deliverSuccess_eq given]
  exact ⟨rfl, (interlude_callSuccess actions view).then (interlude_recordEnd _ _ _ _)⟩

theorem endCancelled_eq (going : request.state.isTerminal = false) :
    service.endCancelled origin request =
      (({ service with cancelled := service.cancelled.insert request.id } : Service).recordCancelled
          origin request.abandoned,
        request.abandoned) := by
  simp only [endCancelled, Request.cancel_eq going]
  rfl

theorem interlude_recordCancelled : Interlude [] service (service.recordCancelled origin request) :=
  (service.interlude_count _ _).then (interlude_report _ _)

theorem interlude_dropStale (id : RequestId) (reason : StaleReason) :
    Interlude [] service (service.dropStale origin id reason) :=
  (service.interlude_count _ _).then (interlude_report _ _)

theorem interlude_reportMismatch (snapshot current : VersionStamp) :
    Interlude [] service (service.reportMismatch origin request snapshot current) :=
  (service.interlude_count _ _).then (interlude_report _ _)

/-- How the next attempt of a request is started. -/
inductive Launched (service : Service) (origin : OriginSettings) (request : Request) :
    Service × Request → Prop
  | accepted {moment attempt started} (interlude : Interlude [] service moment)
      (still : moment.cancelled = service.cancelled) (starts : request.Starts started)
      (carries : attempt.Carries origin started) :
      Launched service origin request
        ({ moment with attempts := moment.attempts ++ [attempt] }, started)
  | refused {moment started error} (interlude : Interlude [] service moment)
      (still : moment.cancelled = service.cancelled) (starts : request.Starts started) :
      Launched service origin request
        (moment.post origin.id
          (.completed ⟨started.id, origin.id, started.attempts, .error error, none⟩), started)

theorem launched_launchAttempt (idle : request.state = .pending ∨ request.state = .retrying) :
    service.Launched origin request (service.launchAttempt origin request) := by
  have starts := request.starts_armHook origin.config.simulation.maxBackgroundHookRuns
  simp only [launchAttempt, Request.startAttempt_eq idle]
  generalize Request.armHook _ _ = armed at starts
  obtain ⟨started, hook⟩ := armed
  have reported := service.interlude_report
    (.attemptDispatched started.id started.attempts hook.isSome)
  have still : (service.report
      (.attemptDispatched started.id started.attempts hook.isSome)).cancelled =
    service.cancelled := rfl
  generalize service.report (.attemptDispatched started.id started.attempts hook.isSome) =
    moment at reported still
  simp only [dispatch]
  cases moment.dispatcher? origin.dispatcher with
  | none => exact .refused reported still starts
  | some dispatcher =>
      simp only
      by_cases closed : dispatcher.closed
      · simp only [if_pos closed]
        exact .refused reported still starts
      · by_cases flying : started.id ∈ dispatcher.inFlight
        · simp only [if_neg closed, if_pos flying]
          exact .refused reported still starts
        · simp only [if_neg closed, if_neg flying]
          exact .accepted ((reported.then (interlude_updateDispatcher _ _ _)).then
            (interlude_count _ _ _)) still starts ⟨rfl, rfl, rfl, rfl, rfl⟩

theorem Launched.starts {result : Service × Request}
    (launched : service.Launched origin request result) : request.Starts result.2 := by
  cases launched with
  | accepted _ _ starts _ => exact starts
  | refused _ _ starts => exact starts

/-- A request whose attempt was started goes back to its origin. -/
theorem Launched.putBack {result : Service × Request}
    (launched : service.Launched origin request result) (id : ContextId) :
    result.1.putBack id result.2 = result.1.insertLive id result.2 := by
  simp [Service.putBack, launched.starts.running, RequestState.isTerminal]

end Service

end SnapshotQuery
