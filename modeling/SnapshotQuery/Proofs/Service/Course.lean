import SnapshotQuery.Proofs.Service.Exchange
import SnapshotQuery.Proofs.Service.Handling
import SnapshotQuery.Proofs.Service.Ownership
import SnapshotQuery.Proofs.Service.Proceedings

/-!
# The course of a request

The ways on which a message is handled, with the service at the end of each: the
message is thrown away, its request ends at once or while its rows are
reconciled, or the decision about the rows is acted on.  A request that goes on
is accepted by its dispatcher or refused.
-/

namespace SnapshotQuery

namespace Request

/-- The request with its next attempt started, and its hook run so often. -/
def started (request : Request) (runs : Nat) : Request :=
  { request with state := .running, attempts := request.attempts + 1, hookRuns := runs }

/-- The next attempt of the request. -/
def attempt (request : Request) (origin : OriginSettings) (hook : Option Hook) : Attempt where
  request := request.id
  origin := origin.id
  dispatcher := origin.dispatcher
  label := request.label
  number := request.attempts + 1
  predicate := request.predicate
  hook := hook
  phase := .queued

/-- The result the next attempt has if it is refused. -/
def refusal (request : Request) (origin : OriginSettings) (error : QueryError) : Completion where
  request := request.id
  origin := origin.id
  attempt := request.attempts + 1
  result := .error error
  snapshot := none

variable {request : Request}

/-- An attempt carries the hook of its request or none. -/
theorem armHook_started (limit : Option Nat) :
    ∃ runs, ({ request with state := .running, attempts := request.attempts + 1 }.armHook
        limit).1 = request.started runs ∧
      ∀ hook ∈ ({ request with state := .running, attempts := request.attempts + 1 }.armHook
        limit).2, request.hook = some hook := by
  unfold armHook
  split
  · exact ⟨_, rfl, nofun⟩
  · rename_i carried
    split
    · exact ⟨_, rfl, nofun⟩
    · refine ⟨_, rfl, ?_⟩
      intro hook same
      exact same ▸ carried

theorem Ready.going (ready : request.Ready) : request.state.isTerminal = false := by
  rw [ready.running, RequestState.isTerminal]

end Request

namespace Service

/-- Why a dispatcher refuses an attempt. -/
inductive Refuses (service : Service) (origin : OriginSettings) (request : Request) :
    QueryError → Prop
  | closed (down : ∀ pool, service.dispatcher? origin.dispatcher = some pool → pool.closed = true) :
      Refuses service origin request .dispatcherClosed
  | inFlight {pool} (found : service.dispatcher? origin.dispatcher = some pool)
      (flies : request.id ∈ pool.inFlight) :
      Refuses service origin request (.alreadyInFlight request.id)

/-- The service once an attempt is to be dispatched. -/
def announceAttempt (service : Service) (request : Request) (hook : Option Hook) : Service :=
  service.report (.attemptDispatched request.id (request.attempts + 1) hook.isSome)

/-- What becomes of the next attempt of a request. -/
inductive Launch (service : Service) (origin : OriginSettings) (request : Request) :
    Service × Request → Prop
  | accepted {pool hook runs} (carried : ∀ carried ∈ hook, request.hook = some carried)
      (found : service.dispatcher? origin.dispatcher = some pool) (opened : pool.closed = false)
      (free : request.id ∉ pool.inFlight) :
      Launch service origin request
        ((service.announceAttempt request hook).accept pool (request.attempt origin hook),
          request.started runs)
  | refused {hook runs error} (refuses : service.Refuses origin request error) :
      Launch service origin request
        ((service.announceAttempt request hook).post origin.id
          (.completed (request.refusal origin error)), request.started runs)

/-- The rows of a request in hand are reconciled, and its token was seen or not. -/
structure Reconciled (taken : Service) (origin : OriginSettings) (request : Request)
    (rows : RowSet) (decided : Service) (outcome : Reconciliation) (set : Bool) : Prop where
  reconciled : taken.reconcile origin.config.reconcileMode rows request.policy request.attempts
    false = (decided, outcome)
  token : decided.isCancelled request.id = set

/-- The result of the running attempt of a request is taken out of the mailbox. -/
structure Received (service : Service) (origin : OriginSettings) (message : Message)
    (completion : Completion) (request : Request) : Prop where
  posted : message = .completed completion
  found : service.liveRequest? origin.id message.request = some request
  ready : request.Ready
  accepted : service.Accepted origin completion request

/-- The ways on which a message is handled. -/
inductive Settled (service : Service) (origin : OriginSettings) (message : Message) :
    Service → Prop
  | dropped {reason}
      (superseded : reason = .supersededAttempt → ∃ completion request,
        message = .completed completion ∧
        service.liveRequest? origin.id message.request = some request ∧
        completion.attempt ≠ request.attempts)
      (useless : ∀ request, service.liveRequest? origin.id message.request = some request →
        ∃ completion, message = .completed completion ∧
          (completion.origin ≠ origin.id ∨ completion.attempt ≠ request.attempts)) :
      Settled service origin message
        ((service.dropStale origin message.request reason).releaseAll message.snapshot?.toList)
  | cancelled {request}
      (found : service.liveRequest? origin.id message.request = some request)
      (ready : request.Ready) :
      Settled service origin message
        ((((service.removeLive origin.id request.id).endCancelled origin request).1.putBack
          origin.id request.abandoned).releaseAll message.snapshot?.toList)
  | overtaken {completion request rows decided outcome}
      (received : service.Received origin message completion request)
      (result : completion.result = .ok rows)
      (reconciled : (service.removeLive origin.id request.id).Reconciled origin request rows
        decided outcome true) :
      Settled service origin message
        ((((decided.endCancelled origin request.awaiting).1.releaseAll outcome.snapshots).putBack
          origin.id request.awaiting.abandoned).releaseAll message.snapshot?.toList)
  | failed {completion request error}
      (received : service.Received origin message completion request)
      (result : completion.result = .error error) :
      Settled service origin message
        ((((service.removeLive origin.id request.id).deliverError origin request error).1.putBack
          origin.id (request.endedAs .failed)).releaseAll message.snapshot?.toList)
  | concluded {completion request rows decided outcome}
      (received : service.Received origin message completion request)
      (result : completion.result = .ok rows)
      (reconciled : (service.removeLive origin.id request.id).Reconciled origin request rows
        decided outcome false) :
      Settled service origin message
        (((decided.conclude origin request.awaiting outcome).1.putBack origin.id
          (decided.conclude origin request.awaiting outcome).2).releaseAll
            message.snapshot?.toList)

variable {service : Service} {origin : OriginSettings} {request : Request}
  {message : Message}

theorem dispatch_of_closed {attempt : Attempt}
    (down : ∀ pool, service.dispatcher? attempt.dispatcher = some pool → pool.closed = true) :
    service.dispatch attempt = (service, .error .dispatcherClosed) := by
  unfold dispatch
  cases found : service.dispatcher? attempt.dispatcher with
  | none => rfl
  | some pool => exact if_pos (down pool found)

theorem dispatch_of_open {attempt : Attempt} {pool : Dispatcher}
    (found : service.dispatcher? attempt.dispatcher = some pool) (opened : pool.closed = false) :
    service.dispatch attempt =
      if attempt.request ∈ pool.inFlight then (service, .error (.alreadyInFlight attempt.request))
      else (service.accept pool attempt, .ok ()) := by
  simp only [dispatch, found, opened, if_neg Bool.false_ne_true]
  rfl

section Dispatches

variable {started ready : Request} {hook : Option Hook} {after : Service}
  (starts : request.startAttempt = .ok started)
  (armed : started.armHook origin.config.simulation.maxBackgroundHookRuns = (ready, hook))

include starts armed

theorem launchAttempt_of_accepted
    (accepted : (service.report (.attemptDispatched ready.id ready.attempts hook.isSome)).dispatch
      ⟨ready.id, origin.id, origin.dispatcher, ready.label, ready.attempts, ready.predicate, hook,
        .queued⟩ = (after, .ok ())) :
    service.launchAttempt origin request = (after, ready) := by
  simp only [launchAttempt, starts, armed, accepted]

theorem launchAttempt_of_refused {error : QueryError}
    (refused : (service.report (.attemptDispatched ready.id ready.attempts hook.isSome)).dispatch
      ⟨ready.id, origin.id, origin.dispatcher, ready.label, ready.attempts, ready.predicate, hook,
        .queued⟩ = (after, .error error)) :
    service.launchAttempt origin request =
      (after.post origin.id (.completed ⟨ready.id, origin.id, ready.attempts, .error error, none⟩),
        ready) := by
  simp only [launchAttempt, starts, armed, refused]

end Dispatches

theorem launch_launchAttempt (idle : request.state = .pending ∨ request.state = .retrying) :
    service.Launch origin request (service.launchAttempt origin request) := by
  obtain ⟨runs, same, carried⟩ :=
    request.armHook_started origin.config.simulation.maxBackgroundHookRuns
  simp only [launchAttempt, Request.startAttempt_eq idle]
  generalize Request.armHook _ _ = armed at same carried
  obtain ⟨started, hook⟩ := armed
  obtain rfl : started = request.started runs := same
  by_cases down : ∀ pool, service.dispatcher? origin.dispatcher = some pool → pool.closed = true
  · rw [dispatch_of_closed down]
    exact .refused (.closed down)
  · simp only [not_forall] at down
    obtain ⟨pool, found, opened⟩ := down
    have opened : pool.closed = false := by simpa using opened
    rw [dispatch_of_open found opened]
    by_cases flies : request.id ∈ pool.inFlight
    · rw [if_pos]
      · exact .refused (.inFlight found flies)
      · exact flies
    · rw [if_neg]
      · exact .accepted carried found opened flies
      · exact flies

/-- The next attempt is under way or its refusal is posted, and the request goes back. -/
theorem Launch.started {result : Service × Request}
    (launch : service.Launch origin request result) : ∃ runs, result.2 = request.started runs := by
  cases launch with
  | accepted _ _ _ _ => exact ⟨_, rfl⟩
  | refused _ => exact ⟨_, rfl⟩

theorem Launch.putBack {result : Service × Request}
    (launch : service.Launch origin request result) (id : ContextId) :
    result.1.putBack id result.2 = result.1.insertLive id result.2 := by
  obtain ⟨runs, same⟩ := launch.started
  simp [Service.putBack, same, Request.started, RequestState.isTerminal]

/-- What is counted when an attempt is launched. -/
def launchCounts (service : Service) (origin : OriginSettings) (request : Request) :
    List (RegistryId × Counter) :=
  match service.dispatcher? origin.dispatcher with
  | none => []
  | some pool =>
      if pool.closed = true ∨ request.id ∈ pool.inFlight then [] else [(pool.registry, .attempts)]

theorem proceeds_accept (pool : Dispatcher) (attempt : Attempt) :
    Proceeds [(pool.registry, .attempts)] service (service.accept pool attempt) := by
  have flying : Proceeds [] service (service.updateDispatcher pool.id fun pool =>
      { pool with inFlight := attempt.request :: pool.inFlight }) :=
    service.proceeds_updateDispatcher fun _ => ⟨rfl, rfl, rfl, rfl⟩
  exact (flying.trans (proceeds_count _ _ _)).then (proceeds_of_proceedings rfl .start)

theorem Launch.proceeds {result : Service × Request}
    (launch : service.Launch origin request result) :
    Proceeds (launchCounts service origin request) service result.1 := by
  have announced : ∀ hook, Proceeds [] service (service.announceAttempt request hook) :=
    fun hook => service.proceeds_report _ rfl
  cases launch with
  | @accepted pool hook runs _ found opened free =>
      simp only [launchCounts, found, opened, free, Bool.false_eq_true, or_self, if_false]
      exact (announced hook).trans (proceeds_accept _ _)
  | @refused hook runs error refuses =>
      have nothing : launchCounts service origin request = [] := by
        cases refuses with
        | closed down =>
            cases found : service.dispatcher? origin.dispatcher with
            | none => simp only [launchCounts, found]
            | some pool => simp only [launchCounts, found, down pool found, true_or, if_true]
        | inFlight found flies => simp only [launchCounts, found, flies, or_true, if_true]
      rw [nothing]
      exact (announced hook).then (proceeds_updateOrigin _ _ _)

theorem settled_settleRows {completion : Completion} {rows : RowSet}
    (received : service.Received origin message completion request)
    (result : completion.result = .ok rows) :
    let settled := (service.removeLive origin.id request.id).settleRows origin request rows
    service.Settled origin message
      ((settled.1.putBack origin.id settled.2).releaseAll message.snapshot?.toList) := by
  have unset : (service.removeLive origin.id request.id).isCancelled request.awaiting.id = false :=
    received.accepted.unset
  simp only [settleRows, Request.awaitReconciliation_eq received.ready.running, unset]
  generalize reconciled : Service.reconcile _ _ rows _ _ false = decision
  obtain ⟨decided, outcome⟩ := decision
  simp only
  cases set : decided.isCancelled request.awaiting.id with
  | true =>
      have going : request.awaiting.state.isTerminal = false := rfl
      have ended := Settled.overtaken received result ⟨reconciled, set⟩
      rw [if_pos rfl]
      rw [endCancelled_eq going] at ended ⊢
      exact ended
  | false => exact .concluded received result ⟨reconciled, set⟩

/-- What handling a message comes to. -/
theorem settled_handle (ready : ∀ request,
      service.liveRequest? origin.id message.request = some request → request.Ready) :
    service.Settled origin message (service.handle origin message) := by
  have cancelled : ∀ request, service.liveRequest? origin.id message.request = some request →
      service.Settled origin message
        ((((service.removeLive origin.id request.id).endCancelled origin request).1.putBack
          origin.id ((service.removeLive origin.id request.id).endCancelled origin request).2
            ).releaseAll message.snapshot?.toList) := by
    intro request found
    have going := (ready request found).going
    have ended := Settled.cancelled found (ready request found)
    rw [endCancelled_eq going] at ended ⊢
    exact ended
  have absent : service.liveRequest? origin.id message.request = none → ∀ request,
      service.liveRequest? origin.id message.request = some request →
        ∃ completion, message = .completed completion ∧
          (completion.origin ≠ origin.id ∨ completion.attempt ≠ request.attempts) := by
    intro nothing request found
    exact absurd (nothing.symm.trans found) nofun
  cases message with
  | cancelRequested id =>
      simp only [handle]
      cases found : service.liveRequest? origin.id id with
      | none => exact .dropped (fun late => by cases late) (absent found)
      | some request => exact cancelled request found
  | completed completion =>
      simp only [handle, handleResult]
      by_cases elsewhere : completion.origin ≠ origin.id
      · rw [if_pos elsewhere]
        exact .dropped (fun late => by cases late) fun _ _ => ⟨completion, rfl, .inl elsewhere⟩
      · rw [if_neg elsewhere]
        cases found : service.liveRequest? origin.id completion.request with
        | none => exact .dropped (fun late => by cases late) (absent found)
        | some request =>
            have runs := ready request found
            simp only
            cases set : service.isCancelled request.id with
            | true => exact cancelled request found
            | false =>
                rw [if_neg Bool.false_ne_true]
                by_cases superseded : completion.attempt ≠ request.attempts ∨
                    request.state ≠ .running
                · have about := (owns_of_liveRequest? found).2
                  have older := superseded.resolve_right (not_not_intro runs.running)
                  rw [if_pos superseded, about]
                  refine .dropped (fun _ => ⟨completion, request, rfl, found, older⟩) ?_
                  intro other same
                  obtain rfl := Option.some.inj (found.symm.trans same)
                  exact ⟨completion, rfl, .inr older⟩
                · rw [if_neg superseded]
                  have received : service.Received origin (.completed completion) completion
                      request :=
                    ⟨rfl, found, runs, not_not.mp elsewhere,
                      not_not.mp fun older => superseded (.inl older), set⟩
                  cases result : completion.result with
                  | ok rows => exact settled_settleRows received result
                  | error error =>
                      have ended := (interlude_deliverError
                        (service.removeLive origin.id request.id) origin runs.going runs.onError
                        error).1
                      have failed := Settled.failed received result
                      rw [← ended] at failed
                      exact failed

end Service

end SnapshotQuery
