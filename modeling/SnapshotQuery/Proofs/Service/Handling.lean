import SnapshotQuery.Proofs.Service.Requests

/-!
# Handling a message

A message is dropped, or it ends the request it is about, or the next attempt of
the request is started.  Only a result that was not overtaken by a cancellation
ends a request with a call of a callback.
-/

namespace SnapshotQuery

/-- The request a message is about. -/
def Message.request : Message → RequestId
  | completed completion => completion.request
  | cancelRequested id => id

namespace Service

/-- The origin takes the completion for the result of the running attempt of its request. -/
structure Accepted (service : Service) (origin : OriginSettings) (completion : Completion)
    (request : Request) : Prop where
  own : completion.origin = origin.id
  current : completion.attempt = request.attempts
  unset : service.isCancelled request.id = false

/-- What is reported of a decision before the success callback is called. -/
def announced (service : Service) (origin : OriginSettings) (request : Request) :
    Reconciliation → Service
  | .rederived view =>
      ((service.count origin.registry .versionMismatches).count origin.registry .rederived).report
        (.rederived request.id request.attempts view.rows.version)
  | .converged _ | .retry _ _ | .giveUp _ => service

/-- The request has ended, and some more tokens are set. -/
def retire (service : Service) (final : Request) (marks : List RequestId) : Service :=
  { service with ended := final :: service.ended, cancelled := marks }

/-- The rows of a request in hand come to be delivered: the callback is to be called with the view
at the moment. -/
structure Delivers (taken : Service) (origin : OriginSettings) (request : Request) (rows : RowSet)
    (outcome : Reconciliation) (view : View) (moment : Service) : Prop where
  reconciled : ∃ decided,
    taken.reconcile origin.config.reconcileMode rows request.policy request.attempts false =
        (decided, outcome) ∧
      decided.isCancelled request.id = false ∧ moment = decided.announced origin request outcome
  view : outcome.view? = some view

/-- What becomes of a request in hand when its rows are reconciled. -/
inductive Concluded (taken : Service) (origin : OriginSettings) (request : Request)
    (rows : RowSet) : Service × Request → Prop
  | failed {moment error} (interlude : Interlude [] taken moment) :
      Concluded taken origin request rows
        (moment.deliverError origin request.awaiting error)
  | delivered {outcome view moment}
      (delivers : taken.Delivers origin request rows outcome view moment) :
      Concluded taken origin request rows
        (moment.deliverSuccess origin request.awaiting view)
  | cancelled {moment snapshots} (interlude : Interlude [] taken moment) :
      Concluded taken origin request rows
        ((moment.endCancelled origin request.awaiting).1.releaseAll snapshots,
          (moment.endCancelled origin request.awaiting).2)
  | retried {moment result} (interlude : Interlude [] taken moment)
      (unset : moment.isCancelled request.id = false)
      (launched : moment.Launched origin request.between result) :
      Concluded taken origin request rows result

/-- How a message ends the request it is about: the calls of callbacks and the last state. -/
inductive Ending (service : Service) (origin : OriginSettings) (message : Message)
    (request : Request) : List Observation → RequestState → Prop
  | converged {completion rows outcome view moment} (posted : message = .completed completion)
      (accepted : service.Accepted origin completion request)
      (result : completion.result = .ok rows)
      (delivers : (service.removeLive origin.id request.id).Delivers origin request rows outcome
        view moment) :
      Ending service origin message request
        [.succeeded request.label request.id (moment.inspect view).2] .converged
  | failed {completion error} (posted : message = .completed completion)
      (accepted : service.Accepted origin completion request) :
      Ending service origin message request [.failed request.label request.id error] .failed
  | cancelled : Ending service origin message request [] .cancelled

/-- What handling a message comes to. -/
inductive Handled (service : Service) (origin : OriginSettings) (message : Message) :
    Service → Prop
  | dropped {after}
      (useless : ∀ request, service.liveRequest? origin.id message.request = some request →
        ∃ completion, message = .completed completion ∧
          (completion.origin ≠ origin.id ∨ completion.attempt ≠ request.attempts))
      (interlude : Interlude [] service after) :
      Handled service origin message after
  | ended {request final calls moment marks after}
      (found : service.liveRequest? origin.id message.request = some request)
      (same : final.id = request.id)
      (ending : service.Ending origin message request calls final.state)
      (interlude : Interlude calls (service.removeLive origin.id request.id) moment)
      (kept : moment.cancelled ⊆ marks)
      (added : ∀ id ∈ marks, id ∈ moment.cancelled ∨ id = request.id)
      (closing : Interlude [] (moment.retire final marks) after) :
      Handled service origin message after
  | relaunched {request completion moment result after}
      (found : service.liveRequest? origin.id message.request = some request)
      (posted : message = .completed completion)
      (accepted : service.Accepted origin completion request)
      (interlude : Interlude [] (service.removeLive origin.id request.id) moment)
      (unset : moment.isCancelled request.id = false)
      (launched : moment.Launched origin request.between result)
      (closing : Interlude [] (result.1.insertLive origin.id result.2) after) :
      Handled service origin message after

variable {service taken : Service} {origin : OriginSettings} {request : Request}

theorem interlude_announced (outcome : Reconciliation) :
    Interlude [] service (service.announced origin request outcome) := by
  cases outcome with
  | rederived view =>
      exact ((service.interlude_count _ _).then (interlude_count _ _ _)).then
        (interlude_report _ _)
  | converged view => exact .refl service
  | retry snapshot current => exact .refl service
  | giveUp error => exact .refl service

theorem Delivers.interlude {rows : RowSet} {outcome : Reconciliation} {view : View}
    {moment : Service} (delivers : taken.Delivers origin request rows outcome view moment) :
    Interlude [] taken moment := by
  obtain ⟨decided, reconciled, _, rfl⟩ := delivers.reconciled
  have interlude := taken.interlude_reconcile origin.config.reconcileMode rows request.policy
    request.attempts false
  rw [reconciled] at interlude
  exact interlude.then (interlude_announced outcome)

/-- Reconciling the rows of a running request that is not cancelled. -/
theorem concluded_settleRows (running : request.state = .running)
    (unset : taken.isCancelled request.id = false) (rows : RowSet) :
    taken.Concluded origin request rows (taken.settleRows origin request rows) := by
  have unsetAwaiting : taken.isCancelled request.awaiting.id = false := unset
  simp only [settleRows, Request.awaitReconciliation_eq running, unsetAwaiting]
  have interlude := taken.interlude_reconcile origin.config.reconcileMode rows
    request.awaiting.policy request.awaiting.attempts false
  generalize reconciled : taken.reconcile origin.config.reconcileMode rows
    request.awaiting.policy request.awaiting.attempts false = result at interlude
  obtain ⟨decided, outcome⟩ := result
  simp only
  cases set : decided.isCancelled request.awaiting.id with
  | true => exact .cancelled interlude
  | false =>
      rw [if_neg Bool.false_ne_true]
      cases outcome with
      | converged view => exact .delivered ⟨⟨decided, reconciled, set, rfl⟩, rfl⟩
      | rederived view => exact .delivered ⟨⟨decided, reconciled, set, rfl⟩, rfl⟩
      | giveUp error =>
          cases error <;> first
            | exact .failed interlude
            | exact .failed (interlude.then (interlude_reportMismatch _ _))
      | retry snapshot current =>
          simp only [conclude, Request.scheduleRetry_awaiting]
          exact .retried (((interlude.then (interlude_reportMismatch snapshot current)).then
            (interlude_count _ _ _)).then (interlude_report _ _)) set
            (launched_launchAttempt (.inr rfl))

/-- The rows of the running attempt are reconciled, and the decision is acted on. -/
theorem handle_of_reconciled {completion : Completion} {rows : RowSet} {decided : Service}
    {outcome : Reconciliation}
    (found : service.liveRequest? origin.id completion.request = some request)
    (accepted : service.Accepted origin completion request) (ready : request.Ready)
    (result : completion.result = .ok rows)
    (reconciled : (service.removeLive origin.id request.id).reconcile origin.config.reconcileMode
      rows request.policy request.attempts false = (decided, outcome))
    (unset : decided.isCancelled request.id = false) :
    service.handle origin (.completed completion) =
      ((decided.conclude origin request.awaiting outcome).1.putBack origin.id
        (decided.conclude origin request.awaiting outcome).2).releaseAll
          completion.snapshot.toList := by
  have settled : (service.removeLive origin.id request.id).settleRows origin request rows =
      decided.conclude origin request.awaiting outcome := by
    have unsetTaken : (service.removeLive origin.id request.id).isCancelled request.awaiting.id =
        false := accepted.unset
    have unsetDecided : decided.isCancelled request.awaiting.id = false := unset
    have awaiting : (service.removeLive origin.id request.id).reconcile
        origin.config.reconcileMode rows request.awaiting.policy request.awaiting.attempts false =
          (decided, outcome) := reconciled
    simp only [settleRows, Request.awaitReconciliation_eq ready.running, unsetTaken, awaiting,
      unsetDecided, if_neg Bool.false_ne_true]
  have fits : ¬(completion.attempt ≠ request.attempts ∨ request.state ≠ .running) := by
    simp [accepted.current, ready.running]
  simp only [handle, handleResult, if_neg (not_not_intro accepted.own), found, accepted.unset,
    if_neg Bool.false_ne_true, if_neg fits, result, settled]

/-- An interlude is one also with a request ended before it. -/
theorem Interlude.withEnded {calls : List Observation} {before after : Service}
    (interlude : Interlude calls before after) (final : Request) :
    Interlude calls { before with ended := final :: before.ended }
      { after with ended := final :: after.ended } :=
  ⟨interlude.attempts, congrArg (final :: ·) interlude.ended, interlude.requestsMade,
    interlude.contextsMade, interlude.handles, interlude.callbacks, interlude.cancelled,
    interlude.wakeUps, interlude.told, interlude.faults, interlude.store⟩

variable {message : Message}

/-- A cancellation ends a request that is taken in hand without a call of a callback. -/
theorem handled_endCancelled
    (found : service.liveRequest? origin.id message.request = some request)
    {held : Request} (same : held.id = request.id) (going : held.state.isTerminal = false)
    {moment : Service} (interlude : Interlude [] (service.removeLive origin.id request.id) moment)
    (earlier later : List Snapshot) :
    service.Handled origin message
      ((((moment.endCancelled origin held).1.releaseAll earlier).putBack origin.id
        (moment.endCancelled origin held).2).releaseAll later) := by
  rw [endCancelled_eq going]
  let marked : Service := { moment with cancelled := moment.cancelled.insert held.id }
  have recorded : Interlude [] marked
      ((marked.recordCancelled origin held.abandoned).releaseAll earlier) :=
    interlude_recordCancelled.then (interlude_releaseAll _ earlier)
  have closing := (recorded.withEnded held.abandoned).then (interlude_releaseAll _ later)
  have abandoned : held.abandoned.id = request.id := same
  refine .ended found abandoned .cancelled interlude ?_ ?_ closing
  · exact fun id member => List.mem_insert_of_mem member
  · intro id member
    rcases List.mem_insert_iff.mp member with rfl | old
    · exact .inr same
    · exact .inl old

/-- A callback that is called ends a request that is taken in hand. -/
theorem handled_called {calls : List Observation} {state : RequestState} {held : Request}
    (found : service.liveRequest? origin.id message.request = some request)
    (same : held.id = request.id) (terminal : state.isTerminal = true)
    (ending : service.Ending origin message request calls state) {result : Service × Request}
    (called : result.2 = held.endedAs state ∧
      Interlude calls (service.removeLive origin.id request.id) result.1)
    (later : List Snapshot) :
    service.Handled origin message
      ((result.1.putBack origin.id result.2).releaseAll later) := by
  obtain ⟨moment, final⟩ := result
  obtain ⟨rfl, interlude⟩ := called
  have ended : (held.endedAs state).id = request.id := same
  simp only [putBack, Request.endedAs, terminal, if_true]
  exact .ended found ended ending interlude (List.Subset.refl _) (fun _ => .inl)
    (interlude_releaseAll (moment.retire (held.endedAs state) moment.cancelled) later)

/-- The next attempt of a request that is taken in hand is started. -/
theorem handled_launched {completion : Completion}
    (found : service.liveRequest? origin.id completion.request = some request)
    (accepted : service.Accepted origin completion request)
    {moment : Service} (interlude : Interlude [] (service.removeLive origin.id request.id) moment)
    (unset : moment.isCancelled request.id = false) {result : Service × Request}
    (launched : moment.Launched origin request.between result) (later : List Snapshot) :
    service.Handled origin (.completed completion)
      ((result.1.putBack origin.id result.2).releaseAll later) := by
  rw [launched.putBack]
  exact .relaunched found rfl accepted interlude unset launched (interlude_releaseAll _ later)

theorem handled_settleRows {completion : Completion} {rows : RowSet}
    (found : service.liveRequest? origin.id completion.request = some request)
    (accepted : service.Accepted origin completion request)
    (ready : request.Ready) (result : completion.result = .ok rows) (later : List Snapshot) :
    let settled := (service.removeLive origin.id request.id).settleRows origin request rows
    service.Handled origin (.completed completion)
      ((settled.1.putBack origin.id settled.2).releaseAll later) := by
  intro settled
  have unsetTaken : (service.removeLive origin.id request.id).isCancelled request.id = false :=
    accepted.unset
  have concluded : (service.removeLive origin.id request.id).Concluded origin request rows
    settled := concluded_settleRows ready.running unsetTaken rows
  have same : request.awaiting.id = request.id := rfl
  generalize settled = outcome at concluded
  cases concluded with
  | @failed moment error interlude =>
      have going : request.awaiting.state.isTerminal = false := rfl
      obtain ⟨final, called⟩ := moment.interlude_deliverError origin going ready.onError error
      exact handled_called found same rfl (.failed rfl accepted)
        ⟨final, interlude.trans called⟩ later
  | @delivered _ view moment delivers =>
      obtain ⟨final, called⟩ := moment.interlude_deliverSuccess origin ready.onSuccess view
      exact handled_called found rfl rfl (.converged rfl accepted result delivers)
        ⟨final, delivers.interlude.trans called⟩ later
  | cancelled interlude => exact handled_endCancelled found same rfl interlude _ later
  | retried interlude unset launched =>
      exact handled_launched found accepted interlude unset launched later

/-- Handling a message about requests that are ready comes to one of three things. -/
theorem handled_handle (ready : ∀ request,
      service.liveRequest? origin.id message.request = some request → request.Ready) :
    service.Handled origin message (service.handle origin message) := by
  cases message with
  | cancelRequested id =>
      simp only [handle]
      cases found : service.liveRequest? origin.id id with
      | none =>
          refine .dropped ?_ (interlude_dropStale _ _)
          intro request other
          exact absurd (found.symm.trans other) nofun
      | some request =>
          have going : request.state.isTerminal = false := by
            rw [(ready request found).running, RequestState.isTerminal]
          exact handled_endCancelled found rfl going (.refl _) [] []
  | completed completion =>
      simp only [handle, handleResult]
      have stale : ∀ moment : Service, Interlude [] service moment →
          Interlude [] service (moment.releaseAll completion.snapshot.toList) :=
        fun moment dropped => dropped.then (interlude_releaseAll moment _)
      by_cases elsewhere : completion.origin ≠ origin.id
      · rw [if_pos elsewhere]
        exact .dropped (fun _ _ => ⟨completion, rfl, .inl elsewhere⟩)
          (stale _ (interlude_dropStale _ _))
      · rw [if_neg elsewhere]
        cases found : service.liveRequest? origin.id completion.request with
        | none =>
            refine .dropped ?_ (stale _ (interlude_dropStale _ _))
            intro request other
            exact absurd (found.symm.trans other) nofun
        | some request =>
            have runs := ready request found
            have going : request.state.isTerminal = false := by
              rw [runs.running, RequestState.isTerminal]
            simp only
            cases set : service.isCancelled request.id with
            | true => exact handled_endCancelled found rfl going (.refl _) [] _
            | false =>
                rw [if_neg Bool.false_ne_true]
                by_cases superseded : completion.attempt ≠ request.attempts ∨
                    request.state ≠ .running
                · rw [if_pos superseded]
                  have older := superseded.resolve_right (not_not_intro runs.running)
                  refine .dropped ?_ (stale _ (interlude_dropStale _ _))
                  intro other same
                  obtain rfl := Option.some.inj (found.symm.trans same)
                  exact ⟨completion, rfl, .inr older⟩
                · rw [if_neg superseded]
                  have accepted : service.Accepted origin completion request :=
                    ⟨not_not.mp elsewhere, not_not.mp fun older => superseded (.inl older), set⟩
                  cases result : completion.result with
                  | ok rows => exact handled_settleRows found accepted runs result _
                  | error error =>
                      exact handled_called found rfl rfl (.failed rfl accepted)
                        (interlude_deliverError _ origin going runs.onError error) _

end Service

end SnapshotQuery
