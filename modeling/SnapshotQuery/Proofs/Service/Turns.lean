import SnapshotQuery.Proofs.Service.Development
import SnapshotQuery.Proofs.Service.Provision
import SnapshotQuery.Proofs.Service.Transparency

/-!
# Turns of an origin

After an origin has handled a message nothing is under way that was not before,
except for the next attempt of a request whose rows were stale.  That attempt is
refused only by a dispatcher that is closed.
-/

namespace SnapshotQuery.Service

/-- Nothing is owned, under way or posted that was not before. -/
structure Lapsed (before after : Service) : Prop where
  attempts : after.attempts ⊆ before.attempts
  owns : ∀ id request, after.Owns id request → before.Owns id request
  holds : ∀ id completion, after.Holds id (.completed completion) →
    before.Holds id (.completed completion)

/-- The rows of a request were stale, and its next attempt is launched. -/
structure Relaunched (service : Service) (owner : Origin) (message : Message)
    (rest : List Message) (request : Request) (rows : RowSet) (moment : Service)
    (result : Service × Request) (after : Service) : Prop where
  received : ∃ completion,
    (service.leaveMessages owner.settings.id rest).Received owner.settings message completion
      request ∧ completion.result = .ok rows
  unset : moment.isCancelled request.id = false
  interlude : Interlude []
    ((service.leaveMessages owner.settings.id rest).removeLive owner.settings.id request.id) moment
  exchange : Exchange [] []
    ((service.leaveMessages owner.settings.id rest).removeLive owner.settings.id request.id) moment
  proceeds : ∃ counts, Proceeds counts
    ((service.leaveMessages owner.settings.id rest).removeLive owner.settings.id request.id) moment
  launch : moment.Launch owner.settings request.between result
  closing : after = (result.1.insertLive owner.settings.id result.2).releaseAll
    message.snapshot?.toList

variable {calls : List Observation} {given taken : List Snapshot}
  {service before after moment : Service} {origin : OriginSettings} {owner : Origin}
  {request : Request} {message : Message} {rest : List Message} {id : ContextId} {move : Move}

section Lapsing

theorem Lapsed.trans {first middle last : Service} (earlier : first.Lapsed middle)
    (later : middle.Lapsed last) : first.Lapsed last where
  attempts := List.Subset.trans later.attempts earlier.attempts
  owns id request := earlier.owns id request ∘ later.owns id request
  holds id completion := earlier.holds id completion ∘ later.holds id completion

theorem Interlude.lapsed (interlude : Interlude calls before after) : before.Lapsed after where
  attempts := interlude.attempts ▸ List.Subset.refl _
  owns _ _ := interlude.owns_iff.mp
  holds _ _ := interlude.holds_completed_iff.mp

theorem Reduced.lapsed (reduced : after.Reduced before) : before.Lapsed after :=
  ⟨reduced.attempts, reduced.owns, reduced.holds⟩

/-- A request that has ended is not given back. -/
theorem lapsed_putBack (ended : request.state.isTerminal = true) :
    service.Lapsed (service.putBack id request) := by
  rw [putBack, if_pos ended]
  exact ⟨List.Subset.refl _, fun _ _ owned => owned, fun _ _ held => held⟩

theorem lapsed_endCancelled (going : request.state.isTerminal = false) :
    service.Lapsed (service.endCancelled origin request).1 := by
  rw [endCancelled_eq going]
  exact ⟨List.Subset.refl _, fun _ _ owned => owned, fun _ _ held => held⟩

end Lapsing

section Turns

theorem Reconciled.interlude {service decided : Service} {rows : RowSet} {outcome : Reconciliation}
    {set : Bool} (reconciled : service.Reconciled origin request rows decided outcome set) :
    Interlude [] service decided := by
  have interlude := service.interlude_reconcile origin.config.reconcileMode rows request.policy
    request.attempts false
  rw [reconciled.reconciled] at interlude
  exact interlude

theorem Reconciled.exchange {service decided : Service} {rows : RowSet} {outcome : Reconciliation}
    {set : Bool} (reconciled : service.Reconciled origin request rows decided outcome set) :
    Exchange [] outcome.snapshots service decided := by
  have exchange := service.exchange_reconcile origin.config.reconcileMode rows request.policy
    request.attempts false
  rw [reconciled.reconciled] at exchange
  exact exchange

theorem lapsed_deliverError (going : request.state.isTerminal = false)
    (ready : request.onError.isSome = true) (error : QueryError) :
    service.Lapsed ((service.deliverError origin request error).1.putBack id
      (service.deliverError origin request error).2) := by
  obtain ⟨final, interlude⟩ := service.interlude_deliverError origin going ready error
  rw [final]
  exact interlude.lapsed.trans (lapsed_putBack rfl)

theorem lapsed_deliverSuccess (ready : request.onSuccess.isSome = true) (view : View) :
    service.Lapsed ((service.deliverSuccess origin request.awaiting view).1.putBack id
      (service.deliverSuccess origin request.awaiting view).2) := by
  obtain ⟨final, interlude⟩ := service.interlude_deliverSuccess origin ready view
  rw [final]
  exact interlude.lapsed.trans (lapsed_putBack rfl)

/-- Unless the rows are computed again, the request has ended. -/
theorem lapsed_conclude (ready : request.Ready) {outcome : Reconciliation}
    (ends : ∀ snapshot current, outcome ≠ .retry snapshot current) :
    service.Lapsed ((service.conclude origin request.awaiting outcome).1.putBack id
      (service.conclude origin request.awaiting outcome).2) := by
  have going : request.awaiting.state.isTerminal = false := rfl
  cases outcome with
  | converged view => exact lapsed_deliverSuccess ready.onSuccess view
  | rederived view =>
      have announced : Interlude [] service
          (service.announced origin request (.rederived view)) := interlude_announced _
      exact announced.lapsed.trans (lapsed_deliverSuccess ready.onSuccess view)
  | retry snapshot current => exact absurd rfl (ends snapshot current)
  | giveUp error =>
      have called : request.awaiting.onError.isSome = true := ready.onError
      cases error with
      | unreachableVersion attempts snapshot current =>
          have reported : Interlude [] service
              (service.reportMismatch origin request.awaiting snapshot current) :=
            interlude_reportMismatch snapshot current
          exact reported.lapsed.trans (lapsed_deliverError going called _)
      | store _ | handoverMismatch _ _ | contextMismatch _ _ | invalidTransition _ _ _
      | alreadyInFlight _ | dispatcherClosed | noRuntime _ | workerPanicked _ | config _ =>
          exact lapsed_deliverError going called _

theorem lapsed_taken (service : Service) (id : ContextId) (removed : RequestId) :
    service.Lapsed (service.removeLive id removed) :=
  (reduced_removeLive removed).lapsed

/-- After a turn nothing new is under way, or a request whose rows were stale is relaunched. -/
theorem Processed.lapsed_or_relaunched (processed : service.Processed owner message rest after)
    (contexts : service.contextIds.Nodup) : service.Lapsed after ∨
      ∃ request rows moment result,
        service.Relaunched owner message rest request rows moment result after := by
  obtain ⟨found, oldest, settled⟩ := processed
  have left := (reduced_leaveMessages contexts found oldest).lapsed
  have dropped : ∀ moment : Service, service.Lapsed moment →
      service.Lapsed (moment.releaseAll message.snapshot?.toList) :=
    fun moment lapsed => lapsed.trans (moment.interlude_releaseAll _).lapsed
  cases settled with
  | dropped _ => exact .inl (dropped _ (left.trans (interlude_dropStale _ _).lapsed))
  | cancelled found ready =>
      exact .inl (dropped _ (((left.trans (lapsed_taken _ _ _)).trans
        (lapsed_endCancelled ready.going)).trans (lapsed_putBack rfl)))
  | @overtaken completion request rows decided outcome received result reconciled =>
      have going : request.awaiting.state.isTerminal = false := rfl
      have ended : decided.Lapsed (decided.endCancelled owner.settings request.awaiting).1 :=
        lapsed_endCancelled going
      exact .inl (dropped _ (((((left.trans (lapsed_taken _ _ _)).trans
        reconciled.interlude.lapsed).trans ended).trans (interlude_releaseAll _ _).lapsed).trans
          (lapsed_putBack rfl)))
  | @failed completion request error received result =>
      have called := (interlude_deliverError ((service.leaveMessages owner.settings.id rest
        ).removeLive owner.settings.id request.id) owner.settings received.ready.going
          received.ready.onError error).2
      exact .inl (dropped _ (((left.trans (lapsed_taken _ _ _)).trans called.lapsed).trans
        (lapsed_putBack rfl)))
  | @concluded completion request rows decided outcome received result reconciled =>
      have before := (left.trans (lapsed_taken _ _ _)).trans reconciled.interlude.lapsed
      by_cases retried : ∃ snapshot current, outcome = .retry snapshot current
      · obtain ⟨snapshot, current, rfl⟩ := retried
        let moment := ((decided.reportMismatch owner.settings request.awaiting snapshot current
          ).count owner.settings.registry .retries).report
            (.retrying request.id (request.attempts + 1))
        have launch : moment.Launch owner.settings request.between
          (moment.launchAttempt owner.settings request.between) := launch_launchAttempt (.inr rfl)
        refine .inr ⟨request, rows, moment, _, ⟨completion, received, result⟩, reconciled.token,
          ?_, ?_, ?_, launch, ?_⟩
        · exact ((reconciled.interlude.then (interlude_reportMismatch snapshot current)).then
            (interlude_count _ _ _)).then (interlude_report _ _)
        · exact ((reconciled.exchange.trans (exchange_reportMismatch _ _ _ snapshot current)).trans
            (exchange_count _ _ _)).trans (exchange_report _ _)
        · exact ⟨_, ((reconciled.proceeds.trans (proceeds_reportMismatch _ _ _ snapshot
            current)).trans (proceeds_count _ _ _)).then (proceeds_report _ _ rfl)⟩
        · rw [← launch.putBack]
          rfl
      · refine .inl (dropped _ (before.trans (lapsed_conclude received.ready ?_)))
        exact fun snapshot current same => retried ⟨snapshot, current, same⟩

end Turns

section Refusals

/-- A dispatcher that knows its attempts refuses an attempt of a request without one only if it is
closed. -/
theorem Refuses.shut {error : QueryError} (refuses : service.Refuses origin request error)
    (flown : service.Flown) (housed : origin.dispatcher ∈ service.poolIds)
    (unused : ∀ attempt ∈ service.attempts, attempt.request ≠ request.id) :
    error = .dispatcherClosed ∧ service.Shut origin.dispatcher := by
  cases refuses with
  | closed down =>
      obtain ⟨other, member, same⟩ := List.mem_map.mp housed
      obtain ⟨pool, found⟩ : ∃ pool, service.dispatcher? origin.dispatcher = some pool :=
        Option.isSome_iff_exists.mp
          (List.find?_isSome.mpr ⟨other, member, decide_eq_true same⟩)
      exact ⟨rfl, pool, List.mem_of_find?_eq_some found, dispatcher?_id found,
        down pool found⟩
  | @inFlight pool found flies =>
      have member := List.mem_of_find?_eq_some found
      obtain ⟨attempt, among, about, _⟩ :=
        exists_of_mem_flyingAmong ((flown.inFlight pool member).mem_iff.mp flies)
      exact absurd about (unused attempt among)

end Refusals

end SnapshotQuery.Service
