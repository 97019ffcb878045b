import SnapshotQuery.Proofs.Service.Answers
import SnapshotQuery.Proofs.Service.Custody

/-!
# Delivered results are not stale

A result on its way was computed for the predicate of its request, and it still
is what the store would answer unless there was a commit since.  Its origin
delivers it only at the current version.
-/

namespace SnapshotQuery

/-- Faults are interposed only if they are truthful. -/
def Move.Truthful : Move → Prop
  | interpose faults => ∀ method, ∀ fault ∈ faults method, fault.Truthful
  | _ => True

namespace Store

/-- The view is one of the current version, and rows that were kept are those a query finds. -/
structure Current (store : Store) (mode : ReconcileMode) (request : Request)
    (outcome : Reconciliation) (view : View) : Prop where
  rows_version : view.rows.version = store.currentVersion
  snapshot_version : view.snapshot.version = store.currentVersion
  strict : mode = .strict → outcome = .converged view
  found_again : outcome = .converged view → ∀ snapshot : Snapshot,
    snapshot.version = store.currentVersion →
      store.evaluate snapshot request.predicate = .ok view.rows
  ascending : outcome = .converged view → view.rows.rows.Pairwise (· < ·)

/-- What is agreed on without a commit is current. -/
theorem Agreed.current {earlier store : Store} {mode : ReconcileMode} {rows : RowSet}
    {outcome : Reconciliation} {view : View} {request : Request}
    (agreed : earlier.Agreed store mode rows outcome view) (coherent : store.Coherent)
    (computed : store.Computed request.predicate rows)
    (uncommitted : store.authority.current = earlier.authority.current) :
    store.Current mode request outcome view := by
  have published : store.currentVersion = store.authority.current := coherent.published
  have version : view.rows.version = store.authority.current :=
    Nat.le_antisymm agreed.opened.retained.2 (uncommitted ▸ agreed.current_le)
  have kept : outcome = .converged view → view.rows = rows := agreed.kept
  refine ⟨version.trans published.symm, ?_, agreed.strict, ?_, ?_⟩
  · rw [agreed.opened.version, version, published]
  · intro converged snapshot fresh
    have retained := agreed.opened.retained
    rw [kept converged] at version retained ⊢
    exact computed.evaluate version agreed.opened.sound retained
      (fresh.trans (published.trans version.symm))
  · intro converged
    rw [kept converged] at version ⊢
    rw [computed.rows version]
    exact store.rowsMatching_sorted _ _

end Store

namespace Service

/-- Everything about a request asks for one predicate, and results on their way were computed for
it. -/
structure Faithful (asked : RequestId → Predicate) (service : Service) : Prop where
  coherent : service.store.Coherent
  truthful : service.Truthful
  live : ∀ id request, service.Owns id request → request.predicate = asked request.id
  attempts : ∀ attempt ∈ service.attempts, attempt.predicate = asked attempt.request
  evaluated : ∀ attempt ∈ service.attempts, ∀ outcome rows,
    attempt.phase.outcome? = some outcome → outcome.result = .ok rows →
      service.store.Computed (asked attempt.request) rows
  posted : ∀ id completion rows, service.Holds id (.completed completion) →
    completion.result = .ok rows → service.store.Computed (asked completion.request) rows

variable {calls : List Observation} {service before after moment : Service} {id : ContextId}
  {asked : RequestId → Predicate} {request : Request} {origin : OriginSettings} {owner : Origin}
  {message : Message} {rest : List Message} {wanted : RequestId}

theorem faithful_new (schema : TableSchema) (asked : RequestId → Predicate) :
    (Service.new schema).Faithful asked := by
  refine ⟨Store.coherent_new schema, ?_, ?_, ?_, ?_, ?_⟩ <;> simp [new, Truthful, Owns, Holds]

/-- With less under way, and a store that was only used, all that is left is as before. -/
theorem Faithful.less (faithful : before.Faithful asked)
    (store : before.store.Precedes after.store) (truthful : after.Truthful)
    (owns : ∀ id request, after.Owns id request → before.Owns id request)
    (attempts : after.attempts ⊆ before.attempts)
    (holds : ∀ id completion, after.Holds id (.completed completion) →
      before.Holds id (.completed completion)) :
    after.Faithful asked where
  coherent := store.coherent faithful.coherent
  truthful := truthful
  live id request owned := faithful.live id request (owns id request owned)
  attempts attempt member := faithful.attempts attempt (attempts member)
  evaluated attempt member outcome rows passed result :=
    (faithful.evaluated attempt (attempts member) outcome rows passed result).precedes store
  posted id completion rows held result :=
    (faithful.posted id completion rows (holds id completion held) result).precedes store

theorem Faithful.interlude (faithful : before.Faithful asked)
    (interlude : Interlude calls before after) : after.Faithful asked :=
  faithful.less interlude.store (interlude.truthful faithful.truthful)
    (fun _ _ => interlude.owns_iff.mp) (interlude.attempts ▸ List.Subset.refl _)
    (fun _ _ => interlude.holds_completed_iff.mp)

theorem Faithful.reduced (faithful : before.Faithful asked) (reduced : after.Reduced before)
    (store : after.store = before.store) (faults : after.faults = before.faults) :
    after.Faithful asked := by
  have truthful : after.Truthful := by
    rw [Truthful, faults]
    exact faithful.truthful
  exact faithful.less (store ▸ .refl _) truthful reduced.owns reduced.attempts reduced.holds

theorem Faithful.insertLive (faithful : service.Faithful asked)
    (same : request.predicate = asked request.id) :
    (service.insertLive id request).Faithful asked where
  coherent := faithful.coherent
  truthful := faithful.truthful
  live other held owned := by
    rcases owns_insertLive owned with old | ⟨_, rfl⟩
    · exact faithful.live other held old
    · exact same
  attempts := faithful.attempts
  evaluated := faithful.evaluated
  posted other completion rows held :=
    faithful.posted other completion rows (holds_insertLive_iff.mp held)

theorem Faithful.post (faithful : service.Faithful asked) {completion : Completion}
    (computed : ∀ rows, completion.result = .ok rows →
      service.store.Computed (asked completion.request) rows) :
    (service.post id (.completed completion)).Faithful asked where
  coherent := faithful.coherent
  truthful := faithful.truthful
  live other held owned := faithful.live other held (owns_post_iff.mp owned)
  attempts := faithful.attempts
  evaluated := faithful.evaluated
  posted other found rows held result := by
    rcases holds_of_post held with old | ⟨_, same⟩
    · exact faithful.posted other found rows old result
    · obtain rfl := Message.completed.inj same
      exact computed rows result

theorem Faithful.setPhase (faithful : service.Faithful asked) {phase : Phase}
    (computed : ∀ outcome rows, phase.outcome? = some outcome → outcome.result = .ok rows →
      service.store.Computed (asked wanted) rows) :
    (service.setPhase wanted phase).Faithful asked where
  coherent := faithful.coherent
  truthful := faithful.truthful
  live := faithful.live
  attempts attempt member := by
    obtain ⟨old, oldMember, rfl⟩ := List.mem_map.mp member
    split <;> exact faithful.attempts old oldMember
  evaluated attempt member outcome rows passed result := by
    obtain ⟨old, oldMember, rfl⟩ := List.mem_map.mp member
    by_cases here : old.request = wanted
    · simp only [if_pos here] at passed ⊢
      exact here ▸ computed outcome rows passed result
    · simp only [if_neg here] at passed ⊢
      exact faithful.evaluated old oldMember outcome rows passed result
  posted := faithful.posted

/-- A result that an attempt comes to was computed for its predicate. -/
theorem Faithful.passes (faithful : service.Faithful asked) {attempt : Attempt} {phase : Phase}
    (member : attempt ∈ service.attempts) (passes : service.Passes attempt moment phase)
    {outcome : Outcome} {rows : RowSet} (passed : phase.outcome? = some outcome)
    (result : outcome.result = .ok rows) :
    moment.store.Computed (asked attempt.request) rows := by
  have kept : attempt.phase.outcome? = some outcome →
      moment.store.Computed (asked attempt.request) rows := fun earlier =>
    (faithful.evaluated attempt member outcome rows earlier result).precedes passes.interlude.store
  cases passes with
  | refused _ =>
    obtain rfl := Option.some.inj passed
    exact absurd result nofun
  | admitted _ => exact absurd passed nofun
  | abandoned _ _ => exact absurd passed nofun
  | cleared _ _ => exact absurd passed nofun
  | finished _ evaluated =>
    obtain rfl := Option.some.inj passed
    rw [← faithful.attempts attempt member]
    exact computed_of_evaluateAttempt faithful.truthful evaluated result
  | released finished => exact kept (finished ▸ passed)
  | checked released _ _ => exact kept (released ▸ passed)

theorem Faithful.advanced (faithful : service.Faithful asked)
    (advanced : service.Advanced wanted after) : after.Faithful asked := by
  cases advanced with
  | waiting => exact faithful
  | moved member same passes =>
    subst same
    exact (faithful.interlude passes.interlude).setPhase fun _ _ => faithful.passes member passes
  | skipped _ _ _ interlude =>
    exact (faithful.interlude interlude).reduced (reduced_dropAttempt _) rfl rfl
  | orphaned _ _ _ interlude =>
    exact (faithful.interlude interlude).reduced (reduced_dropAttempt _) rfl rfl
  | @posted attempt outcome moment owner member same checked interlude _ =>
    refine ((faithful.interlude interlude).post ?_).reduced (reduced_dropAttempt _) rfl rfl
    intro rows result
    have passed : attempt.phase.outcome? = some outcome := by rw [checked, Phase.outcome?]
    exact (faithful.evaluated attempt member outcome rows passed result).precedes interlude.store

theorem Faithful.launched (faithful : service.Faithful asked)
    (same : request.predicate = asked request.id) {result : Service × Request}
    (launched : service.Launched origin request result) :
    (result.1.insertLive id result.2).Faithful asked := by
  have starts := launched.starts
  have kept : result.2.predicate = asked result.2.id := by rw [starts.predicate, starts.id, same]
  refine Faithful.insertLive ?_ kept
  cases launched with
  | refused interlude _ _ => exact (faithful.interlude interlude).post nofun
  | @accepted moment attempt started interlude _ _ carries =>
    have before := faithful.interlude interlude
    have added : ∀ other ∈ moment.attempts ++ [attempt], other ∈ moment.attempts ∨
        other = attempt := by simp
    refine { before with attempts := ?_, evaluated := ?_ }
    · intro other member
      rcases added other member with old | rfl
      · exact before.attempts other old
      · rw [carries.predicate, carries.request]
        exact kept
    · intro other member outcome rows passed
      rcases added other member with old | rfl
      · exact before.evaluated other old outcome rows passed
      · rw [carries.queued] at passed
        exact absurd passed nofun

theorem Faithful.handled (faithful : service.Faithful asked)
    (handled : service.Handled origin message after) : after.Faithful asked := by
  have taken : ∀ removed, (service.removeLive origin.id removed).Faithful asked :=
    fun removed => faithful.reduced (reduced_removeLive removed) rfl rfl
  cases handled with
  | dropped _ interlude => exact faithful.interlude interlude
  | @ended _ final _ moment marks _ _ _ _ interlude _ _ closing =>
    have before := (taken _).interlude interlude
    have retired : (moment.retire final marks).Faithful asked := { before with }
    exact retired.interlude closing
  | @relaunched request _ _ _ _ found _ _ interlude _ launched closing =>
    have owned := (owns_of_liveRequest? found).1
    have same : request.between.predicate = asked request.between.id :=
      faithful.live _ request owned
    exact (((taken _).interlude interlude).launched same launched).interlude closing

/-- What is asked for under an id that nothing has yet can be chosen. -/
theorem Faithful.countRequest (faithful : service.Faithful asked) (orderly : service.Orderly)
    (tracked : service.Tracked) (predicate : Predicate) :
    service.countRequest.Faithful
      (Function.update asked ⟨service.requestsMade + 1⟩ predicate) := by
  have old : ∀ wanted : RequestId, wanted.number ≤ service.requestsMade →
      Function.update asked ⟨service.requestsMade + 1⟩ predicate wanted = asked wanted := by
    intro wanted made
    apply Function.update_of_ne
    rintro rfl
    exact Nat.not_succ_le_self _ made
  have attempted : ∀ attempt ∈ service.attempts,
      attempt.request.number ≤ service.requestsMade := fun attempt member =>
    tracked.ticketsMade _ (mem_tickets.mpr (.inl ⟨attempt, member, rfl⟩))
  refine { faithful with live := ?_, attempts := ?_, evaluated := ?_, posted := ?_ }
  · intro id request owned
    rw [old _ (orderly.made id request owned)]
    exact faithful.live id request owned
  · intro attempt member
    rw [old _ (attempted attempt member)]
    exact faithful.attempts attempt member
  · intro attempt member
    rw [old _ (attempted attempt member)]
    exact faithful.evaluated attempt member
  · intro id completion rows held
    rw [old _ (tracked.ticketsMade _ (mem_tickets.mpr (.inr ⟨id, completion, held, rfl⟩)))]
    exact faithful.posted id completion rows held

/-- Every move keeps results faithful, if faults are. -/
theorem Faithful.moved (faithful : service.Faithful asked) (orderly : service.Orderly)
    (tracked : service.Tracked) {move : Move} (allowed : move.Truthful)
    (moved : service.Moved move after) : ∃ asked, after.Faithful asked := by
  cases moved with
  | interlude interlude => exact ⟨asked, faithful.interlude interlude⟩
  | interposed => exact ⟨asked, { faithful with truthful := allowed }⟩
  | woken _ => exact ⟨asked, faithful.reduced (reduced_wake _) rfl rfl⟩
  | advanced advanced => exact ⟨asked, faithful.advanced advanced⟩
  | processed found oldest handled =>
    have left := faithful.reduced (reduced_leaveMessages orderly.contexts found oldest) rfl rfl
    exact ⟨asked, left.handled handled⟩
  | @submitted id query _ _ _ _ interlude launched =>
    have counted := faithful.countRequest orderly tracked query.predicate
    have same : query.predicate = Function.update asked ⟨service.requestsMade + 1⟩ query.predicate
        ⟨service.requestsMade + 1⟩ := by rw [Function.update_self]
    exact ⟨_, { (counted.interlude interlude).launched same launched with }⟩
  | originAdded => exact ⟨asked, faithful.reduced (reduced_addOrigin _ _) rfl rfl⟩
  | @originDropped id _ interlude =>
    have left : (service.withoutOrigin id).Faithful asked :=
      faithful.reduced reduced_withoutOrigin rfl rfl
    exact ⟨asked, left.interlude interlude⟩

theorem faithful_of_reaches {schema : TableSchema}
    (run : (Service.new schema).Reaches (fun _ move => move.Truthful) service) :
    ∃ asked, service.Faithful asked := by
  induction run with
  | start => exact ⟨fun _ => .all, faithful_new schema _⟩
  | move move earlier allowed moved inductionHypothesis =>
    obtain ⟨asked, faithful⟩ := inductionHypothesis
    have orderly := orderly_of_reaches earlier
    exact faithful.moved orderly (tracked_of_reaches earlier) allowed
      (moved_of_after? orderly.ready moved)

/-- The oldest message of an origin is the result of a request it owns, and the success callback of
the request is called with a view at a moment. -/
structure Succeeds (service : Service) (owner : Origin) (completion : Completion)
    (request : Request) (outcome : Reconciliation) (view : View) (moment after : Service) :
    Prop where
  found : service.origin? owner.settings.id = some owner
  owned : service.Owns owner.settings.id request
  about : completion.request = request.id
  oldest : ∃ rest rows, owner.mailbox = .completed completion :: rest ∧
    completion.result = .ok rows ∧
    ((service.leaveMessages owner.settings.id rest).removeLive owner.settings.id
      request.id).Delivers owner.settings request rows outcome view moment
  called : after = ((moment.deliverSuccess owner.settings request.awaiting view).1.putBack
    owner.settings.id (moment.deliverSuccess owner.settings request.awaiting view).2).releaseAll
      completion.snapshot.toList

theorem handle_of_delivers {completion : Completion} {rows : RowSet} {outcome : Reconciliation}
    {view : View} (found : service.liveRequest? origin.id completion.request = some request)
    (accepted : service.Accepted origin completion request) (ready : request.Ready)
    (result : completion.result = .ok rows)
    (delivers : (service.removeLive origin.id request.id).Delivers origin request rows outcome
      view moment) :
    service.handle origin (.completed completion) =
      ((moment.deliverSuccess origin request.awaiting view).1.putBack origin.id
        (moment.deliverSuccess origin request.awaiting view).2).releaseAll
          completion.snapshot.toList := by
  obtain ⟨decided, reconciled, unset, rfl⟩ := delivers.reconciled
  have concluded : decided.conclude origin request.awaiting outcome =
      (decided.announced origin request outcome).deliverSuccess origin request.awaiting view := by
    cases outcome with
    | converged shown =>
      obtain rfl := Option.some.inj delivers.view
      rfl
    | rederived shown =>
      obtain rfl := Option.some.inj delivers.view
      rfl
    | retry _ _ => cases delivers.view
    | giveUp _ => cases delivers.view
  rw [handle_of_reconciled found accepted ready result reconciled unset, concluded]

theorem announced_store (outcome : Reconciliation) :
    (service.announced origin request outcome).store = service.store := by
  cases outcome <;> rfl

theorem Succeeds.current {completion : Completion} {outcome : Reconciliation} {view : View}
    (succeeds : service.Succeeds owner completion request outcome view moment after)
    (faithful : service.Faithful asked)
    (uncommitted : moment.store.currentVersion = service.store.currentVersion) :
    moment.store.Current owner.settings.config.reconcileMode request outcome view := by
  obtain ⟨rest, rows, oldest, result, delivers⟩ := succeeds.oldest
  have held : service.Holds owner.settings.id (.completed completion) :=
    holds_of_origin? succeeds.found oldest
  have computed := faithful.posted _ completion rows held result
  rw [succeeds.about, ← faithful.live _ request succeeds.owned] at computed
  have grown : service.store.Precedes moment.store := delivers.interlude.store
  have coherent := grown.coherent faithful.coherent
  have same : moment.store.authority.current = service.store.authority.current :=
    coherent.published.symm.trans (uncommitted.trans faithful.coherent.published)
  have agreed : service.store.Agreed moment.store owner.settings.config.reconcileMode rows outcome
      view := by
    obtain ⟨decided, reconciled, _, rfl⟩ := delivers.reconciled
    have agreed := agreed_of_reconcile reconciled delivers.view faithful.truthful
      faithful.coherent
    rw [announced_store]
    exact agreed
  exact agreed.current coherent (computed.precedes grown) same

/-- The success callback is called only with a result that is delivered. -/
theorem succeeds_of_called (orderly : service.Orderly) {move : Move}
    (moving : service.after? move = some after)
    (callbacks : after.callbacks = calls ++ service.callbacks) {label : String}
    {seen : ViewReport} (called : .succeeded label wanted seen ∈ calls) :
    ∃ owner completion request outcome view moment, move = .process owner.settings.id ∧
      request.id = wanted ∧ seen = (moment.inspect view).2 ∧
        service.Succeeds owner completion request outcome view moment after := by
  have new : after.callbacks ≠ service.callbacks := by
    intro same
    rw [List.self_eq_append_left.mp (same.symm.trans callbacks)] at called
    exact List.not_mem_nil called
  have moved := moved_of_after? orderly.ready moving
  obtain ⟨owner, message, rest, request, made, state, rfl, found, oldest, live, ending, added⟩ :=
    ending_of_called moved new
  have owned := owns_leaveMessages_iff.mp (owns_of_liveRequest? live).1
  have about := (owns_of_liveRequest? live).2
  obtain rfl : calls = made := List.append_cancel_right (callbacks.symm.trans added)
  cases ending with
  | failed _ _ => simp at called
  | cancelled => exact absurd called List.not_mem_nil
  | @converged completion rows outcome view moment posted accepted result delivers =>
    subst posted
    obtain ⟨rfl, rfl, rfl⟩ := Observation.succeeded.inj (List.mem_singleton.mp called)
    have handled := handle_of_delivers live accepted (orderly.ready _ request owned) result
      delivers
    have processed : service.after? (.process owner.settings.id) =
        some ((service.leaveMessages owner.settings.id rest).handle owner.settings
          (.completed completion)) := by
      simp only [after?, process?, found, oldest]
      rfl
    refine ⟨owner, completion, request, outcome, view, moment, rfl, rfl, rfl, found, owned,
      about.symm, ⟨rest, rows, oldest, result, delivers⟩, ?_⟩
    exact (Option.some.inj (moving.symm.trans processed)).trans handled

/-- The result of a message is reconciled at the version it was taken at if nothing comes
between. -/
theorem Succeeds.uncommitted {completion : Completion} {outcome : Reconciliation} {view : View}
    (succeeds : service.Succeeds owner completion request outcome view moment after)
    (alone : ∀ method, service.faults method = []) :
    moment.store.currentVersion = service.store.currentVersion := by
  obtain ⟨rest, rows, _, _, delivers⟩ := succeeds.oldest
  obtain ⟨decided, reconciled, _, rfl⟩ := delivers.reconciled
  let taken := (service.leaveMessages owner.settings.id rest).removeLive owner.settings.id
    request.id
  have takenAlone : ∀ method, taken.faults method = [] := alone
  have same := currentVersion_reconcile takenAlone owner.settings.config.reconcileMode rows
    request.policy request.attempts false
  rw [reconciled] at same
  rw [announced_store]
  exact same

/-- Delivered results are never stale.  The success callback is called with a view while the result
of its request is handled.  If nothing was committed since the message was taken, which is so unless
something comes between the calls of the store, the version of the view is the current one.  A
result that was not brought over, as in strict mode, then has the rows that are found again, in
order. -/
theorem delivered_current {schema : TableSchema}
    (run : (Service.new schema).Reaches (fun _ move => move.Truthful) service) {move : Move}
    (moved : service.after? move = some after)
    (callbacks : after.callbacks = calls ++ service.callbacks) {label : String}
    {seen : ViewReport} (called : .succeeded label wanted seen ∈ calls) :
    ∃ owner completion request outcome view moment, move = .process owner.settings.id ∧
      request.id = wanted ∧ seen = (moment.inspect view).2 ∧
      service.Succeeds owner completion request outcome view moment after ∧
      ((∀ method, service.faults method = []) →
        moment.store.currentVersion = service.store.currentVersion) ∧
      (moment.store.currentVersion = service.store.currentVersion →
        moment.store.Current owner.settings.config.reconcileMode request outcome view) := by
  obtain ⟨asked, faithful⟩ := faithful_of_reaches run
  obtain ⟨owner, completion, request, outcome, view, moment, process, about, shown, succeeds⟩ :=
    succeeds_of_called (orderly_of_reaches run) moved callbacks called
  exact ⟨owner, completion, request, outcome, view, moment, process, about, shown, succeeds,
    succeeds.uncommitted, succeeds.current faithful⟩

/-- The result of a query is overtaken by a write, and the query is evaluated again. -/
def overtakenQuery : List Move := [
  .act (.write (insertItem 5)),
  .addDispatcher "pool" 1 none,
  .addOrigin ⟨1⟩ .default,
  .submit ⟨1⟩ { allRows "overtaken" with policy := .indefinite },
  .advance ⟨1⟩, .advance ⟨1⟩, .advance ⟨1⟩, .advance ⟨1⟩, .advance ⟨1⟩, .advance ⟨1⟩,
  .act (.write (insertItem 7)),
  .process ⟨1⟩,
  .advance ⟨1⟩, .advance ⟨1⟩, .advance ⟨1⟩, .advance ⟨1⟩, .advance ⟨1⟩, .advance ⟨1⟩]

/-- A result that was overtaken by a write is delivered at the version of the write. -/
theorem delivered_current_of_overtaken :
    ∃ service after owner completion request outcome view moment,
      (Service.new itemsSchema).afterAll? overtakenQuery = some service ∧
      service.after? (.process ⟨1⟩) = some after ∧
      service.Succeeds owner completion request outcome view moment after ∧
      view.rows.version = 2 ∧
      moment.store.Current owner.settings.config.reconcileMode request outcome view := by
  have sample : ∃ service after seen,
      (Service.new itemsSchema).afterAll? overtakenQuery = some service ∧
      service.after? (.process ⟨1⟩) = some after ∧
      after.callbacks = [.succeeded "overtaken" ⟨1⟩ seen] ++ service.callbacks ∧
      service.store.currentVersion = 2 ∧ service.faults = fun _ => [] :=
    ⟨_, _, _, rfl, rfl, rfl, rfl, rfl⟩
  obtain ⟨service, after, seen, moved, moving, callbacks, version, alone⟩ := sample
  have allowed : ∀ move ∈ overtakenQuery, move.Truthful := by
    simp [overtakenQuery, Move.Truthful]
  have run : (Service.new itemsSchema).Reaches (fun _ move => move.Truthful) service :=
    reaches_of_afterAll? moved fun move member _ => allowed move member
  obtain ⟨owner, completion, request, outcome, view, moment, _, _, _, succeeds, uncommitted,
    current⟩ := delivered_current run moving callbacks List.mem_cons_self
  have same := uncommitted fun method => congrFun alone method
  exact ⟨service, after, owner, completion, request, outcome, view, moment, moved, moving, succeeds,
    ((current same).rows_version.trans same).trans version, current same⟩

end Service

end SnapshotQuery
