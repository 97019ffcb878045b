import SnapshotQuery.Proofs.Service.Provenance

/-!
# Errors that callers see

An error callback is called for a reason of its own query: the predicate is not
valid, the retries are spent, the hook panicked, the dispatcher is closed, or a
write has poisoned the lock.  No store call between two others fails it, also
when a commit and a collection come before the call.
-/

namespace SnapshotQuery

namespace Service

/-- Why a request fails. -/
inductive Justified (schema : TableSchema) (service : Service) (origin : OriginSettings)
    (request : Request) : QueryError → Prop
  | invalid {fault} (check : request.predicate.check schema = .error fault)
      (first : request.attempts = 1) :
      Justified schema service origin request
        (.store (.invalidPredicate (fault.reason schema.name)))
  | unreachable {snapshot current} (stale : snapshot ≠ current)
      (spent : request.policy.allows (request.attempts - 1) = false) :
      Justified schema service origin request
        (.unreachableVersion request.attempts snapshot current)
  | panicked {hook run text} (carried : request.hook = some hook)
      (own : run.request = request.id ∧ run.attempt = request.attempts)
      (ran : .hookRan request.label run ∈ service.observations) (panics : .panic text ∈ hook run) :
      Justified schema service origin request (.workerPanicked (text.getD "unknown panic"))
  | closed (shut : service.Shut origin.dispatcher) :
      Justified schema service origin request .dispatcherClosed
  | poisoned {store script message} (began : (Store.new schema).Descends store)
      (panicked : (store.write script).2.commit = .panicked message)
      (later : (store.write script).1.Descends service.store) :
      Justified schema service origin request (.store .lockPoisoned)

/-- The oldest message of an origin is handled, and one of its requests fails. -/
structure Fails (schema : TableSchema) (service : Service) (owner : Origin) (request : Request)
    (error : QueryError) (after : Service) : Prop where
  found : service.origin? owner.settings.id = some owner
  live : request ∈ owner.live
  handled : service.after? (.process owner.settings.id) = some after
  called : after.callbacks = .failed request.label request.id error :: service.callbacks
  justified : after.Justified schema owner.settings request error
  settled : after.Over request.id .failed request.attempts

variable {schema : TableSchema} {service before after moment : Service} {origin : OriginSettings}
  {owner : Origin} {request : Request} {message : Message} {rest : List Message}
  {error : QueryError} {label : String} {wanted : RequestId} {move : Move}

section Reasons

theorem justified_of_poisoned (began : (Store.new schema).Descends service.store)
    (poisoned : service.store.poisoned = true) :
    service.Justified schema origin request (.store .lockPoisoned) := by
  obtain ⟨store, script, message, earlier, panicked, later⟩ := began.exists_panicked rfl poisoned
  exact .poisoned earlier panicked later

/-- What an attempt fails for is a reason for its request to fail. -/
theorem Stems.justified {completion : Completion} {attempt : Attempt}
    (stems : service.Stems completion attempt) (began : (Store.new schema).Descends service.store)
    (suits : service.Suits origin.id request attempt) (same : request.id = completion.request)
    (current : completion.attempt = request.attempts)
    (dispatcher : attempt.dispatcher = origin.dispatcher)
    (answered : completion.result = .error error) :
    service.Justified schema origin request error := by
  have vouched := stems.vouched
  generalize completion.snapshot = snapshot at vouched
  rw [answered] at vouched
  obtain ⟨rfl⟩ : service.store.schema = schema := began.precedes.schema
  cases vouched with
  | failed warrants =>
      cases warrants with
      | @invalid fault check =>
          have first : request.attempts = 1 := by
            rcases stems.grounded.admissible with first | valid
            · exact current.symm.trans (stems.number.symm.trans first)
            · exact absurd (check.symm.trans valid) nofun
          exact .invalid (suits.predicate ▸ check) first
      | poisoned poisoned => exact justified_of_poisoned began poisoned
      | @panicked hook run text carried own ran panics =>
          refine .panicked (suits.hook hook carried) ?_ (suits.label ▸ ran) panics
          exact ⟨own.1.trans (stems.request.trans same.symm),
            own.2.trans (stems.number.trans current)⟩
      | closed shut => exact .closed (dispatcher ▸ shut)

theorem Justified.abides (justified : before.Justified schema origin request error)
    (abides : before.Abides after) : after.Justified schema origin request error := by
  cases justified with
  | invalid check first => exact .invalid check first
  | unreachable stale spent => exact .unreachable stale spent
  | panicked carried own ran panics =>
      exact .panicked carried own (abides.develops.observations ran) panics
  | closed shut => exact .closed (abides.shut _ shut)
  | poisoned began panicked later =>
      exact .poisoned began panicked (later.trans abides.develops.store)

end Reasons

section Calls

theorem callbacks_putBack (service : Service) (id : ContextId) (request : Request) :
    (service.putBack id request).callbacks = service.callbacks := by
  unfold putBack
  split <;> rfl

theorem callbacks_endCancelled (going : request.state.isTerminal = false) :
    (service.endCancelled origin request).1.callbacks = service.callbacks := by
  rw [endCancelled_eq going]
  rfl

theorem Launch.callbacks {result : Service × Request}
    (launch : service.Launch origin request result) :
    result.1.callbacks = service.callbacks := by
  cases launch with
  | accepted _ _ _ _ => rfl
  | refused _ => rfl

/-- Acting on a decision calls the error callback only with the error given up for. -/
theorem giveUp_of_called (ready : request.Ready) {outcome : Reconciliation}
    (called : .failed label wanted error ∈
      (service.conclude origin request.awaiting outcome).1.callbacks)
    (fresh : .failed label wanted error ∉ service.callbacks) :
    outcome = .giveUp error ∧ request.label = label ∧ request.id = wanted ∧
      (service.conclude origin request.awaiting outcome).2 = request.awaiting.endedAs .failed ∧
      Interlude [.failed request.label request.id error] service
        (service.conclude origin request.awaiting outcome).1 := by
  have going : request.awaiting.state.isTerminal = false := rfl
  have succeeded : ∀ moment view, Interlude [] service moment →
      .failed label wanted error ∉
        (moment.deliverSuccess origin request.awaiting view).1.callbacks := by
    intro moment view interlude among
    obtain ⟨_, delivered⟩ := moment.interlude_deliverSuccess origin ready.onSuccess view
    rw [delivered.callbacks, interlude.callbacks] at among
    rcases List.mem_append.mp among with new | old
    · exact absurd (List.mem_singleton.mp new) nofun
    · exact fresh old
  have failed : ∀ moment other, Interlude [] service moment →
      .failed label wanted error ∈
        (moment.deliverError origin request.awaiting other).1.callbacks →
      other = error ∧ request.label = label ∧ request.id = wanted ∧
        (moment.deliverError origin request.awaiting other).2 =
            request.awaiting.endedAs .failed ∧
        Interlude [.failed request.label request.id error] service
          (moment.deliverError origin request.awaiting other).1 := by
    intro moment other interlude among
    obtain ⟨final, delivered⟩ := moment.interlude_deliverError origin going ready.onError other
    rw [delivered.callbacks, interlude.callbacks] at among
    rcases List.mem_append.mp among with new | old
    · obtain ⟨rfl, rfl, rfl⟩ := Observation.failed.inj (List.mem_singleton.mp new)
      exact ⟨rfl, rfl, rfl, final, interlude.trans delivered⟩
    · exact absurd old fresh
  cases outcome with
  | converged view => exact absurd called (succeeded _ view (.refl service))
  | rederived view =>
      have announced : Interlude [] service
          (service.announced origin request (.rederived view)) := interlude_announced _
      exact absurd called (succeeded _ view announced)
  | retry snapshot current =>
      have launched : (service.conclude origin request.awaiting (.retry snapshot current)
          ).1.callbacks = service.callbacks := by
        simp only [conclude, Request.scheduleRetry_awaiting]
        refine (Launch.callbacks (launch_launchAttempt (.inr rfl))).trans ?_
        rfl
      exact absurd (launched ▸ called) fresh
  | giveUp other =>
      have reported : ∀ snapshot current, Interlude [] service
          (service.reportMismatch origin request.awaiting snapshot current) :=
        fun snapshot current => interlude_reportMismatch snapshot current
      cases other with
      | unreachableVersion attempts snapshot current =>
          obtain ⟨rfl, ended⟩ := failed _ _ (reported snapshot current) called
          exact ⟨rfl, ended⟩
      | store _ | handoverMismatch _ _ | contextMismatch _ _ | invalidTransition _ _ _
      | alreadyInFlight _ | dispatcherClosed | noRuntime _ | workerPanicked _ | config _ =>
          obtain ⟨rfl, ended⟩ := failed _ _ (.refl service) called
          exact ⟨rfl, ended⟩

end Calls

section Turns

/-- What is left to show of a failure that a turn of an origin comes to. -/
theorem fails_of_called {completion : Completion}
    (processed : service.Processed owner message rest after) (orderly : service.Orderly)
    (tracked : service.Tracked)
    (received : (service.leaveMessages owner.settings.id rest).Received owner.settings message
      completion request)
    (handled : service.after? (.process owner.settings.id) = some after)
    {held : Request} (same : held.id = request.id) (spent : held.attempts = request.attempts)
    (interlude : Interlude [.failed request.label request.id error]
      ((service.leaveMessages owner.settings.id rest).removeLive owner.settings.id request.id)
      moment)
    (ends : after = (moment.putBack owner.settings.id (held.endedAs .failed)).releaseAll
      message.snapshot?.toList)
    (justified : after.Justified schema owner.settings request error) :
    service.Fails schema owner request error after := by
  obtain ⟨rfl, live, ready, accepted⟩ := received
  obtain ⟨owned, about⟩ := owns_of_liveRequest? live
  have mine : request ∈ owner.live := by
    obtain ⟨other, among, id, held⟩ := owns_leaveMessages_iff.mp owned
    rwa [eq_of_origin? orderly.contexts processed.found among id] at held
  have free : request.id ∉ (service.leaveMessages owner.settings.id rest).tickets :=
    about ▸ tracked.free orderly.contexts processed.found processed.oldest
  let query : Query := ⟨held.label, held.predicate, held.policy, held.hook, ⟨none, fun _ => []⟩,
    fun _ => []⟩
  have tries : held.Tries query request.id request.attempts := ⟨same, rfl, rfl, rfl, rfl, spent⟩
  refine ⟨processed.found, mine, handled, ?_, justified, ?_⟩
  · rw [ends, (interlude_releaseAll _ _).callbacks, callbacks_putBack, interlude.callbacks]
    rfl
  · exact (over_called tries free (same.symm ▸ interlude) rfl ends).1

/-- An error that is posted has a reason. -/
theorem justified_posted {completion : Completion} (vouches : service.Vouches)
    (orderly : service.Orderly) (began : (Store.new schema).Descends service.store)
    (found : service.origin? owner.settings.id = some owner)
    (oldest : owner.mailbox = message :: rest)
    (received : (service.leaveMessages owner.settings.id rest).Received owner.settings message
      completion request)
    (answered : completion.result = .error error) :
    service.Justified schema owner.settings request error := by
  obtain ⟨rfl, live, _, accepted⟩ := received
  obtain ⟨owned, about⟩ := owns_of_liveRequest? live
  have owned := owns_leaveMessages_iff.mp owned
  obtain ⟨attempt, stems⟩ := vouches.posted _ completion (holds_of_origin? found oldest)
  have suits := stems.grounded.suits _ request owned (about.trans stems.request.symm)
  have dispatcher : attempt.dispatcher = owner.settings.dispatcher := by
    obtain ⟨settings, known, same, own⟩ := suits.dispatcher
    obtain ⟨other, among, rfl⟩ := List.mem_map.mp known
    rw [← own, eq_of_origin? orderly.contexts found among same]
  exact stems.justified began suits about accepted.current dispatcher answered

/-- An error that is given up for has a reason. -/
theorem justified_giveUp {completion : Completion} {rows : RowSet} {decided : Service}
    (vouches : service.Vouches) (orderly : service.Orderly) (provided : service.Provided)
    (began : (Store.new schema).Descends service.store)
    (found : service.origin? owner.settings.id = some owner)
    (oldest : owner.mailbox = .completed completion :: rest)
    (answered : completion.result = .ok rows)
    (reconciled : ((service.leaveMessages owner.settings.id rest).removeLive owner.settings.id
      request.id).Reconciled owner.settings request rows decided (.giveUp error) false)
    (later : decided.store.Descends after.store) :
    after.Justified schema owner.settings request error := by
  have resolved := vouches.resolved orderly.contexts provided.backs found oldest answered reconciled
  cases resolved with
  | unreachable stale spent => exact .unreachable stale spent
  | poisoned poisoned =>
      have between : service.store.Descends decided.store := reconciled.proceeds.store
      obtain ⟨store, script, panic, earlier, panicked, kept⟩ :=
        (began.trans between).exists_panicked rfl poisoned
      exact .poisoned earlier panicked (kept.trans later)

theorem Processed.fails (processed : service.Processed owner message rest after)
    (orderly : service.Orderly) (tracked : service.Tracked) (provided : service.Provided)
    (vouches : service.Vouches) (began : (Store.new schema).Descends service.store)
    (handled : service.after? (.process owner.settings.id) = some after)
    (called : .failed label wanted error ∈ after.callbacks)
    (fresh : .failed label wanted error ∉ service.callbacks) :
    ∃ request, request.label = label ∧ request.id = wanted ∧
      service.Fails schema owner request error after := by
  have abides := abides_of_after? orderly tracked provided handled
  have left : ∀ moment : Service, .failed label wanted error ∈
      (moment.releaseAll message.snapshot?.toList).callbacks →
        .failed label wanted error ∈ moment.callbacks :=
    fun moment among => by rwa [(interlude_releaseAll moment _).callbacks] at among
  have silent : ∀ moment : Service, moment.callbacks = service.callbacks →
      .failed label wanted error ∉ moment.callbacks := fun moment same among => fresh (same ▸ among)
  have settled := processed.settled
  cases settled with
  | dropped _ =>
      exact absurd (left _ called) (silent _ (interlude_dropStale _ _).callbacks)
  | cancelled found ready =>
      refine absurd (left _ called) (silent _ ?_)
      exact (callbacks_putBack _ _ _).trans (callbacks_endCancelled ready.going)
  | @overtaken completion request rows decided outcome received answered reconciled =>
      have going : request.awaiting.state.isTerminal = false := rfl
      refine absurd (left _ called) (silent _ ?_)
      exact (callbacks_putBack _ _ _).trans ((interlude_releaseAll _ _).callbacks.trans
        ((callbacks_endCancelled going).trans reconciled.interlude.callbacks))
  | @failed completion request other received answered =>
      obtain ⟨final, delivered⟩ := interlude_deliverError
        ((service.leaveMessages owner.settings.id rest).removeLive owner.settings.id request.id)
        owner.settings received.ready.going received.ready.onError other
      have among := left _ called
      rw [callbacks_putBack, delivered.callbacks] at among
      rcases List.mem_append.mp among with new | old
      · obtain ⟨rfl, rfl, rfl⟩ := Observation.failed.inj (List.mem_singleton.mp new)
        have justified := justified_posted vouches orderly began processed.found processed.oldest
          received answered
        exact ⟨request, rfl, rfl, fails_of_called processed orderly tracked received handled rfl rfl
          delivered rfl (justified.abides abides)⟩
      · exact absurd old fresh
  | @concluded completion request rows decided outcome received answered reconciled =>
      have among := left _ called
      rw [callbacks_putBack] at among
      obtain ⟨rfl, rfl, rfl, final, delivered⟩ :=
        giveUp_of_called received.ready among (silent decided reconciled.interlude.callbacks)
      obtain ⟨rfl, _, _, _⟩ := id received
      have concluded :=
        (decided.attends_conclude owner.settings request (.giveUp error)).develops.store
      have held : request.awaiting.id = request.id := rfl
      refine ⟨request, rfl, rfl, fails_of_called processed orderly tracked received handled held rfl
        (reconciled.interlude.trans delivered) ?_
        (justified_giveUp vouches orderly provided began processed.found processed.oldest answered
          reconciled (concluded.trans
            ((proceeds_putBack _ _ _).then (proceeds_releaseAll _ _)).store))⟩
      rw [final]

end Turns

section Runs

/-- An error callback is called only while a message is handled, for a request that fails. -/
theorem exists_fails_of_called (orderly : service.Orderly) (tracked : service.Tracked)
    (provided : service.Provided) (vouches : service.Vouches)
    (began : (Store.new schema).Descends service.store)
    (moved : service.after? move = some after)
    (called : .failed label wanted error ∈ after.callbacks)
    (fresh : .failed label wanted error ∉ service.callbacks) :
    ∃ owner request, request.label = label ∧ request.id = wanted ∧
      service.Fails schema owner request error after := by
  have changed : after.callbacks ≠ service.callbacks := fun same => fresh (same ▸ called)
  obtain ⟨owner, _, _, _, _, _, rfl, _⟩ :=
    ending_of_called (moved_of_after? orderly.ready moved) changed
  obtain ⟨other, message, rest, same, processed⟩ := exists_processed orderly moved
  have handled : service.after? (.process other.settings.id) = some after := same.symm ▸ moved
  exact ⟨other, processed.fails orderly tracked provided vouches began handled called fresh⟩

/-- Only genuine failures reach a caller.  Hooks, workers, writes and collections may come between
any two store calls; still no result of a running attempt is thrown away as superseded, and every
error callback was called once, with an error there is a reason for, by an origin that handled the
last attempt of the request. -/
theorem only_genuine_failures
    (run : (Service.new schema).Reaches (fun _ move => move.Transparent) service) :
    (∀ request origin,
      .staleMessageDropped request origin .supersededAttempt ∉ service.trail) ∧
    ∀ label wanted error, .failed label wanted error ∈ service.observations →
      ∃ moment owner request after,
        (Service.new schema).Reaches (fun _ move => move.Transparent) moment ∧
        moment.Fails schema owner request error after ∧
        after.Reaches (fun _ move => move.Transparent) service ∧
        request.label = label ∧ request.id = wanted ∧
        service.Over wanted .failed request.attempts := by
  constructor
  · intro request origin dropped
    rcases (Reaches.develops .start run).trail _ dropped with never | plain
    · exact absurd never nofun
    · exact absurd plain nofun
  · intro label wanted error noticed
    induction run with
    | start => exact absurd noticed nofun
    | @move service after move earlier honest moved inductionHypothesis =>
        have orderly := orderly_of_reaches earlier
        have tracked := tracked_of_reaches earlier
        have called : .failed label wanted error ∈ after.callbacks :=
          List.mem_filter.mpr ⟨noticed, rfl⟩
        by_cases old : .failed label wanted error ∈ service.callbacks
        · obtain ⟨moment, owner, request, failing, reached, fails, later, named, same, settled⟩ :=
            inductionHypothesis (List.mem_filter.mp old).1
          exact ⟨moment, owner, request, failing, reached, fails, .move move later honest moved,
            named, same, settled.moved orderly (moved_of_after? orderly.ready moved)⟩
        · obtain ⟨owner, request, rfl, rfl, fails⟩ := exists_fails_of_called orderly tracked
            (provided_of_reaches earlier) (vouches_of_reaches earlier)
            (Reaches.develops .start earlier).store moved called old
          exact ⟨service, owner, request, after, earlier, fails, .start, rfl, rfl, fails.settled⟩

/-- Before the version is asked for, there is a commit and a collection. -/
def lateCommit : Method → List Fault
  | .currentVersion => [⟨[.write (insertItem 7), .collect], none, none, none⟩]
  | _ => []

theorem transparent_lateCommit : ∀ method, ∀ fault ∈ lateCommit method, fault.Transparent := by
  intro method fault waits
  cases method with
  | currentVersion =>
      obtain rfl := List.mem_singleton.mp waits
      exact ⟨by simp [Calm, Action.isPanic], rfl, rfl, rfl⟩
  | openSnapshot | evaluate | importRows | readRow => exact absurd waits List.not_mem_nil

/-- A query is evaluated, and its result is overtaken while it is reconciled. -/
def lateQuery : List Move := [
  .act (.write (insertItem 5)),
  .addDispatcher "pool" 1 none,
  .addOrigin ⟨1⟩ .default,
  .submit ⟨1⟩ (allRows "late"),
  .advance ⟨1⟩, .advance ⟨1⟩, .advance ⟨1⟩, .advance ⟨1⟩, .advance ⟨1⟩, .advance ⟨1⟩,
  .interpose lateCommit,
  .process ⟨1⟩]

/-- A query that is not retried fails for its stale version, and for nothing the commit and the
collection did to its snapshot. -/
theorem only_genuine_failures_of_late :
    ∃ (service moment : Service) (owner : Origin) (request : Request) (after : Service),
      (Service.new itemsSchema).afterAll? lateQuery = some service ∧
      moment.Fails itemsSchema owner request (.unreachableVersion 1 1 2) after ∧
      request.label = "late" ∧ request.id = ⟨1⟩ ∧ service.Over ⟨1⟩ .failed request.attempts := by
  have sample : ∃ service, (Service.new itemsSchema).afterAll? lateQuery = some service ∧
      service.callbacks = [.failed "late" ⟨1⟩ (.unreachableVersion 1 1 2)] := ⟨_, rfl, rfl⟩
  obtain ⟨service, moved, callbacks⟩ := sample
  have honest : ∀ move ∈ lateQuery, move.Transparent := by
    simpa [lateQuery, Move.Transparent] using transparent_lateCommit
  have run : (Service.new itemsSchema).Reaches (fun _ move => move.Transparent) service :=
    reaches_of_afterAll? moved fun move member _ => honest move member
  have called : .failed "late" ⟨1⟩ (.unreachableVersion 1 1 2) ∈ service.callbacks :=
    callbacks ▸ List.mem_cons_self
  obtain ⟨moment, owner, request, after, _, fails, _, label, same, settled⟩ :=
    (only_genuine_failures run).2 _ _ _ (List.mem_filter.mp called).1
  exact ⟨service, moment, owner, request, after, moved, fails, label, same, settled⟩

end Runs

end Service

end SnapshotQuery
