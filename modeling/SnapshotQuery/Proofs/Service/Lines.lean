import SnapshotQuery.Proofs.Service.Development

/-!
# The lines of origins

An origin reports what becomes of its requests.  Whatever else happens in a
service adds no line of an origin, and no request comes to be mentioned with an
origin it does not belong to.
-/

namespace SnapshotQuery

/-- The request that an origin reports about. -/
def Event.subject? : Event → Option RequestId
  | submitted request _ _ | attemptDispatched request _ _ | versionMismatch request _ _ _
  | rederived request _ _ | retrying request _ | converged request _ _ _ | failed request _ _
  | cancelled request _ | staleMessageDropped request _ _ => some request
  | configLoaded _ _ | storeCommit _ _ _ | snapshotOpened _ | garbageCollected _
  | attemptSkipped _ _ _ | attemptCompleted _ _ _ | workerPanicked _ _ _ | originGone _ _
  | simulationWriteFailed _ _ => none

/-- The line about the end of a request, which is missing if a callback panicked. -/
def closingLine (panicked : Bool) (event : Event) : List Event :=
  if panicked then [] else [event]

@[simp] theorem mem_closingLine {panicked : Bool} {event other : Event} :
    other ∈ closingLine panicked event ↔ panicked = false ∧ other = event := by
  cases panicked <;> simp [closingLine]

namespace Service

/-- What origins reported, latest first. -/
def told (service : Service) : List Event :=
  service.trail.filter fun event => event.subject?.isSome

/-- What its origin reported about a request, in order. -/
def linesOf (service : Service) (id : RequestId) : List Event :=
  (service.trail.filter fun event => event.subject? = some id).reverse

/-- Wherever a request occurs, the origin it occurs with is known. -/
structure Knows (known : Handle → Prop) (service : Service) : Prop where
  owned : ∀ id request, service.Owns id request → known ⟨request.id, id⟩
  running : ∀ attempt ∈ service.attempts, known ⟨attempt.request, attempt.origin⟩
  posted : ∀ id message, service.Holds id message → known ⟨message.request, id⟩
  named : ∀ name handle, service.handles.find? name = some handle → known handle
  waking : ∀ handle ∈ service.wakeUps, known handle

/-- Origins report the lines meanwhile, and requests occur only with origins that are known. -/
structure Tells (known : Handle → Prop) (lines : List Event) (before after : Service) : Prop where
  told : after.told = lines.reverse ++ before.told
  knows : before.Knows known → after.Knows known

/-- Where requests occur. -/
def places (service : Service) :=
  (service.attempts, service.origins, service.handles, service.wakeUps)

variable {known : Handle → Prop} {lines : List Event} {service before after : Service}
  {origin : OriginSettings} {request : Request} {id : ContextId} {handle : Handle}
  {message : Message}

theorem linesOf_eq (service : Service) (id : RequestId) : service.linesOf id =
    (service.told.filter fun event => event.subject? = some id).reverse := by
  rw [linesOf, told, List.filter_filter]
  congr 1
  apply List.filter_congr
  intro event _
  cases event.subject? <;> simp

/-- Of the lines that are added those about the request come after its earlier ones. -/
theorem Tells.linesOf (tells : Tells known lines before after) (id : RequestId) :
    after.linesOf id =
      before.linesOf id ++ lines.filter fun event => event.subject? = some id := by
  rw [linesOf_eq, linesOf_eq, tells.told, List.filter_append, List.reverse_append,
    List.filter_reverse, List.reverse_reverse]

theorem tells_of_places (told : after.told = lines.reverse ++ before.told)
    (same : after.places = before.places) : Tells known lines before after := by
  simp only [places, Prod.mk.injEq] at same
  obtain ⟨attempts, origins, handles, wakeUps⟩ := same
  refine ⟨told, fun knows => ⟨?_, ?_, ?_, ?_, ?_⟩⟩
  · simp only [Owns, origins]
    exact knows.owned
  · exact attempts ▸ knows.running
  · simp only [Holds, origins]
    exact knows.posted
  · exact handles ▸ knows.named
  · exact wakeUps ▸ knows.waking

theorem Tells.refl (service : Service) : Tells known [] service service :=
  ⟨rfl, id⟩

theorem Tells.trans {more : List Event} {first middle last : Service}
    (earlier : Tells known lines first middle) (later : Tells known more middle last) :
    Tells known (lines ++ more) first last where
  told := by rw [later.told, earlier.told, List.reverse_append, List.append_assoc]
  knows := later.knows ∘ earlier.knows

/-- Nothing is told after the lines. -/
theorem Tells.then {first middle last : Service} (earlier : Tells known lines first middle)
    (later : Tells known [] middle last) : Tells known lines first last :=
  lines.append_nil ▸ earlier.trans later

section Places

theorem Knows.mono {wider : Handle → Prop} (knows : service.Knows known)
    (weaker : ∀ handle, known handle → wider handle) : service.Knows wider where
  owned id request owned := weaker _ (knows.owned id request owned)
  running attempt member := weaker _ (knows.running attempt member)
  posted id message held := weaker _ (knows.posted id message held)
  named name handle found := weaker _ (knows.named name handle found)
  waking handle pending := weaker _ (knows.waking handle pending)

theorem tells_removeLive (removed : RequestId) :
    Tells known [] service (service.removeLive id removed) :=
  ⟨rfl, fun knows => { knows with
    owned := fun id request owned => knows.owned id request (owns_removeLive_iff.mp owned).1
    posted := fun id message held => knows.posted id message (holds_removeLive_iff.mp held) }⟩

theorem tells_leaveMessages {owner : Origin} {rest : List Message}
    (contexts : service.contextIds.Nodup) (found : service.origin? id = some owner)
    (oldest : owner.mailbox = message :: rest) :
    Tells known [] service (service.leaveMessages id rest) :=
  ⟨rfl, fun knows => { knows with
    owned := fun id request owned => knows.owned id request (owns_leaveMessages_iff.mp owned)
    posted := fun id message held =>
      knows.posted id message (holds_of_leaveMessages contexts found oldest held) }⟩

theorem tells_withoutOrigin : Tells known [] service (service.withoutOrigin id) :=
  ⟨rfl, fun knows => { knows with
    owned := fun id request owned => knows.owned id request (owns_withoutOrigin_iff.mp owned).1
    posted := fun id message held =>
      knows.posted id message (holds_withoutOrigin_iff.mp held).1 }⟩

theorem tells_addOrigin (pool : Dispatcher) (config : Config) :
    Tells known [] service (service.addOrigin pool config).1 :=
  ⟨rfl, fun knows => { knows with
    owned := fun id request owned => knows.owned id request (owns_addOrigin_iff.mp owned)
    posted := fun id message held => knows.posted id message (holds_addOrigin_iff.mp held) }⟩

theorem Knows.post (knows : service.Knows known) (own : known ⟨message.request, id⟩) :
    (service.post id message).Knows known :=
  { knows with
    owned := fun id request owned => knows.owned id request (owns_post_iff.mp owned)
    posted := by
      intro other held posted
      rcases holds_of_post posted with old | ⟨rfl, rfl⟩
      · exact knows.posted other held old
      · exact own }

theorem tells_putBack (own : known ⟨request.id, id⟩) :
    Tells known [] service (service.putBack id request) := by
  unfold putBack
  split
  · exact tells_of_places rfl rfl
  · refine ⟨rfl, fun knows => { knows with owned := ?_, posted := ?_ }⟩
    · intro other held owned
      rcases owns_insertLive owned with old | ⟨rfl, rfl⟩
      · exact knows.owned other held old
      · exact own
    · exact fun other held posted => knows.posted other held (holds_insertLive_iff.mp posted)

theorem Knows.addAttempt (knows : service.Knows known) {attempt : Attempt}
    (own : known ⟨attempt.request, attempt.origin⟩) :
    ({ service with attempts := service.attempts ++ [attempt] } : Service).Knows known :=
  { knows with
    running := by
      intro other member
      rcases List.mem_append.mp member with old | new
      · exact knows.running other old
      · exact List.mem_singleton.mp new ▸ own }

theorem tells_setPhase (request : RequestId) (phase : Phase) :
    Tells known [] service (service.setPhase request phase) := by
  refine ⟨rfl, fun knows => { knows with running := ?_ }⟩
  intro attempt member
  obtain ⟨before, among, rfl⟩ := List.mem_map.mp member
  split <;> exact knows.running before among

theorem tells_dropAttempt (request : RequestId) :
    Tells known [] service (service.dropAttempt request) :=
  ⟨rfl, fun knows => { knows with
    running := fun attempt member => knows.running attempt (List.mem_filter.mp member).1 }⟩

theorem tells_releaseAll (service : Service) (snapshots : List Snapshot) :
    Tells known [] service (service.releaseAll snapshots) := by
  induction snapshots generalizing service with
  | nil => exact .refl service
  | cons snapshot rest inductionHypothesis =>
      have released : Tells known [] service (service.release snapshot) :=
        tells_of_places rfl rfl
      exact released.then (inductionHypothesis _)

end Places

section Actions

theorem Knows.setToken (knows : service.Knows known) (own : known handle) :
    (service.setToken handle).1.Knows known := by
  unfold Service.setToken
  split
  · exact knows
  · refine { knows with waking := ?_ }
    intro other pending
    rcases List.mem_append.mp pending with old | new
    · exact knows.waking other old
    · exact List.mem_singleton.mp new ▸ own

theorem Knows.wake (knows : service.Knows known) (own : known handle) :
    (service.wake handle).Knows known := by
  have fewer : ({ service with wakeUps := service.wakeUps.erase handle } : Service).Knows known :=
    { knows with waking := fun other pending => knows.waking other (List.mem_of_mem_erase pending) }
  exact fewer.post own

theorem told_setToken (service : Service) (handle : Handle) :
    (service.setToken handle).1.told = service.told := by
  unfold setToken
  split <;> rfl

theorem tells_cancelNamed (service : Service) (query : String) :
    Tells known [] service (service.cancelNamed query).1 := by
  unfold cancelNamed
  cases found : service.handles.find? query with
  | none => exact .refl service
  | some handle =>
      have told := service.told_setToken handle
      have marked := fun knows : service.Knows known =>
        knows.setToken (knows.named query handle found)
      simp only [cancel]
      generalize service.setToken handle = result at told marked
      obtain ⟨moment, first⟩ := result
      cases first with
      | false => exact ⟨told, marked⟩
      | true =>
          exact ⟨told, fun knows => (marked knows).wake (knows.named query handle found)⟩

theorem tells_setTokenNamed (service : Service) (query : String) :
    Tells known [] service (service.setTokenNamed query) := by
  unfold setTokenNamed
  cases found : service.handles.find? query with
  | none => exact .refl service
  | some handle =>
      exact ⟨service.told_setToken handle,
        fun knows => knows.setToken (knows.named query handle found)⟩

theorem tells_write (service : Service) (script : Script) :
    Tells known [] service (service.write script).1 := by
  unfold write
  generalize service.store.write script = written
  obtain ⟨store, answers, commit⟩ := written
  cases commit <;> exact tells_of_places rfl rfl

theorem tells_act (service : Service) (action : Action) :
    Tells known [] service (service.act action).1 := by
  have observed : ∀ {moment : Service}, Tells known [] service moment → ∀ observation,
      Tells known [] service (moment.observe observation) :=
    fun acted _ => acted.then (tells_of_places rfl rfl)
  cases action with
  | write script => exact observed (service.tells_write script) _
  | reportedWrite script attempt =>
      have written : Tells known [] service (service.write script).1 := service.tells_write script
      simp only [act]
      generalize service.write script = result at written
      obtain ⟨moment, answers, commit⟩ := result
      cases commit with
      | failed error => exact written.then (tells_of_places rfl rfl)
      | committed _ _ | unchanged _ | panicked _ => exact written
  | collect =>
      simp only [act, collect]
      cases service.store.collect <;> exact tells_of_places rfl rfl
  | cancel query => exact observed (service.tells_cancelNamed query) _
  | setToken query => exact service.tells_setTokenNamed query
  | close dispatcher =>
      have closed : Tells known [] service (service.closeNamed dispatcher) := by
        unfold closeNamed
        split <;> exact tells_of_places rfl rfl
      exact observed closed _
  | panic message => exact .refl service

theorem tells_openSnapshot (service : Service) (version : Option VersionStamp) :
    Tells known [] service (service.openSnapshot version).1 := by
  unfold openSnapshot
  cases service.store.openSnapshot version <;> exact tells_of_places rfl rfl

/-- No origin reports anything while others act and calls are made. -/
theorem Tells.kept : KeptByCalls (Tells known []) where
  refl := .refl
  trans earlier later := earlier.then later
  act := tells_act
  hookRan _ _ _ := tells_of_places rfl rfl
  taken _ := tells_of_places rfl rfl
  opened := tells_openSnapshot
  released _ _ := tells_of_places rfl rfl
  panicked _ _ _ := tells_of_places rfl rfl

end Actions

section Deliveries

variable (service : Service) (origin : OriginSettings) {request : Request}

/-- A callback of the request may be called, and the line follows unless it panics. -/
structure Closes (known : Handle → Prop) (id : RequestId) (event : Event) (panicked : Bool)
    (before after : Service) : Prop where
  tells : Tells known (closingLine panicked event) before after
  marked : panicked = true → ¬ after.Composed id

/-- What goes before says nothing. -/
theorem closes_recordEnd {service moment : Service} (called : Tells known [] service moment)
    (origin : OriginSettings) (request : Request) (counter : Counter) {event : Event}
    (own : event.subject? = some request.id) (panic : Option String) :
    Closes known request.id event panic.isSome service
      (moment.recordEnd origin request counter event panic) := by
  cases panic with
  | none =>
      have reported : Tells known [event] moment
          (moment.recordEnd origin request counter event none) :=
        tells_of_places (by simp [told, recordEnd, count, report, own]) rfl
      exact ⟨called.trans reported, fun panicked => absurd panicked Bool.false_ne_true⟩
  | some message =>
      exact ⟨called.then (tells_of_places rfl rfl),
        fun _ composed => composed message List.mem_cons_self⟩

theorem closes_deliverError (going : request.state.isTerminal = false) (error : QueryError) :
    ∃ panicked, Closes known request.id (.failed request.id request.attempts error) panicked
      service (service.deliverError origin request error).1 := by
  cases given : request.onError with
  | none =>
      simp only [deliverError, Request.fail_eq going, given]
      exact ⟨_, closes_recordEnd (.refl service) origin (request.endedAs .failed) .failed rfl none⟩
  | some callback =>
      rw [deliverError_eq going given]
      have observed : Tells known [] service
          (service.observe (.failed request.label request.id error)) := tells_of_places rfl rfl
      exact ⟨_, closes_recordEnd (observed.then (Tells.kept.actAll _ _)) origin
        (request.endedAs .failed) .failed rfl _⟩

theorem tells_callSuccess (request : Request) (callback : SuccessCallback) (view : View) :
    Tells known [] service (service.callSuccess request callback view).1 := by
  have inspected : Tells known [] service (service.inspect view).1 :=
    Tells.kept.inspect service view
  simp only [callSuccess]
  generalize service.inspect view = result at inspected
  obtain ⟨moment, seen⟩ := result
  have called : Tells known [] service
      (moment.observe (.succeeded request.label request.id seen)) :=
    inspected.then (tells_of_places rfl rfl)
  cases callback.keep with
  | some name =>
      have kept : ∀ moment : Service, Tells known [] moment (moment.keepView name view) := by
        intro moment
        have inserted : Tells known [] moment
            { moment with views := moment.views.insert name view } := tells_of_places rfl rfl
        exact inserted.then (tells_releaseAll _ _)
      exact (called.then (kept _)).then (Tells.kept.actAll _ _)
  | none => exact (called.then (Tells.kept.actAll _ _)).then (tells_of_places rfl rfl)

theorem closes_deliverSuccess (request : Request) (view : View) :
    ∃ panicked, Closes known request.id
      (.converged request.id request.attempts view.rows.size view.rows.version) panicked service
      (service.deliverSuccess origin request.awaiting view).1 := by
  cases given : request.onSuccess with
  | none =>
      simp only [deliverSuccess, Request.converge_awaiting, given]
      have released : Tells known [] service (service.release view.snapshot) :=
        tells_of_places rfl rfl
      exact ⟨_, closes_recordEnd released origin (request.endedAs .converged) .converged rfl none⟩
  | some callback =>
      rw [deliverSuccess_eq given]
      exact ⟨_, closes_recordEnd (service.tells_callSuccess _ callback view) origin
        (request.endedAs .converged) .converged rfl _⟩

theorem tells_endCancelled (going : request.state.isTerminal = false) :
    Tells known [.cancelled request.id request.attempts] service
      (service.endCancelled origin request).1 := by
  rw [endCancelled_eq going]
  exact tells_of_places rfl rfl

theorem tells_reportMismatch (request : Request) (snapshot current : VersionStamp) :
    Tells known [.versionMismatch request.id request.attempts snapshot current] service
      (service.reportMismatch origin request snapshot current) :=
  tells_of_places rfl rfl

theorem tells_dropStale (id : RequestId) (reason : StaleReason) :
    Tells known [.staleMessageDropped id origin.id reason] service
      (service.dropStale origin id reason) :=
  tells_of_places rfl rfl

variable {service origin}

theorem Launch.tells {result : Service × Request} (launch : service.Launch origin request result)
    (own : known ⟨request.id, origin.id⟩) : ∃ hook,
      Tells known [.attemptDispatched request.id (request.attempts + 1) hook] service result.1 := by
  have announced : ∀ hook : Option Hook,
      Tells known [.attemptDispatched request.id (request.attempts + 1) hook.isSome] service
        (service.announceAttempt request hook) := fun _ => tells_of_places rfl rfl
  cases launch with
  | @accepted pool hook _ _ _ _ _ =>
      have counted : Tells known [] (service.announceAttempt request hook)
          (((service.announceAttempt request hook).updateDispatcher pool.id fun pool =>
            { pool with inFlight := request.id :: pool.inFlight }).count pool.registry .attempts) :=
        tells_of_places rfl rfl
      have joined := (announced hook).then counted
      exact ⟨hook.isSome, joined.told, fun knows => (joined.knows knows).addAttempt own⟩
  | @refused hook _ _ _ =>
      exact ⟨hook.isSome, (announced hook).told,
        fun knows => ((announced hook).knows knows).post own⟩

end Deliveries

section Workers

theorem tells_giveWorker (service : Service) (attempt : Attempt) :
    Tells known [] service (service.giveWorker attempt) := by
  unfold giveWorker
  split
  · exact .refl service
  · split
    · exact tells_setPhase _ _
    · split
      · exact .refl service
      · rename_i pool _ _ _
        have taken : Tells known [] service (service.updateDispatcher pool.id fun pool =>
            { pool with idle := pool.idle - 1 }) := tells_of_places rfl rfl
        exact taken.then (tells_setPhase _ _)

theorem tells_skipOutcome (service : Service) (attempt : Attempt) (outcome : Outcome) :
    Tells known [] service (service.skipOutcome attempt outcome) := by
  have freed : Tells known [] service (if outcome.evaluated then
      (service.report (.attemptSkipped attempt.request attempt.number .afterEvaluation)).freeWorker
        attempt
    else service) := by
    split <;> exact tells_of_places rfl rfl
  exact (freed.then (tells_releaseAll _ _)).then (tells_dropAttempt _)

theorem tells_postOutcome {attempt : Attempt} (member : attempt ∈ service.attempts)
    (outcome : Outcome) : Tells known [] service (service.postOutcome attempt outcome) := by
  have freed : Tells known [] service
      (if outcome.evaluated then service.freeWorker attempt else service) := by
    split <;> exact tells_of_places rfl rfl
  simp only [postOutcome]
  generalize (if outcome.evaluated then service.freeWorker attempt else service) = moment at freed ⊢
  refine Tells.then ?_ (tells_dropAttempt _)
  cases moment.origin? attempt.origin with
  | some owner =>
      exact ⟨freed.told, fun knows => (freed.knows knows).post (knows.running attempt member)⟩
  | none =>
      have reported : Tells known [] moment
          (moment.report (.originGone attempt.request attempt.origin)) := tells_of_places rfl rfl
      exact freed.then (reported.then (tells_releaseAll _ _))

theorem tells_advance (service : Service) (request : RequestId) :
    Tells known [] service (service.advance request) := by
  unfold advance
  cases found : service.attempts.find? fun attempt => attempt.request = request with
  | none => exact .refl service
  | some attempt =>
      simp only [advanceAttempt]
      cases attempt.phase with
      | queued => exact service.tells_giveWorker attempt
      | admitted => exact tells_setPhase _ _
      | cleared => exact (Tells.kept.evaluateAttempt service attempt).then (tells_setPhase _ _)
      | abandoned =>
          have skipped : Tells known [] service (((service.leaveFlight attempt).report
              (.attemptSkipped attempt.request attempt.number .beforeEvaluation)).freeWorker
                attempt) := tells_of_places rfl rfl
          exact skipped.then (tells_dropAttempt _)
      | finished outcome =>
          have left : Tells known [] service (service.leaveFlight attempt) :=
            tells_of_places rfl rfl
          exact left.then (tells_setPhase _ _)
      | released outcome =>
          simp only
          split
          · exact service.tells_skipOutcome attempt outcome
          · refine Tells.then ?_ (tells_setPhase _ _)
            split <;> exact tells_of_places rfl rfl
      | checked outcome => exact tells_postOutcome (List.mem_of_find?_eq_some found) outcome

end Workers

section Moves

/-- No origin reports anything unless a query is submitted or a message is handled. -/
theorem tells_of_after? {move : Move} (processing : ∀ id, move ≠ .process id)
    (submitting : ∀ id query, move ≠ .submit id query) (moved : service.after? move = some after) :
    Tells known [] service after := by
  have kept : ∀ (moment : Service) name snapshot,
      Tells known [] moment (moment.keepSnapshot name snapshot) := by
    intro moment name snapshot
    have inserted : Tells known [] moment
        { moment with snapshots := moment.snapshots.insert name snapshot } :=
      tells_of_places rfl rfl
    exact inserted.then (tells_releaseAll _ _)
  cases move with
  | act action => exact Option.some.inj moved ▸ service.tells_act action
  | wake handle =>
      simp only [after?] at moved
      split at moved
      · rename_i pending
        exact Option.some.inj moved ▸ ⟨rfl, fun knows => knows.wake (knows.waking handle pending)⟩
      · cases moved
  | advance request => exact Option.some.inj moved ▸ service.tells_advance request
  | process id => exact absurd rfl (processing id)
  | submit id query => exact absurd rfl (submitting id query)
  | addDispatcher name workers shared => exact Option.some.inj moved ▸ tells_of_places rfl rfl
  | addOrigin dispatcher config =>
      obtain ⟨pool, _, rfl⟩ := Option.map_eq_some_iff.mp moved
      exact tells_addOrigin pool config
  | dropOrigin id =>
      have dropped : Tells known [] service (service.withoutOrigin id) := tells_withoutOrigin
      exact Option.some.inj moved ▸ dropped.then (tells_releaseAll _ _)
  | openSnapshot name version =>
      have opened : Tells known [] service (service.openSnapshot version).1 :=
        service.tells_openSnapshot version
      simp only [after?] at moved
      generalize service.openSnapshot version = result at opened moved
      obtain ⟨moment, snapshot⟩ := result
      cases snapshot with
      | error refusal => exact Option.some.inj moved ▸ opened
      | ok snapshot => exact Option.some.inj moved ▸ opened.then (kept moment name snapshot)
  | copySnapshot source name =>
      obtain ⟨snapshot, _, rfl⟩ := Option.map_eq_some_iff.mp moved
      have shared : Tells known [] service { service with
          store := { service.store with
            retention := service.store.retention.share snapshot } } := tells_of_places rfl rfl
      exact shared.then (kept _ name snapshot)
  | dropSnapshot name =>
      have erased : Tells known [] service
          { service with snapshots := service.snapshots.erase name } := tells_of_places rfl rfl
      exact Option.some.inj moved ▸ erased.then (tells_releaseAll _ _)
  | dropView name =>
      have erased : Tells known [] service
          { service with views := service.views.erase name } := tells_of_places rfl rfl
      exact Option.some.inj moved ▸ erased.then (tells_releaseAll _ _)
  | interpose faults => exact Option.some.inj moved ▸ tells_of_places rfl rfl

end Moves

end Service

end SnapshotQuery
