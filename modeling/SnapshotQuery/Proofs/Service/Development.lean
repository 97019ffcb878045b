import SnapshotQuery.Proofs.Service.Bystanders
import SnapshotQuery.Proofs.Service.Course

/-!
# The development of a service

Every move only uses the store, and none throws away the result of a running
attempt.  Handling a message counts what its way through the origin says.
-/

namespace SnapshotQuery

/-- The move is neither a step of a worker nor a turn of an origin, and no query, dispatcher or
fault comes with it. -/
def Move.isMinor : Move → Bool
  | advance _ | process _ | submit _ _ | addDispatcher _ _ _ | interpose _ => false
  | act _ | wake _ | addOrigin _ _ | dropOrigin _ | openSnapshot _ _ | copySnapshot _ _
  | dropSnapshot _ | dropView _ => true

namespace Service

variable {service after : Service} {origin : OriginSettings} {owner : Origin} {request : Request}
  {message : Message} {rest : List Message} {id : ContextId} {move : Move}

/-- What is counted when a decision is acted on. -/
def concludeCounts (service : Service) (origin : OriginSettings) (request : Request) :
    Reconciliation → List (RegistryId × Counter)
  | .converged _ => [(origin.registry, .converged)]
  | .rederived _ =>
      [(origin.registry, .versionMismatches), (origin.registry, .rederived),
        (origin.registry, .converged)]
  | .retry _ _ =>
      [(origin.registry, .versionMismatches), (origin.registry, .retries)] ++
        service.launchCounts origin request
  | .giveUp error =>
      if error.isUnreachableVersion then
        [(origin.registry, .versionMismatches), (origin.registry, .failed)]
      else [(origin.registry, .failed)]

theorem proceeds_retry (service : Service) (origin : OriginSettings) (request : Request)
    (snapshot current : VersionStamp) :
    Proceeds (service.concludeCounts origin request (.retry snapshot current)) service
      (service.conclude origin request.awaiting (.retry snapshot current)).1 := by
  have counted : Proceeds [(origin.registry, .versionMismatches), (origin.registry, .retries)]
      service ((service.reportMismatch origin request.awaiting snapshot current).count
        origin.registry .retries) :=
    (service.proceeds_reportMismatch origin request.awaiting snapshot current).trans
      (proceeds_count _ _ _)
  have reported := counted.then
    (proceeds_report _ (.retrying request.between.id (request.between.attempts + 1)) rfl)
  simp only [conclude, Request.scheduleRetry_awaiting]
  generalize moved : Service.report _ _ = moment at reported ⊢
  have launch : moment.Launch origin request.between
      (moment.launchAttempt origin request.between) := launch_launchAttempt (.inr rfl)
  have pools : moment.launchCounts origin request.between =
      service.launchCounts origin request := moved ▸ rfl
  exact reported.trans (pools ▸ launch.proceeds)

theorem attends_conclude (service : Service) (origin : OriginSettings) (request : Request)
    (outcome : Reconciliation) :
    Attends request.id (service.concludeCounts origin request outcome) service
      (service.conclude origin request.awaiting outcome).1 := by
  have going : request.awaiting.state.isTerminal = false := rfl
  cases outcome with
  | converged view => exact service.attends_deliverSuccess origin request view
  | rederived view =>
      have counted : Proceeds [(origin.registry, .versionMismatches), (origin.registry, .rederived)]
          service (service.announced origin request (.rederived view)) :=
        ((service.proceeds_count _ _).trans (proceeds_count _ _ _)).then (proceeds_report _ _ rfl)
      exact counted.attends (attends_deliverSuccess _ origin request view)
  | retry snapshot current =>
      exact ⟨_, service.proceeds_retry origin request snapshot current, fun _ => rfl⟩
  | giveUp error =>
      have mismatch : ∀ snapshot current, Proceeds [(origin.registry, .versionMismatches)] service
          (service.reportMismatch origin request.awaiting snapshot current) :=
        fun snapshot current => service.proceeds_reportMismatch origin request.awaiting _ _
      cases error with
      | unreachableVersion attempts snapshot current =>
          exact (mismatch snapshot current).attends (attends_deliverError _ origin going _)
      | store _ | handoverMismatch _ _ | contextMismatch _ _ | invalidTransition _ _ _
      | alreadyInFlight _ | dispatcherClosed | noRuntime _ | workerPanicked _ | config _ =>
          exact service.attends_deliverError origin going _

/-- The rows of a request are reconciled after it was taken in hand. -/
theorem Reconciled.proceeds {taken decided : Service} {rows : RowSet} {outcome : Reconciliation}
    {set : Bool} (reconciled : taken.Reconciled origin request rows decided outcome set) :
    Proceeds [] taken decided := by
  have proceeds := Proceeds.kept.reconcile taken origin.config.reconcileMode rows request.policy
    request.attempts false
  rw [reconciled.reconciled] at proceeds
  exact proceeds

/-- A message that is no result of another attempt is handled without a loss. -/
theorem Settled.proceeds (settled : service.Settled origin message after)
    (current : ∀ completion request, message = .completed completion →
      service.liveRequest? origin.id message.request = some request →
        completion.attempt = request.attempts) :
    ∃ counts, Proceeds counts service after := by
  have taken : ∀ request : Request, Proceeds [] service
      (service.removeLive origin.id request.id) :=
    fun request => service.proceeds_updateOrigin _ _
  cases settled with
  | @dropped reason superseded =>
      have plain : reason ≠ .supersededAttempt := by
        intro same
        obtain ⟨completion, request, posted, found, older⟩ := superseded same
        exact older (current completion request posted found)
      exact ⟨_, (service.proceeds_dropStale origin _ plain).then (proceeds_releaseAll _ _)⟩
  | @cancelled request found ready =>
      exact ⟨_, (((taken request).trans (proceeds_endCancelled _ origin ready.going)).then
        (proceeds_putBack _ _ _)).then (proceeds_releaseAll _ _)⟩
  | @overtaken completion request rows decided outcome received result reconciled =>
      have going : request.awaiting.state.isTerminal = false := rfl
      have ended := ((taken request).then reconciled.proceeds).trans
        (decided.proceeds_endCancelled origin going)
      exact ⟨_, ((ended.then (proceeds_releaseAll _ _)).then (proceeds_putBack _ _ _)).then
        (proceeds_releaseAll _ _)⟩
  | @failed completion request error received result =>
      obtain ⟨counted, delivered, _⟩ := attends_deliverError
        (service.removeLive origin.id request.id) origin received.ready.going error
      exact ⟨_, (((taken request).trans delivered).then (proceeds_putBack _ _ _)).then
        (proceeds_releaseAll _ _)⟩
  | @concluded completion request rows decided outcome received result reconciled =>
      obtain ⟨counted, concluded, _⟩ := decided.attends_conclude origin request outcome
      exact ⟨_, ((((taken request).then reconciled.proceeds).trans concluded).then
        (proceeds_putBack _ _ _)).then (proceeds_releaseAll _ _)⟩

/-- The oldest message of an origin is taken out and handled. -/
structure Processed (service : Service) (owner : Origin) (message : Message)
    (rest : List Message) (after : Service) : Prop where
  found : service.origin? owner.settings.id = some owner
  oldest : owner.mailbox = message :: rest
  settled : (service.leaveMessages owner.settings.id rest).Settled owner.settings message after

theorem exists_processed (orderly : service.Orderly)
    (processed : service.process? id = some after) :
    ∃ owner message rest, owner.settings.id = id ∧
      service.Processed owner message rest after := by
  unfold process? at processed
  cases found : service.origin? id with
  | none =>
      rw [found] at processed
      exact absurd processed nofun
  | some owner =>
      obtain rfl := origin?_id found
      cases oldest : owner.mailbox with
      | nil =>
          simp only [found, oldest] at processed
          exact absurd processed nofun
      | cons message rest =>
          simp only [found, oldest] at processed
          obtain rfl := Option.some.inj processed
          refine ⟨owner, message, rest, rfl, found, oldest, settled_handle fun request live => ?_⟩
          exact orderly.ready _ request (owns_leaveMessages_iff.mp (owns_of_liveRequest? live).1)

/-- The result that is handled is that of the running attempt. -/
theorem Processed.current (processed : service.Processed owner message rest after)
    (tracked : service.Tracked) {completion : Completion}
    (posted : message = .completed completion)
    (live : (service.leaveMessages owner.settings.id rest).liveRequest? owner.settings.id
      message.request = some request) : completion.attempt = request.attempts := by
  subst posted
  obtain ⟨owned, about⟩ := owns_of_liveRequest? live
  exact (tracked.results _ completion (holds_of_origin? processed.found processed.oldest) _ request
    (owns_leaveMessages_iff.mp owned) about).2

theorem Processed.proceeds (processed : service.Processed owner message rest after)
    (tracked : service.Tracked) : ∃ counts, Proceeds counts service after := by
  obtain ⟨counts, handled⟩ := processed.settled.proceeds fun completion request posted live =>
    processed.current tracked posted live
  exact ⟨_, (service.proceeds_updateOrigin _ _).trans handled⟩

/-- A query is submitted and its first attempt launched. -/
theorem submit_eq (service : Service) (owner : OriginSettings) (query : Query) :
    ∃ result, (service.countRequest.count owner.registry .submitted
        |>.report (.submitted ⟨service.requestsMade + 1⟩ owner.id query.policy)).Launch owner
          (query.request ⟨service.requestsMade + 1⟩ owner.id) result ∧
      (service.submit owner query).1 = (result.1.insertLive owner.id result.2).keepHandle
        query.label ⟨⟨service.requestsMade + 1⟩, owner.id⟩ := by
  refine ⟨_, launch_launchAttempt (.inl rfl), ?_⟩
  rw [← (launch_launchAttempt (.inl rfl)).putBack]
  rfl

theorem proceeds_submit (service : Service) (owner : OriginSettings) (query : Query) :
    Proceeds ((owner.registry, .submitted) ::
        service.launchCounts owner (query.request ⟨service.requestsMade + 1⟩ owner.id))
      service (service.submit owner query).1 := by
  obtain ⟨result, launch, submitted⟩ := service.submit_eq owner query
  have counted : Proceeds [(owner.registry, .submitted)] service
      (service.countRequest.count owner.registry .submitted) :=
    (proceeds_of_proceedings rfl .start : Proceeds [] service service.countRequest).trans
      (proceeds_count _ _ _)
  have reported := counted.then
    (proceeds_report _ (.submitted ⟨service.requestsMade + 1⟩ owner.id query.policy) rfl)
  have kept : Proceeds [] result.1 (service.submit owner query).1 :=
    submitted ▸ proceeds_of_proceedings rfl .start
  exact (reported.trans launch.proceeds).then kept

section Moves

theorem develops_dropAttempt (service : Service) (request : RequestId) :
    service.Develops (service.dropAttempt request) :=
  develops_of_same .start rfl rfl

theorem develops_skipOutcome (service : Service) (attempt : Attempt) (outcome : Outcome) :
    service.Develops (service.skipOutcome attempt outcome) := by
  have freed : service.Develops (if outcome.evaluated then
      (service.report (.attemptSkipped attempt.request attempt.number .afterEvaluation)).freeWorker
        attempt
    else service) := by
    split
    · exact (service.proceeds_report
        (.attemptSkipped attempt.request attempt.number .afterEvaluation) rfl).toDevelops.trans
          (develops_of_same .start rfl rfl)
    · exact .refl service
  exact (freed.trans (proceeds_releaseAll _ _).toDevelops).trans (develops_dropAttempt _ _)

theorem develops_postOutcome (service : Service) (attempt : Attempt) (outcome : Outcome) :
    service.Develops (service.postOutcome attempt outcome) := by
  have freed : service.Develops
      (if outcome.evaluated then service.freeWorker attempt else service) := by
    split <;> exact develops_of_same .start rfl rfl
  simp only [postOutcome]
  generalize (if outcome.evaluated then service.freeWorker attempt else service) = moment at freed ⊢
  refine Develops.trans ?_ (develops_dropAttempt _ _)
  cases moment.origin? attempt.origin with
  | some owner => exact freed.trans (develops_of_same .start rfl rfl)
  | none =>
      have reported := moment.proceeds_report (.originGone attempt.request attempt.origin) rfl
      exact freed.trans (reported.then (proceeds_releaseAll _ _)).toDevelops

theorem develops_advance (service : Service) (request : RequestId) :
    service.Develops (service.advance request) := by
  have reported : ∀ event : Event, event.isSuperseded = false → service.Develops
      (service.report event) := fun event plain => (service.proceeds_report event plain).toDevelops
  unfold advance
  cases service.attempts.find? fun attempt => attempt.request = request with
  | none => exact .refl service
  | some attempt =>
      simp only [advanceAttempt]
      cases attempt.phase with
      | queued =>
          simp only [giveWorker]
          split
          · exact .refl service
          · split
            · exact develops_of_same .start rfl rfl
            · split <;> exact develops_of_same .start rfl rfl
      | admitted => exact develops_of_same .start rfl rfl
      | cleared =>
          exact (Proceeds.kept.evaluateAttempt service attempt).toDevelops.trans
            (develops_of_same .start rfl rfl)
      | abandoned =>
          have skipped := reported
            (.attemptSkipped attempt.request attempt.number .beforeEvaluation) rfl
          exact skipped.trans (develops_of_same .start rfl rfl)
      | finished outcome => exact develops_of_same .start rfl rfl
      | released outcome =>
          simp only
          split
          · exact service.develops_skipOutcome attempt outcome
          · split
            · exact (reported (.attemptCompleted attempt.request attempt.number outcome.result)
                rfl).trans (develops_of_same .start rfl rfl)
            · exact develops_of_same .start rfl rfl
      | checked outcome => exact service.develops_postOutcome attempt outcome

theorem proceeds_keepSnapshot (service : Service) (name : String) (snapshot : Snapshot) :
    Proceeds [] service (service.keepSnapshot name snapshot) :=
  (proceeds_of_proceedings rfl .start : Proceeds [] service
    { service with snapshots := service.snapshots.insert name snapshot }).then
      (proceeds_releaseAll _ _)

/-- A minor move counts nothing, and workers and faults are not affected by it. -/
theorem proceeds_of_minor (minor : move.isMinor = true) (moved : service.after? move = some after) :
    Proceeds [] service after := by
  have dropped : ∀ moment : Service, Proceeds [] service moment → ∀ snapshots,
      Proceeds [] service (moment.releaseAll snapshots) :=
    fun moment kept snapshots => kept.then (moment.proceeds_releaseAll snapshots)
  cases move with
  | act action => exact Option.some.inj moved ▸ service.proceeds_act action
  | wake handle =>
      simp only [after?] at moved
      split at moved
      · exact Option.some.inj moved ▸ proceeds_of_proceedings rfl .start
      · cases moved
  | addOrigin dispatcher config =>
      obtain ⟨pool, _, rfl⟩ := Option.map_eq_some_iff.mp moved
      exact proceeds_of_proceedings rfl .start
  | dropOrigin origin =>
      exact Option.some.inj moved ▸ dropped (service.withoutOrigin origin)
        (proceeds_of_proceedings rfl .start) _
  | openSnapshot name version =>
      have opened := service.proceeds_openSnapshot version
      simp only [after?] at moved
      generalize service.openSnapshot version = result at opened moved
      obtain ⟨moment, snapshot⟩ := result
      cases snapshot with
      | error refusal => exact Option.some.inj moved ▸ opened
      | ok snapshot =>
          exact Option.some.inj moved ▸ opened.then (moment.proceeds_keepSnapshot name snapshot)
  | copySnapshot source name =>
      obtain ⟨snapshot, _, rfl⟩ := Option.map_eq_some_iff.mp moved
      have shared : Proceeds [] service { service with
          store := { service.store with
            retention := service.store.retention.share snapshot } } :=
        proceeds_of_proceedings rfl (Store.Descends.start.held _)
      exact shared.then (proceeds_keepSnapshot _ name snapshot)
  | dropSnapshot name =>
      exact Option.some.inj moved ▸ dropped
        { service with snapshots := service.snapshots.erase name }
        (proceeds_of_proceedings rfl .start) _
  | dropView name =>
      exact Option.some.inj moved ▸ dropped { service with views := service.views.erase name }
        (proceeds_of_proceedings rfl .start) _
  | advance _ | process _ | submit _ _ | addDispatcher _ _ _ | interpose _ =>
      exact absurd minor Bool.false_ne_true

/-- Every move develops the service. -/
theorem develops_of_after? (orderly : service.Orderly) (tracked : service.Tracked)
    (moved : service.after? move = some after) : service.Develops after := by
  cases move with
  | advance request => exact Option.some.inj moved ▸ service.develops_advance request
  | process origin =>
      obtain ⟨owner, message, rest, _, processed⟩ := exists_processed orderly moved
      exact (processed.proceeds tracked).elim fun counts proceeds => proceeds.toDevelops
  | submit origin query =>
      obtain ⟨owner, _, rfl⟩ := Option.map_eq_some_iff.mp moved
      exact (service.proceeds_submit owner.settings query).toDevelops
  | addDispatcher name workers shared =>
      exact Option.some.inj moved ▸ develops_of_same .start rfl rfl
  | interpose faults => exact Option.some.inj moved ▸ develops_of_same .start rfl rfl
  | _ => exact (proceeds_of_minor rfl moved).toDevelops

/-- A run develops the service it starts from. -/
theorem Reaches.develops {permitted : Service → Move → Prop} {schema : TableSchema}
    {first last : Service} (run : (Service.new schema).Reaches permitted first)
    (later : first.Reaches permitted last) : first.Develops last := by
  induction later with
  | start => exact .refl first
  | move move earlier _ moved inductionHypothesis =>
      have reached := run.trans earlier
      exact inductionHypothesis.trans
        (develops_of_after? (orderly_of_reaches reached) (tracked_of_reaches reached) moved)

end Moves

end Service

end SnapshotQuery
