import SnapshotQuery.Proofs.Service.Provenance

/-!
# Reports of attempts

Attempts are reported when they are dispatched, skipped or completed, and hooks
run on workers.  Nothing else that happens in a service adds a report of an
attempt or a run of a hook.
-/

namespace SnapshotQuery

/-- The request whose attempt is dispatched, skipped or completed. -/
def Event.attempted? : Event → Option RequestId
  | attemptDispatched request _ _ | attemptSkipped request _ _ | attemptCompleted request _ _ =>
      some request
  | configLoaded _ _ | storeCommit _ _ _ | snapshotOpened _ | garbageCollected _
  | submitted _ _ _ | versionMismatch _ _ _ _ | rederived _ _ _ | retrying _ _
  | converged _ _ _ _ | failed _ _ _ | cancelled _ _ | staleMessageDropped _ _ _
  | workerPanicked _ _ _ | originGone _ _ | simulationWriteFailed _ _ => none

/-- The run of a hook of the request. -/
def Observation.hookRun? (wanted : RequestId) : Observation → Option HookRun
  | hookRan _ run => if run.request = wanted then some run else none
  | acted _ | succeeded _ _ _ | failed _ _ _ | panicked _ _ => none

namespace Service

/-- What an attempt finds if it is evaluated now. -/
def evaluation (service : Service) (attempt : Attempt) : Except CallFailure RowSet :=
  match service.reachSnapshot none with
  | (_, .error failure) => .error failure
  | (opened, .ok snapshot) => (opened.reachRows snapshot attempt.predicate).2

end Service

/-- The run of the hook after an evaluation. -/
def Attempt.hookRun? (attempt : Attempt) : Except CallFailure RowSet → Option HookRun
  | .ok rows => attempt.hook.map fun _ => ⟨attempt.request, attempt.number, rows.version⟩
  | .error _ => none

/-- What the next step of a worker reports of an attempt. -/
def Attempt.reports (attempt : Attempt) (cancelled : Bool) : List Event :=
  match attempt.phase with
  | .abandoned => [.attemptSkipped attempt.request attempt.number .beforeEvaluation]
  | .released outcome =>
      if outcome.evaluated then
        [if cancelled then .attemptSkipped attempt.request attempt.number .afterEvaluation
          else .attemptCompleted attempt.request attempt.number outcome.result]
      else []
  | .queued | .admitted | .cleared | .finished _ | .checked _ => []

/-- The runs of the hook in the next step of a worker. -/
def Attempt.hookRuns (attempt : Attempt) (service : Service) : List HookRun :=
  match attempt.phase with
  | .cleared => (attempt.hookRun? (service.evaluation attempt)).toList
  | .queued | .admitted | .abandoned | .finished _ | .released _ | .checked _ => []

namespace Service

/-- What was reported of the attempts of a request, in order. -/
def reportsOf (service : Service) (wanted : RequestId) : List Event :=
  (service.trail.filter fun event => event.attempted? = some wanted).reverse

/-- The runs of hooks of a request, in order. -/
def hookRunsOf (service : Service) (wanted : RequestId) : List HookRun :=
  (service.observations.filterMap (Observation.hookRun? wanted)).reverse

/-- No attempt of the request is reported, and no hook of it runs. -/
structure Silent (wanted : RequestId) (before after : Service) : Prop where
  reportsOf : after.reportsOf wanted = before.reportsOf wanted
  hookRunsOf : after.hookRunsOf wanted = before.hookRunsOf wanted

/-- These are reported of the attempts of the request, and its hook runs so. -/
structure Notes (wanted : RequestId) (events : List Event) (runs : List HookRun)
    (before after : Service) : Prop where
  reportsOf : after.reportsOf wanted = before.reportsOf wanted ++ events
  hookRunsOf : after.hookRunsOf wanted = before.hookRunsOf wanted ++ runs

variable {wanted : RequestId} {service before after : Service} {origin : OriginSettings}
  {request : Request} {attempt : Attempt} {id : ContextId} {events : List Event}
  {runs : List HookRun}

theorem silent_of_log (trail : after.trail = before.trail)
    (observations : after.observations = before.observations) : Silent wanted before after :=
  ⟨by rw [Service.reportsOf, trail, Service.reportsOf],
    by rw [Service.hookRunsOf, observations, Service.hookRunsOf]⟩

theorem Silent.refl (service : Service) : Silent wanted service service :=
  ⟨rfl, rfl⟩

theorem Silent.trans {first middle last : Service} (earlier : Silent wanted first middle)
    (later : Silent wanted middle last) : Silent wanted first last :=
  ⟨later.reportsOf.trans earlier.reportsOf, later.hookRunsOf.trans earlier.hookRunsOf⟩

theorem reportsOf_report (service : Service) (event : Event) :
    (service.report event).reportsOf wanted =
      service.reportsOf wanted ++ if event.attempted? = some wanted then [event] else [] := by
  simp only [reportsOf, report, List.filter_cons, decide_eq_true_eq]
  split
  · exact List.reverse_cons
  · exact (List.append_nil _).symm

theorem hookRunsOf_observe (service : Service) (observation : Observation) :
    (service.observe observation).hookRunsOf wanted =
      service.hookRunsOf wanted ++ (observation.hookRun? wanted).toList := by
  simp only [hookRunsOf, observe, List.filterMap_cons]
  cases observation.hookRun? wanted <;> simp

theorem Silent.notes (silent : Silent wanted before after) : Notes wanted [] [] before after :=
  ⟨by rw [silent.reportsOf, List.append_nil], by rw [silent.hookRunsOf, List.append_nil]⟩

theorem Notes.silent (notes : Notes wanted [] [] before after) : Silent wanted before after :=
  ⟨by rw [notes.reportsOf, List.append_nil], by rw [notes.hookRunsOf, List.append_nil]⟩

theorem Notes.then {last : Service} (notes : Notes wanted events runs before after)
    (silent : Silent wanted after last) : Notes wanted events runs before last :=
  ⟨silent.reportsOf.trans notes.reportsOf, silent.hookRunsOf.trans notes.hookRunsOf⟩

theorem Silent.then {first : Service} (silent : Silent wanted first before)
    (notes : Notes wanted events runs before after) : Notes wanted events runs first after :=
  ⟨by rw [notes.reportsOf, silent.reportsOf], by rw [notes.hookRunsOf, silent.hookRunsOf]⟩

theorem notes_report (service : Service) {event : Event} {attempted : RequestId}
    (about : event.attempted? = some attempted) :
    Notes wanted (if attempted = wanted then [event] else []) [] service
      (service.report event) := by
  refine ⟨?_, (List.append_nil _).symm⟩
  rw [reportsOf_report, about]
  simp only [Option.some_inj]

theorem silent_report (service : Service) {event : Event} (other : event.attempted? = none) :
    Silent wanted service (service.report event) := by
  refine ⟨?_, rfl⟩
  rw [reportsOf_report, other, if_neg (Option.some_ne_none wanted).symm, List.append_nil]

theorem silent_observe (service : Service) {observation : Observation}
    (other : observation.hookRun? wanted = none) :
    Silent wanted service (service.observe observation) := by
  refine ⟨rfl, ?_⟩
  rw [hookRunsOf_observe, other, Option.toList_none, List.append_nil]

theorem silent_releaseAll (service : Service) (snapshots : List Snapshot) :
    Silent wanted service (service.releaseAll snapshots) := by
  induction snapshots generalizing service with
  | nil => exact .refl service
  | cons snapshot rest inductionHypothesis =>
      have released : Silent wanted service (service.release snapshot) := silent_of_log rfl rfl
      exact released.trans (inductionHypothesis _)

theorem silent_keepSnapshot (service : Service) (name : String) (snapshot : Snapshot) :
    Silent wanted service (service.keepSnapshot name snapshot) := by
  have inserted : Silent wanted service
      { service with snapshots := service.snapshots.insert name snapshot } := silent_of_log rfl rfl
  exact inserted.trans (silent_releaseAll _ _)

section Actions

theorem silent_write (service : Service) (script : Script) :
    Silent wanted service (service.write script).1 := by
  unfold write
  generalize service.store.write script = written
  obtain ⟨store, answers, commit⟩ := written
  have stored : Silent wanted service { service with store } := silent_of_log rfl rfl
  cases commit with
  | committed version changes => exact stored.trans (silent_report _ rfl)
  | unchanged _ | failed _ | panicked _ => exact stored

theorem silent_collect (service : Service) : Silent wanted service service.collect.1 := by
  unfold collect
  cases service.store.collect with
  | error refusal => exact .refl service
  | ok result =>
      have stored : Silent wanted service { service with store := result.1 } :=
        silent_of_log rfl rfl
      exact stored.trans (silent_report _ rfl)

theorem silent_openSnapshot (service : Service) (version : Option VersionStamp) :
    Silent wanted service (service.openSnapshot version).1 := by
  unfold openSnapshot
  cases service.store.openSnapshot version with
  | error refusal => exact .refl service
  | ok result =>
      have stored : Silent wanted service { service with store := result.2 } :=
        silent_of_log rfl rfl
      exact stored.trans (silent_report _ rfl)

theorem silent_cancelNamed (service : Service) (query : String) :
    Silent wanted service (service.cancelNamed query).1 := by
  unfold cancelNamed
  cases service.handles.find? query with
  | none => exact .refl service
  | some handle =>
      simp only [cancel, setToken]
      by_cases set : service.isCancelled handle.request
      · simp only [if_pos set]
        exact .refl service
      · simp only [if_neg set]
        exact silent_of_log rfl rfl

theorem silent_setTokenNamed (service : Service) (query : String) :
    Silent wanted service (service.setTokenNamed query) := by
  unfold setTokenNamed
  cases service.handles.find? query with
  | none => exact .refl service
  | some handle =>
      simp only [setToken]
      split <;> exact silent_of_log rfl rfl

theorem silent_act (service : Service) (action : Action) :
    Silent wanted service (service.act action).1 := by
  cases action with
  | write script => exact (service.silent_write script).trans (silent_observe _ rfl)
  | reportedWrite script attempt =>
      have written : Silent wanted service (service.write script).1 := service.silent_write script
      simp only [act]
      generalize service.write script = result at written
      obtain ⟨moment, answers, commit⟩ := result
      cases commit with
      | failed error => exact written.trans (silent_report _ rfl)
      | committed _ _ | unchanged _ | panicked _ => exact written
  | collect => exact service.silent_collect.trans (silent_observe _ rfl)
  | cancel query => exact (service.silent_cancelNamed query).trans (silent_observe _ rfl)
  | setToken query => exact service.silent_setTokenNamed query
  | close dispatcher =>
      have closed : Silent wanted service (service.closeNamed dispatcher) := by
        unfold closeNamed
        split <;> exact silent_of_log rfl rfl
      exact closed.trans (silent_observe _ rfl)
  | panic message => exact .refl service

/-- Others who act before a call report no attempt and run no hook. -/
theorem Silent.kept : KeptByOrigins (Silent wanted) where
  refl := .refl
  trans := .trans
  act := silent_act
  taken _ := silent_of_log rfl rfl
  opened := silent_openSnapshot

end Actions

section Origins

theorem silent_recordEnd (service : Service) (origin : OriginSettings) (request : Request)
    (counter : Counter) {event : Event} (silent : event.attempted? = none) (panic : Option String) :
    Silent wanted service (service.recordEnd origin request counter event panic) := by
  cases panic with
  | none =>
      have counted : Silent wanted service (service.count origin.registry counter) :=
        silent_of_log rfl rfl
      exact counted.trans (silent_report _ silent)
  | some message => exact silent_observe _ rfl

theorem silent_deliverError (service : Service) (origin : OriginSettings) (request : Request)
    (error : QueryError) :
    Silent wanted service (service.deliverError origin request error).1 := by
  unfold deliverError
  cases request.fail with
  | error _ => exact .refl service
  | ok result =>
      obtain ⟨final, callback⟩ := result
      refine Silent.trans ?_ (silent_recordEnd _ _ _ _ rfl _)
      cases callback with
      | none => exact .refl service
      | some callback =>
          have observed : Silent wanted service
              (service.observe (.failed final.label final.id error)) := silent_observe _ rfl
          exact observed.trans (Silent.kept.actAll _ _)

theorem silent_callSuccess (service : Service) (request : Request) (callback : SuccessCallback)
    (view : View) : Silent wanted service (service.callSuccess request callback view).1 := by
  have inspected : Silent wanted service (service.inspect view).1 :=
    Silent.kept.inspect service view
  simp only [callSuccess]
  generalize service.inspect view = result at inspected
  obtain ⟨moment, seen⟩ := result
  have called : Silent wanted service
      (moment.observe (.succeeded request.label request.id seen)) :=
    inspected.trans (silent_observe _ rfl)
  cases callback.keep with
  | some name =>
      have kept : ∀ moment : Service, Silent wanted moment (moment.keepView name view) := by
        intro moment
        have inserted : Silent wanted moment
            { moment with views := moment.views.insert name view } := silent_of_log rfl rfl
        exact inserted.trans (silent_releaseAll _ _)
      exact (called.trans (kept _)).trans (Silent.kept.actAll _ _)
  | none => exact (called.trans (Silent.kept.actAll _ _)).trans (silent_of_log rfl rfl)

theorem silent_deliverSuccess (service : Service) (origin : OriginSettings) (request : Request)
    (view : View) : Silent wanted service (service.deliverSuccess origin request view).1 := by
  have released : Silent wanted service (service.release view.snapshot) := silent_of_log rfl rfl
  unfold deliverSuccess
  cases request.converge with
  | error error => exact released.trans (silent_deliverError _ _ _ _)
  | ok result =>
      obtain ⟨final, callback⟩ := result
      refine Silent.trans ?_ (silent_recordEnd _ _ _ _ rfl _)
      cases callback with
      | none => exact released
      | some callback => exact service.silent_callSuccess final callback view

theorem silent_endCancelled (service : Service) (origin : OriginSettings) (request : Request) :
    Silent wanted service (service.endCancelled origin request).1 := by
  unfold endCancelled
  cases request.cancel with
  | error _ => exact .refl service
  | ok final =>
      have marked : Silent wanted service (({ service with
          cancelled := service.cancelled.insert final.id } : Service).count origin.registry
            .cancelled) := silent_of_log rfl rfl
      exact marked.trans (silent_report _ rfl)

theorem silent_dropStale (service : Service) (origin : OriginSettings) (id : RequestId)
    (reason : StaleReason) : Silent wanted service (service.dropStale origin id reason) := by
  have counted : Silent wanted service (service.count origin.registry .droppedMessages) :=
    silent_of_log rfl rfl
  exact counted.trans (silent_report _ rfl)

theorem silent_reportMismatch (service : Service) (origin : OriginSettings) (request : Request)
    (snapshot current : VersionStamp) :
    Silent wanted service (service.reportMismatch origin request snapshot current) := by
  have counted : Silent wanted service (service.count origin.registry .versionMismatches) :=
    silent_of_log rfl rfl
  exact counted.trans (silent_report _ rfl)

theorem silent_announced (service : Service) (origin : OriginSettings) (request : Request)
    (outcome : Reconciliation) :
    Silent wanted service (service.announced origin request outcome) := by
  cases outcome with
  | rederived view =>
      have counted : Silent wanted service ((service.count origin.registry .versionMismatches).count
          origin.registry .rederived) := silent_of_log rfl rfl
      exact counted.trans (silent_report _ rfl)
  | converged _ | retry _ _ | giveUp _ => exact .refl service

end Origins

section Workers

theorem of_mem_reports {event : Event} {cancelled : Bool}
    (member : event ∈ attempt.reports cancelled) :
    attempt.phase = .abandoned ∧
        event = .attemptSkipped attempt.request attempt.number .beforeEvaluation ∨
      ∃ outcome, attempt.phase = .released outcome ∧
        (event = .attemptSkipped attempt.request attempt.number .afterEvaluation ∨
          event = .attemptCompleted attempt.request attempt.number outcome.result) := by
  unfold Attempt.reports at member
  cases phase : attempt.phase with
  | abandoned =>
      rw [phase] at member
      exact .inl ⟨rfl, List.mem_singleton.mp member⟩
  | released outcome =>
      refine .inr ⟨outcome, rfl, ?_⟩
      simp only [phase] at member
      split at member
      · obtain rfl := List.mem_singleton.mp member
        split
        · exact .inl rfl
        · exact .inr rfl
      · exact absurd member List.not_mem_nil
  | queued | admitted | cleared | finished _ | checked _ =>
      rw [phase] at member
      exact absurd member List.not_mem_nil

theorem notes_runHook (service : Service) (attempt : Attempt) (version : VersionStamp) :
    Notes wanted []
      (if attempt.request = wanted then
        (attempt.hook.map fun _ => HookRun.mk attempt.request attempt.number version).toList
      else []) service (service.runHook attempt version).1 := by
  unfold runHook
  cases attempt.hook with
  | none =>
      have silent : Silent wanted service service := .refl service
      simpa using silent.notes
  | some hook =>
      let run : HookRun := ⟨attempt.request, attempt.number, version⟩
      have observed : Notes wanted [] (if attempt.request = wanted then [run] else []) service
          (service.observe (.hookRan attempt.label run)) := by
        refine ⟨(List.append_nil _).symm, ?_⟩
        rw [hookRunsOf_observe, Observation.hookRun?]
        split <;> rfl
      exact observed.then (Silent.kept.actAll _ _)

theorem silent_panicOnWorker (service : Service) (attempt : Attempt) (message : String) :
    Silent wanted service (service.panicOnWorker attempt message).1 :=
  silent_report service rfl

theorem silent_failOnWorker (service : Service) (attempt : Attempt) (failure : CallFailure) :
    Silent wanted service (service.failOnWorker attempt failure).1 := by
  cases failure with
  | refused error => exact .refl service
  | panicked message => exact service.silent_panicOnWorker attempt message

/-- The hook runs once if rows are found, and what is found is what the attempt comes to. -/
theorem notes_evaluateAttempt (service : Service) (attempt : Attempt) :
    Notes wanted []
        (if attempt.request = wanted then (attempt.hookRun? (service.evaluation attempt)).toList
        else []) service (service.evaluateAttempt attempt).1 ∧
      ∀ rows, (service.evaluateAttempt attempt).2.result = .ok rows →
        service.evaluation attempt = .ok rows := by
  have opened : Silent wanted service (service.reachSnapshot none).1 :=
    Silent.kept.reachSnapshot service none
  have nothing : ∀ moment : Service, Silent wanted service moment →
      Notes wanted [] (if attempt.request = wanted then [] else []) service moment := by
    intro moment silent
    rw [ite_self]
    exact silent.notes
  unfold evaluateAttempt evaluation
  generalize service.reachSnapshot none = result at opened
  obtain ⟨moment, snapshot⟩ := result
  cases snapshot with
  | error failure =>
      refine ⟨nothing _ (opened.trans (moment.silent_failOnWorker attempt failure)), ?_⟩
      cases failure <;> exact nofun
  | ok snapshot =>
      have asked : Silent wanted moment (moment.reachRows snapshot attempt.predicate).1 :=
        Silent.kept.reachRows moment snapshot attempt.predicate
      simp only
      generalize moment.reachRows snapshot attempt.predicate = result at asked
      obtain ⟨later, rows⟩ := result
      cases rows with
      | error failure =>
          have released : Silent wanted later (later.release snapshot) := silent_of_log rfl rfl
          refine ⟨nothing _ (((opened.trans asked).trans released).trans
            (silent_failOnWorker _ attempt failure)), ?_⟩
          cases failure <;> exact nofun
      | ok rows =>
          have hooked := (opened.trans asked).then (later.notes_runHook attempt rows.version)
          simp only
          generalize later.runHook attempt rows.version = result at hooked
          obtain ⟨last, panic⟩ := result
          cases panic with
          | none => exact ⟨hooked, fun found same => congrArg Except.ok (Except.ok.inj same)⟩
          | some message =>
              have released : Silent wanted last (last.release snapshot) := silent_of_log rfl rfl
              exact ⟨(hooked.then released).then (silent_panicOnWorker _ attempt message), nofun⟩

theorem silent_giveWorker (service : Service) (attempt : Attempt) :
    Silent wanted service (service.giveWorker attempt) := by
  unfold giveWorker
  cases service.dispatcher? attempt.dispatcher with
  | none => exact .refl service
  | some pool =>
      simp only
      split
      · exact silent_of_log rfl rfl
      · split
        · exact .refl service
        · exact silent_of_log rfl rfl

theorem silent_postOutcome (service : Service) (attempt : Attempt) (outcome : Outcome) :
    Silent wanted service (service.postOutcome attempt outcome) := by
  have freed : Silent wanted service
      (if outcome.evaluated then service.freeWorker attempt else service) := by
    split
    · exact silent_of_log rfl rfl
    · exact .refl service
  simp only [postOutcome]
  generalize (if outcome.evaluated then service.freeWorker attempt else service) = moment at freed
  cases moment.origin? attempt.origin with
  | some owner => exact freed.trans (silent_of_log rfl rfl)
  | none =>
      have reported : Silent wanted moment
          (moment.report (.originGone attempt.request attempt.origin)) := silent_report _ rfl
      exact ((freed.trans reported).trans (silent_releaseAll _ _)).trans (silent_of_log rfl rfl)

/-- What a step of a worker reports, and how the hook runs in it. -/
theorem notes_advanceAttempt (service : Service) (attempt : Attempt) :
    Notes wanted
      (if attempt.request = wanted then attempt.reports (service.isCancelled attempt.request)
        else [])
      (if attempt.request = wanted then attempt.hookRuns service else []) service
      (service.advanceAttempt attempt) := by
  unfold advanceAttempt Attempt.reports Attempt.hookRuns
  cases attempt.phase with
  | queued =>
      simp only [ite_self]
      exact (service.silent_giveWorker attempt).notes
  | admitted =>
      have passed : Silent wanted service (service.setPhase attempt.request
          (if service.isCancelled attempt.request then .abandoned else .cleared)) :=
        silent_of_log rfl rfl
      simp only [ite_self]
      exact passed.notes
  | cleared =>
      have finished : Silent wanted (service.evaluateAttempt attempt).1
          ((service.evaluateAttempt attempt).1.setPhase attempt.request
            (.finished (service.evaluateAttempt attempt).2)) := silent_of_log rfl rfl
      simp only [ite_self]
      exact (service.notes_evaluateAttempt attempt).1.then finished
  | abandoned =>
      have left : Silent wanted service (service.leaveFlight attempt) := silent_of_log rfl rfl
      simp only [ite_self]
      exact (left.then (notes_report _ rfl)).then (silent_of_log rfl rfl)
  | finished outcome =>
      have left : Silent wanted service ((service.leaveFlight attempt).setPhase attempt.request
          (.released outcome)) := silent_of_log rfl rfl
      simp only [ite_self]
      exact left.notes
  | released outcome =>
      have forgotten : ∀ moment : Service, Silent wanted moment
          ((moment.releaseAll outcome.snapshot.toList).dropAttempt attempt.request) :=
        fun moment => (silent_releaseAll _ _).trans (silent_of_log rfl rfl)
      simp only [skipOutcome, ite_self]
      cases service.isCancelled attempt.request with
      | true =>
          cases outcome.evaluated with
          | true =>
              let skipped := service.report
                (.attemptSkipped attempt.request attempt.number .afterEvaluation)
              have freed : Silent wanted skipped (skipped.freeWorker attempt) :=
                silent_of_log rfl rfl
              exact (notes_report service rfl).then (freed.trans (forgotten _))
          | false =>
              simp only [Bool.false_eq_true, if_false, if_true, ite_self]
              exact (forgotten service).notes
      | false =>
          cases outcome.evaluated with
          | true => exact (notes_report _ rfl).then (silent_of_log rfl rfl)
          | false =>
              have checked : Silent wanted service
                  (service.setPhase attempt.request (.checked outcome)) := silent_of_log rfl rfl
              simp only [Bool.false_eq_true, if_false, ite_self]
              exact checked.notes
  | checked outcome =>
      simp only [ite_self]
      exact (service.silent_postOutcome attempt outcome).notes

theorem advance_of_idle
    (unused : (service.attempts.find? fun attempt => attempt.request = wanted) = none) :
    service.advance wanted = service := by
  simp only [advance, unused]

theorem notes_advance
    (found : (service.attempts.find? fun attempt => attempt.request = wanted) = some attempt) :
    Notes wanted (attempt.reports (service.isCancelled attempt.request))
      (attempt.hookRuns service) service (service.advance wanted) := by
  have notes : Notes wanted _ _ service (service.advanceAttempt attempt) :=
    service.notes_advanceAttempt attempt
  simp only [request_of_find? found, if_true] at notes
  simpa only [advance, found, request_of_find? found] using notes

/-- A step of a worker says nothing of other requests. -/
theorem silent_advance (service : Service) {other : RequestId} (apart : other ≠ wanted) :
    Silent wanted service (service.advance other) := by
  unfold advance
  cases found : service.attempts.find? fun attempt => attempt.request = other with
  | none => exact .refl service
  | some attempt =>
      have notes : Notes wanted _ _ service (service.advanceAttempt attempt) :=
        service.notes_advanceAttempt attempt
      rw [request_of_find? found, if_neg apart, if_neg apart] at notes
      exact notes.silent

end Workers

/-- Only workers, origins and new queries say something of a request. -/
theorem silent_of_after? {move : Move} (moved : service.after? move = some after)
    (working : move ≠ .advance wanted) (processing : ∀ id, move ≠ .process id)
    (submitting : ∀ id query, move ≠ .submit id query) : Silent wanted service after := by
  cases move with
  | act action => exact Option.some.inj moved ▸ service.silent_act action
  | wake handle =>
      simp only [after?] at moved
      split at moved
      · exact Option.some.inj moved ▸ silent_of_log rfl rfl
      · cases moved
  | advance request =>
      have apart : request ≠ wanted := fun same => working (congrArg Move.advance same)
      exact Option.some.inj moved ▸ service.silent_advance apart
  | process id => exact absurd rfl (processing id)
  | submit id query => exact absurd rfl (submitting id query)
  | addDispatcher name workers shared => exact Option.some.inj moved ▸ silent_of_log rfl rfl
  | addOrigin dispatcher config =>
      obtain ⟨pool, _, rfl⟩ := Option.map_eq_some_iff.mp moved
      exact silent_of_log rfl rfl
  | dropOrigin origin =>
      have removed : Silent wanted service (service.withoutOrigin origin) := silent_of_log rfl rfl
      exact Option.some.inj moved ▸ removed.trans (silent_releaseAll _ _)
  | openSnapshot name version =>
      have opened : Silent wanted service (service.openSnapshot version).1 :=
        service.silent_openSnapshot version
      simp only [after?] at moved
      generalize service.openSnapshot version = result at opened moved
      obtain ⟨moment, snapshot⟩ := result
      cases snapshot with
      | error refusal => exact Option.some.inj moved ▸ opened
      | ok snapshot =>
          exact Option.some.inj moved ▸ opened.trans (moment.silent_keepSnapshot name snapshot)
  | copySnapshot source name =>
      obtain ⟨snapshot, _, rfl⟩ := Option.map_eq_some_iff.mp moved
      have shared : Silent wanted service { service with
          store := { service.store with
            retention := service.store.retention.share snapshot } } := silent_of_log rfl rfl
      exact shared.trans (silent_keepSnapshot _ name snapshot)
  | dropSnapshot name =>
      have dropped : Silent wanted service
          { service with snapshots := service.snapshots.erase name } := silent_of_log rfl rfl
      exact Option.some.inj moved ▸ dropped.trans (silent_releaseAll _ _)
  | dropView name =>
      have dropped : Silent wanted service { service with views := service.views.erase name } :=
        silent_of_log rfl rfl
      exact Option.some.inj moved ▸ dropped.trans (silent_releaseAll _ _)
  | interpose faults => exact Option.some.inj moved ▸ silent_of_log rfl rfl

end Service

end SnapshotQuery
