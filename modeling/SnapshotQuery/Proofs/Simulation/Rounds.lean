import SnapshotQuery.Proofs.Service.Course
import SnapshotQuery.Proofs.Service.Evaluation
import SnapshotQuery.Proofs.Simulation.Refills

/-!
# Rounds of a simulation

In one round the attempt of the query is evaluated, its hook refills the table
unless the limit on hook runs is reached, and the origin takes up the result.
Nothing else is under way, so a round leads to the next one or to the end.
-/

namespace SnapshotQuery

namespace Service

variable {service : Service}

theorem viewDocument_alone (alone : service.faults .readRow = []) (snapshot : Snapshot)
    (row : RowId) : (service.viewDocument snapshot row).1 = service := by
  simp only [viewDocument, reachDocument, reach, interrupt_alone alone, Fault.none]
  split <;> simp_all

theorem documentsOf_alone (alone : service.faults .readRow = []) (snapshot : Snapshot)
    (rows : List RowId) : (service.documentsOf snapshot rows).1 = service := by
  induction rows with
  | nil => rfl
  | cons row rest inductionHypothesis =>
      have read := viewDocument_alone alone snapshot row
      unfold documentsOf
      generalize service.viewDocument snapshot row = result at read
      obtain ⟨moment, document⟩ := result
      obtain rfl : moment = service := read
      cases document with
      | error error => rfl
      | ok document =>
          simp only
          generalize moment.documentsOf snapshot rest = result at inductionHypothesis ⊢
          obtain ⟨last, documents⟩ := result
          obtain rfl : last = moment := inductionHypothesis
          cases documents <;> rfl

/-- Looking at a view changes nothing if nothing comes between. -/
theorem inspect_alone (alone : service.faults .readRow = []) (view : View) :
    service.inspect view = (service, ⟨view.rows, (service.documents view).2⟩) := by
  have read := documentsOf_alone alone view.snapshot view.rows.rows
  simp only [inspect, documents, read]

end Service

namespace Simulation

open Service

variable (simulation : Simulation)

/-- Where the attempts of the query go. -/
def settings (config : Config) : OriginSettings := ⟨⟨1⟩, ⟨1⟩, ⟨1⟩, config⟩

/-- The request while an attempt of it is under way. -/
def requestAt (number : Nat) : Request :=
  { simulation.query.request ⟨1⟩ ⟨1⟩ with
    state := .running
    attempts := number
    hookRuns := min number simulation.writes }

/-- The first attempts carry the hook. -/
def attemptAt (number : Nat) (phase : Phase) : Attempt where
  request := ⟨1⟩
  origin := ⟨1⟩
  dispatcher := ⟨1⟩
  label := simulation.query.label
  number := number
  predicate := predicate
  hook := if number ≤ simulation.writes then simulation.query.hook else none
  phase := phase

/-- What the query finds at the current version. -/
def found (store : Store) : RowSet :=
  ⟨store.authority.current, store.rowsMatching predicate store.authority.current⟩

/-- The pool with so many idle workers and these requests in flight. -/
def pool (workers idle : Nat) (inFlight : List RequestId) : Dispatcher :=
  ⟨⟨1⟩, ⟨1⟩, workers, idle, false, inFlight⟩

/-- The hook of the attempt commits, so that the result is stale when it arrives. -/
def Overtaken (number count : Nat) : Prop :=
  number ≤ simulation.writes ∧ (0 < count ∨ 0 < simulation.rowsAfter number)

/-- What a callback was called with last, and what callbacks panicked with. -/
def heard (observations : List Observation) : Option (Except QueryError Nat) × List String :=
  (delivered? observations, observations.filterMap Observation.panic?)

/-- An attempt of the query was just dispatched, over a table of so many rows. -/
structure Round (config : Config) (workers number count : Nat) (service : Service) : Prop where
  faults : service.faults = fun _ => []
  cancelled : service.cancelled = []
  dispatchers : service.dispatchers = [pool workers workers [⟨1⟩]]
  origins : service.origins = [⟨settings config, [], [simulation.requestAt number]⟩]
  attempts : service.attempts = [simulation.attemptAt number .queued]
  counted : ∃ metrics, service.registries = [(⟨1⟩, metrics)] ∧ metrics.attempts = number
  silent : heard service.observations = (none, [])
  filled : service.store.Filled count

variable {simulation} {config : Config} {workers number count : Nat} {service : Service}

theorem Round.release (round : simulation.Round config workers number count service)
    (snapshot : Snapshot) :
    simulation.Round config workers number count (service.release snapshot) :=
  { round with filled := round.filled.retention _ }

/-- The table that the hook of an attempt leaves behind, if the attempt carries the hook. -/
theorem runHook_attemptAt (filled : service.store.Filled count) (phase : Phase)
    (version : VersionStamp) :
    ∃ store trail observations,
      service.runHook (simulation.attemptAt number phase) version =
        ({ service with store, trail, observations }, none) ∧
      service.store.Turns store
        (if number ≤ simulation.writes then simulation.rowsAfter number else count)
        (simulation.Overtaken number count) ∧
      heard observations = heard service.observations := by
  by_cases carries : number ≤ simulation.writes
  · obtain ⟨turns, commit⟩ := filled.refill (simulation.rowsAfter number)
    have armed : (simulation.attemptAt number phase).hook = simulation.query.hook := if_pos carries
    rcases written : service.store.write (refill (simulation.rowsAfter number)) with ⟨store, report⟩
    rw [written] at turns commit
    have hooked : service.runHook (simulation.attemptAt number phase) version =
        (service.observe (.hookRan simulation.query.label ⟨⟨1⟩, number, version⟩)).actAll
          [.reportedWrite (refill (simulation.rowsAfter number)) number] := by
      simp only [runHook, armed]
      rfl
    simp only [Overtaken, hooked, carries, if_true, true_and, actAll, act, Service.write,
      Service.observe, written]
    obtain ⟨answers, ending⟩ := report
    rcases commit with ⟨version, changes, rfl⟩ | ⟨version, rfl⟩
    · exact ⟨_, _, _, rfl, turns, rfl⟩
    · exact ⟨_, _, _, rfl, turns, rfl⟩
  · have bare : (simulation.attemptAt number phase).hook = none := if_neg carries
    simp only [Overtaken, runHook, bare, carries, if_false, false_and]
    exact ⟨_, _, _, rfl, ⟨filled, False.elim, fun _ => rfl, False.elim⟩, rfl⟩

/-- An attempt finds the rows that were current when its worker began. -/
theorem evaluateAttempt_attemptAt (quiet : service.faults = fun _ => [])
    (filled : service.store.Filled count) (phase : Phase) :
    ∃ store trail observations snapshot,
      service.evaluateAttempt (simulation.attemptAt number phase) =
        ({ service with store, trail, observations },
          ⟨.ok (found service.store), some snapshot, true⟩) ∧
      service.store.Turns store
        (if number ≤ simulation.writes then simulation.rowsAfter number else count)
        (simulation.Overtaken number count) ∧
      heard observations = heard service.observations := by
  let version := service.store.authority.current
  have retained : service.store.Retained version := filled.retained (Nat.le_refl _)
  have alone : ∀ method, service.faults method = [] := fun method => by rw [quiet]
  have opened := reachSnapshot_eq (alone .openSnapshot) filled.sound none retained
  let held := (service.store.retention.acquire version).1
  have valid : predicate.check service.store.schema = .ok () :=
    filled.schema ▸ check_predicate
  have evaluated : (service.pinning version).store.evaluate held predicate =
      .ok (found service.store) :=
    (Store.evaluate_eq_ok_iff _ held predicate _).mpr ⟨valid, filled.sound, retained, rfl⟩
  have asked : (service.pinning version).reachRows held predicate =
      (service.pinning version, .ok (found service.store)) := by
    have still : (service.pinning version).faults .evaluate = [] := alone .evaluate
    rw [reachRows, reach, interrupt_alone still]
    simp only [Fault.none, evaluated]
    rfl
  obtain ⟨store, trail, observations, ran, turns, silent⟩ :=
    @runHook_attemptAt simulation number count (service.pinning version) (filled.retention _) phase
      (found service.store).version
  refine ⟨store, trail, observations, held, ?_, ⟨turns.filled, turns.next, turns.same,
    turns.replaced⟩, silent⟩
  simp only [evaluateAttempt, opened, Option.getD_none]
  rw [show (simulation.attemptAt number phase).predicate = predicate from rfl, asked]
  simp only [ran]
  rfl

/-- The service with its one attempt in a phase and so many idle workers. -/
def working (simulation : Simulation) (service : Service) (number workers idle : Nat)
    (inFlight : List RequestId) (phase : Phase) : Service :=
  { service with
    dispatchers := [pool workers idle inFlight]
    attempts := [simulation.attemptAt number phase] }

section Working

variable {idle : Nat} {inFlight : List RequestId} {phase : Phase} {outcome : Outcome}

theorem advance_working : (simulation.working service number workers idle inFlight phase).advance
      ⟨1⟩ =
    (simulation.working service number workers idle inFlight phase).advanceAttempt
      (simulation.attemptAt number phase) := by
  simp [advance, working, attemptAt]

theorem setPhase_working (next : Phase) :
    (simulation.working service number workers idle inFlight phase).setPhase ⟨1⟩ next =
      simulation.working service number workers idle inFlight next := by
  simp [setPhase, working, attemptAt]

theorem advance_queued (positive : 0 < idle) :
    (simulation.working service number workers idle inFlight .queued).advance ⟨1⟩ =
      simulation.working service number workers (idle - 1) inFlight .admitted := by
  rw [advance_working]
  simp [advanceAttempt, attemptAt, giveWorker, dispatcher?, working, pool, updateDispatcher,
    setPhase, Nat.ne_of_gt positive]

theorem advance_admitted (unset : service.cancelled = []) :
    (simulation.working service number workers idle inFlight .admitted).advance ⟨1⟩ =
      simulation.working service number workers idle inFlight .cleared := by
  have running : (simulation.working service number workers idle inFlight .admitted).isCancelled
      ⟨1⟩ = false := by
    simp [isCancelled, working, unset]
  have checked := @setPhase_working simulation workers number service idle inFlight .admitted
    .cleared
  rw [advance_working, ← checked]
  simp only [advanceAttempt, attemptAt, running, if_neg Bool.false_ne_true]

theorem advance_cleared {moment : Service}
    (evaluated : (simulation.working service number workers idle inFlight .cleared).evaluateAttempt
        (simulation.attemptAt number .cleared) =
      (simulation.working moment number workers idle inFlight .cleared, outcome)) :
    (simulation.working service number workers idle inFlight .cleared).advance ⟨1⟩ =
      simulation.working moment number workers idle inFlight (.finished outcome) := by
  have finished := @setPhase_working simulation workers number moment idle inFlight .cleared
    (.finished outcome)
  rw [advance_working, ← finished]
  rw [advanceAttempt, show (simulation.attemptAt number .cleared).phase = .cleared from rfl]
  simp only [evaluated]
  rfl

theorem advance_finished (outcome : Outcome) :
    (simulation.working service number workers idle [⟨1⟩] (.finished outcome)).advance ⟨1⟩ =
      simulation.working service number workers idle [] (.released outcome) := by
  rw [advance_working]
  simp [advanceAttempt, attemptAt, leaveFlight, working, pool, updateDispatcher, setPhase]

theorem advance_released (unset : service.cancelled = []) (evaluated : outcome.evaluated = true) :
    (simulation.working service number workers idle inFlight (.released outcome)).advance ⟨1⟩ =
      simulation.working (service.report (.attemptCompleted ⟨1⟩ number outcome.result)) number
        workers idle inFlight (.checked outcome) := by
  have running : (simulation.working service number workers idle inFlight
      (.released outcome)).isCancelled ⟨1⟩ = false := by
    simp [isCancelled, working, unset]
  have checked := @setPhase_working simulation workers number
    (service.report (.attemptCompleted ⟨1⟩ number outcome.result)) idle inFlight
    (.released outcome) (.checked outcome)
  rw [advance_working, ← checked]
  simp only [advanceAttempt, attemptAt, running, evaluated, if_neg Bool.false_ne_true, if_true]
  rfl

theorem advance_checked {owner : Origin} (origins : service.origins = [owner])
    (own : owner.settings.id = ⟨1⟩) (evaluated : outcome.evaluated = true) :
    (simulation.working service number workers idle inFlight (.checked outcome)).advance ⟨1⟩ =
      { service with
        dispatchers := [pool workers (idle + 1) inFlight]
        attempts := []
        origins := [{ owner with
          mailbox := owner.mailbox ++
            [.completed ⟨⟨1⟩, ⟨1⟩, number, outcome.result, outcome.snapshot⟩] }] } := by
  rw [advance_working]
  simp [advanceAttempt, attemptAt, postOutcome, freeWorker, working, pool, updateDispatcher,
    origin?, origins, own, post, updateOrigin, dropAttempt, evaluated]

end Working

/-- What a worker makes of the attempt, and its hook of the table. -/
theorem Round.settle (round : simulation.Round config workers number count service)
    (positive : 0 < workers) :
    ∃ store trail observations snapshot,
      service.settle =
        { service with
          store, trail, observations
          dispatchers := [pool workers workers []]
          attempts := []
          origins := [⟨settings config,
            [.completed ⟨⟨1⟩, ⟨1⟩, number, .ok (found service.store), some snapshot⟩],
            [simulation.requestAt number]⟩] } ∧
      service.store.Turns store
        (if number ≤ simulation.writes then simulation.rowsAfter number else count)
        (simulation.Overtaken number count) ∧
      heard observations = (none, []) := by
  have start : simulation.working service number workers workers [⟨1⟩] .queued = service := by
    rw [working, ← round.dispatchers, ← round.attempts]
  have settled : service.settle = advanceBy attemptSteps ⟨1⟩
      (simulation.working service number workers workers [⟨1⟩] .queued) := by
    rw [start, Service.settle, round.attempts]
    rfl
  obtain ⟨store, trail, observations, snapshot, evaluated, turns, silent⟩ :=
    @evaluateAttempt_attemptAt simulation number count
      (simulation.working service number workers (workers - 1) [⟨1⟩] .cleared) round.faults
      round.filled .cleared
  let outcome : Outcome := ⟨.ok (found service.store), some snapshot, true⟩
  let moment : Service := { service with store, trail, observations }
  let last : Service := moment.report (.attemptCompleted ⟨1⟩ number outcome.result)
  have cleared : (simulation.working service number workers (workers - 1) [⟨1⟩] .cleared).advance
        ⟨1⟩ =
      simulation.working moment number workers (workers - 1) [⟨1⟩] (.finished outcome) :=
    advance_cleared evaluated
  have released : (simulation.working moment number workers (workers - 1) []
        (.released outcome)).advance ⟨1⟩ =
      simulation.working last number workers (workers - 1) [] (.checked outcome) :=
    advance_released round.cancelled rfl
  have origins : last.origins = [⟨settings config, [], [simulation.requestAt number]⟩] :=
    round.origins
  simp only [settled, attemptSteps, advanceBy]
  rw [advance_queued positive, advance_admitted round.cancelled, cleared, advance_finished,
    released, advance_checked origins rfl rfl, Nat.sub_add_cancel positive]
  exact ⟨store, _, observations, snapshot, rfl, turns, silent.trans round.silent⟩

/-- The origin has taken its request out to look at the result of an attempt. -/
structure Between (config : Config) (workers number : Nat) (service : Service) : Prop where
  faults : service.faults = fun _ => []
  cancelled : service.cancelled = []
  dispatchers : service.dispatchers = [pool workers workers []]
  origins : service.origins = [⟨settings config, [], []⟩]
  attempts : service.attempts = []
  counted : ∃ metrics, service.registries = [(⟨1⟩, metrics)] ∧ metrics.attempts = number
  silent : heard service.observations = (none, [])

/-- The query is over, with an outcome after so many attempts. -/
structure Finished (outcome : Except QueryError Nat) (attempts : Nat) (version : VersionStamp)
    (service : Service) : Prop where
  idle : service.liveRequests ⟨1⟩ = 0
  heard : heard service.observations = (some outcome, [])
  attempts : (service.metrics ⟨1⟩).attempts = attempts
  version : service.store.currentVersion = version

theorem Finished.delivered {outcome : Except QueryError Nat} {attempts : Nat}
    {version : VersionStamp} (finished : Finished outcome attempts version service) :
    delivered? service.observations = some outcome :=
  congrArg Prod.fst finished.heard

section Ends

variable {taken : Service} {counter : Counter}

theorem Between.pinning (between : Between config workers number taken) (version : VersionStamp) :
    Between config workers number (taken.pinning version) :=
  { between with }

theorem Between.report (between : Between config workers number taken) (event : Event) :
    Between config workers number (taken.report event) :=
  { between with }

theorem Between.counting (between : Between config workers number taken)
    (other : counter ≠ .attempts) : Between config workers number (taken.count ⟨1⟩ counter) := by
  obtain ⟨metrics, registered, attempts⟩ := between.counted
  refine { between with counted := ⟨metrics.increment counter, ?_, ?_⟩ }
  · simp [Service.count, registered]
  · have kept := metrics.get_increment counter .attempts
    rw [if_neg (Ne.symm other)] at kept
    exact kept.trans attempts

theorem Between.calm (between : Between config workers number taken) :
    taken.observations.filterMap Observation.panic? = [] :=
  congrArg Prod.snd between.silent

/-- The origin owns nothing any more, and the callback was called. -/
theorem Between.finished (between : Between config workers number taken)
    {outcome : Except QueryError Nat} {observations : List Observation}
    (called : heard observations = (some outcome, [])) (retention : Retention)
    (ended : List Request) :
    Finished outcome number taken.store.currentVersion
      { taken with store := { taken.store with retention }, observations, ended } where
  idle := by simp [liveRequests, origin?, between.origins, settings]
  heard := called
  attempts := by
    obtain ⟨metrics, registered, attempts⟩ := between.counted
    simp [Service.metrics, registered, attempts]
  version := rfl

/-- The success callback is called, and the request is over. -/
theorem Between.converge (between : Between config workers number taken) (view : View)
    (snapshot : Snapshot) :
    let concluded := taken.deliverSuccess (settings config) (simulation.requestAt number).awaiting
      view
    Finished (.ok view.rows.size) number taken.store.currentVersion
      ((concluded.1.putBack ⟨1⟩ concluded.2).release snapshot) := by
  have alone : taken.faults .readRow = [] := by rw [between.faults]
  have converged : Counter.converged ≠ .attempts := by decide
  have counted := (between.counting converged).report
    (.converged ⟨1⟩ number view.rows.size view.rows.version)
  have called : taken.callSuccess ((simulation.requestAt number).endedAs .converged)
      simulation.query.onSuccess view =
        ((taken.observe (.succeeded simulation.query.label ⟨1⟩
          ⟨view.rows, (taken.documents view).2⟩)).release view.snapshot, none) := by
    simp only [callSuccess, inspect_alone alone, query]
    rfl
  have delivered : taken.deliverSuccess (settings config) (simulation.requestAt number).awaiting
      view =
        ((((taken.observe (.succeeded simulation.query.label ⟨1⟩
          ⟨view.rows, (taken.documents view).2⟩)).release view.snapshot).count ⟨1⟩
            .converged).report (.converged ⟨1⟩ number view.rows.size view.rows.version),
          (simulation.requestAt number).endedAs .converged) := by
    rw [deliverSuccess_eq rfl]
    simp only [called]
    rfl
  have told : heard (.succeeded simulation.query.label ⟨1⟩ ⟨view.rows, (taken.documents view).2⟩ ::
      taken.observations) = (some (.ok view.rows.size), []) :=
    Prod.ext rfl between.calm
  rw [delivered]
  exact counted.finished told _ _

theorem Between.fail (between : Between config workers number taken) (error : QueryError)
    (snapshot : Snapshot) :
    let concluded := taken.deliverError (settings config) (simulation.requestAt number).awaiting
      error
    Finished (.error error) number taken.store.currentVersion
      ((concluded.1.putBack ⟨1⟩ concluded.2).release snapshot) := by
  have failed : Counter.failed ≠ .attempts := by decide
  have counted := (between.counting failed).report (.failed ⟨1⟩ number error)
  have told : heard (.failed simulation.query.label ⟨1⟩ error :: taken.observations) =
      (some (.error error), []) :=
    Prod.ext rfl between.calm
  exact counted.finished told _ _

end Ends

/-- The origin handles the result of the attempt. -/
theorem Round.process (round : simulation.Round config workers number count service)
    (positive : 0 < workers) :
    ∃ taken snapshot, Between config workers number taken ∧
      service.store.Turns taken.store
        (if number ≤ simulation.writes then simulation.rowsAfter number else count)
        (simulation.Overtaken number count) ∧
      ∀ decided outcome,
        taken.reconcile config.reconcileMode (found service.store) simulation.policy number
          false = (decided, outcome) → decided.cancelled = [] →
        let concluded := decided.conclude (settings config)
          (simulation.requestAt number).awaiting outcome
        service.settle.process? ⟨1⟩ =
          some ((concluded.1.putBack ⟨1⟩ concluded.2).release snapshot) := by
  obtain ⟨store, trail, observations, snapshot, settled, turns, silent⟩ := round.settle positive
  let taken : Service :=
    { service with
      store, trail, observations
      dispatchers := [pool workers workers []]
      attempts := []
      origins := [⟨settings config, [], []⟩] }
  refine ⟨taken, snapshot, ⟨round.faults, round.cancelled, rfl, rfl, rfl, round.counted, silent⟩,
    turns, fun decided outcome reconciled unset => ?_⟩
  let holding : Service :=
    { taken with origins := [⟨settings config, [], [simulation.requestAt number]⟩] }
  have live : holding.liveRequest? ⟨1⟩ ⟨1⟩ = some (simulation.requestAt number) := rfl
  have removed : holding.removeLive ⟨1⟩ ⟨1⟩ = taken := rfl
  have accepted : holding.Accepted (settings config)
      ⟨⟨1⟩, ⟨1⟩, number, .ok (found service.store), some snapshot⟩ (simulation.requestAt number) :=
    ⟨rfl, rfl, by simp [isCancelled, holding, taken, round.cancelled]⟩
  have still : decided.isCancelled ⟨1⟩ = false := by simp [isCancelled, unset]
  have handled := handle_of_reconciled live accepted ⟨rfl, rfl, rfl⟩ rfl reconciled still
  rw [settled]
  exact congrArg some handled

section Starts

theorem armHook_requestAt (simulation : Simulation) (number : Nat) :
    ({ simulation.requestAt number with attempts := number + 1 } : Request).armHook
        (some simulation.writes) =
      (simulation.requestAt (number + 1),
        if number + 1 ≤ simulation.writes then simulation.query.hook else none) := by
  by_cases carries : number + 1 ≤ simulation.writes
  · have before : min number simulation.writes = number := by omega
    have armed : ¬ simulation.writes ≤ number := by omega
    simp [Request.armHook, requestAt, query, Query.request, before, armed, carries]
  · have before : min number simulation.writes = simulation.writes := by omega
    have after : min (number + 1) simulation.writes = simulation.writes := by omega
    simp [Request.armHook, requestAt, query, Query.request, before, after, carries]

theorem Between.dispatch {taken : Service} (between : Between config workers number taken)
    (next : Nat) :
    taken.dispatch (simulation.attemptAt next .queued) =
      ({ taken.count ⟨1⟩ .attempts with
          dispatchers := [pool workers workers [⟨1⟩]]
          attempts := [simulation.attemptAt next .queued] }, .ok ()) := by
  simp [Service.dispatch, dispatcher?, between.dispatchers, between.attempts, pool, attemptAt,
    updateDispatcher, Service.count]

/-- The next attempt is accepted, so a round begins. -/
theorem Between.launch {taken : Service} (between : Between config workers number taken)
    (filled : taken.store.Filled count)
    (limited : config.simulation.maxBackgroundHookRuns = some simulation.writes)
    {request : Request} (starts : request.startAttempt =
      .ok { simulation.requestAt number with attempts := number + 1 }) :
    let launched := taken.launchAttempt (settings config) request
    simulation.Round config workers (number + 1) count (launched.1.putBack ⟨1⟩ launched.2) ∧
      (launched.1.putBack ⟨1⟩ launched.2).store = taken.store := by
  obtain ⟨metrics, registered, attempts⟩ := between.counted
  have limit : (settings config).config.simulation.maxBackgroundHookRuns =
      some simulation.writes := limited
  let reported := taken.report (.attemptDispatched ⟨1⟩ (number + 1)
    (simulation.attemptAt (number + 1) .queued).hook.isSome)
  have dispatched : reported.dispatch (simulation.attemptAt (number + 1) .queued) = _ :=
    (between.report _).dispatch (number + 1)
  have launched : taken.launchAttempt (settings config) request =
      ({ reported.count ⟨1⟩ .attempts with
          dispatchers := [pool workers workers [⟨1⟩]]
          attempts := [simulation.attemptAt (number + 1) .queued] },
        simulation.requestAt (number + 1)) :=
    launchAttempt_of_accepted starts (limit ▸ simulation.armHook_requestAt number) dispatched
  rw [launched]
  refine ⟨⟨between.faults, between.cancelled, rfl, ?_, rfl, ⟨metrics.increment .attempts, ?_, ?_⟩,
    between.silent, filled⟩, rfl⟩
  · simp [putBack, requestAt, RequestState.isTerminal, insertLive, updateOrigin, between.origins,
      settings, Service.count, reported, Service.report]
  · simp [putBack, requestAt, RequestState.isTerminal, insertLive, updateOrigin, Service.count,
      registered, reported, Service.report]
  · exact congrArg (· + 1) attempts

end Starts

section Outcomes

theorem Between.gentle {taken : Service} (between : Between config workers number taken) :
    Gentle taken.faults := by
  rw [between.faults]
  constructor <;> simp

theorem size_found (filled : service.store.Filled count) (small : count ≤ UInt32.size) :
    (found service.store).size = min count 10 :=
  filled.length_rowsMatching small

/-- A result that nothing overtook is delivered. -/
theorem Round.converges (round : simulation.Round config workers number count service)
    (positive : 0 < workers) (small : count ≤ UInt32.size)
    (current : ¬ simulation.Overtaken number count) :
    ∃ after, service.settle.process? ⟨1⟩ = some after ∧
      Finished (.ok (min count 10)) number service.store.authority.current after := by
  obtain ⟨taken, snapshot, between, turns, processed⟩ := round.process positive
  have coherent := turns.filled.wellFormed.toCoherent
  have published : taken.store.currentVersion = service.store.authority.current :=
    coherent.published.trans (turns.same current)
  have reconciled : taken.reconcile config.reconcileMode (found service.store) simulation.policy
      number false = _ :=
    reconcile_current between.gentle turns.filled.sound coherent published.symm
      config.reconcileMode
  refine ⟨_, processed _ _ reconciled between.cancelled, ?_⟩
  rw [← size_found round.filled small, ← published]
  exact (between.pinning (found service.store).version).converge
    ⟨(taken.store.retention.acquire (found service.store).version).1, found service.store⟩ snapshot

section Stale

variable {taken : Service}

/-- What is needed to decide about a result that was overtaken. -/
structure Stale (service taken : Service) : Prop where
  sound : taken.store.poisoned = false
  coherent : taken.store.Coherent
  retained : taken.store.Retained (found service.store).version
  next : taken.store.currentVersion = service.store.authority.current + 1
  differs : (found service.store).version ≠ taken.store.currentVersion

theorem stale_of_turns {rows : Nat} {changed : Prop}
    (turns : service.store.Turns taken.store rows changed) (changes : changed) :
    Stale service taken := by
  have coherent := turns.filled.wellFormed.toCoherent
  have next : taken.store.currentVersion = service.store.authority.current + 1 :=
    coherent.published.trans (turns.next changes)
  refine ⟨turns.filled.sound, coherent, turns.filled.retained ?_, next, ?_⟩
  · rw [turns.next changes]
    exact Nat.le_succ _
  · rw [next]
    exact Nat.ne_of_lt (Nat.lt_succ_self _)

/-- None of the rows that were found is left after a refill. -/
theorem lost_of_turns (filled : service.store.Filled count) (small : count ≤ UInt32.size)
    (some : 0 < count) {rows : Nat} {changed : Prop}
    (turns : service.store.Turns taken.store rows changed) (changes : changed) :
    ¬ taken.store.Keeps (found service.store) := by
  intro keeps
  have size : 0 < (found service.store).rows.length := by
    have counted := size_found filled small
    rw [RowSet.size] at counted
    omega
  obtain ⟨row, member⟩ := List.length_pos_iff_exists_mem.mp size
  obtain ⟨⟨_, document⟩, among, rfl⟩ := List.mem_map.mp member
  have visible := (service.store.mem_rowsAt _ document _).mp (List.mem_of_mem_filter among)
  have known := filled.wellFormed.known_of_document (Option.isSome_of_eq_some visible)
  have kept := keeps _ member
  rw [Store.currentVersion, turns.filled.wellFormed.published,
    turns.replaced changes _ known] at kept
  cases kept

/-- An overtaken result without rows is brought over. -/
theorem Round.rederives (round : simulation.Round config workers number 0 service)
    (positive : 0 < workers) (changes : simulation.Overtaken number 0)
    (mode : config.reconcileMode = .rederive) :
    ∃ after, service.settle.process? ⟨1⟩ = some after ∧
      Finished (.ok 0) number (service.store.authority.current + 1) after := by
  obtain ⟨taken, snapshot, between, turns, processed⟩ := round.process positive
  obtain ⟨sound, coherent, retained, next, differs⟩ := stale_of_turns turns changes
  have none : (found service.store).rows = [] :=
    List.length_eq_zero_iff.mp (size_found round.filled (Nat.zero_le _))
  have keeps : taken.store.Keeps (found service.store) := by
    intro row member
    rw [none] at member
    cases member
  have reconciled : taken.reconcile .rederive (found service.store) simulation.policy number
      false = _ := reconcile_kept between.gentle sound coherent retained differs keeps
  rw [← mode] at reconciled
  refine ⟨_, processed _ _ reconciled between.cancelled, ?_⟩
  have mismatched : Counter.versionMismatches ≠ .attempts := by decide
  have rederived : Counter.rederived ≠ .attempts := by decide
  have announced := (((between.pinning taken.store.currentVersion).counting mismatched).counting
    rederived).report (.rederived ⟨1⟩ number taken.store.currentVersion)
  rw [← next]
  have size : (0 : Nat) =
      (RowSet.mk taken.store.currentVersion (found service.store).rows).size := by
    rw [none]
    rfl
  rw [size]
  exact announced.converge
    ⟨(taken.store.retention.acquire taken.store.currentVersion).1, ⟨_, _⟩⟩ snapshot

/-- An overtaken result whose rows are lost ends the query if the budget is used up. -/
theorem Round.fails (round : simulation.Round config workers number count service)
    (positive : 0 < workers) (small : count ≤ UInt32.size)
    (changes : simulation.Overtaken number count)
    (lost : config.reconcileMode = .rederive → 0 < count) {limit : Nat}
    (budget : simulation.policy.maxRetries? = some limit) (spent : limit ≤ number - 1) :
    ∃ after, service.settle.process? ⟨1⟩ = some after ∧
      Finished (.error (.unreachableVersion number service.store.authority.current
        (service.store.authority.current + 1))) number (service.store.authority.current + 1)
          after := by
  obtain ⟨taken, snapshot, between, turns, processed⟩ := round.process positive
  obtain ⟨sound, coherent, retained, next, differs⟩ := stale_of_turns turns changes
  have reconciled : taken.reconcile config.reconcileMode (found service.store) simulation.policy
      number false = _ :=
    reconcile_unresolvable between.gentle sound coherent retained differs fun mode =>
      lost_of_turns round.filled small (lost mode) turns changes
  rw [RetryPolicy.onMismatch_spent budget spent] at reconciled
  refine ⟨_, processed _ _ reconciled between.cancelled, ?_⟩
  have mismatched : Counter.versionMismatches ≠ .attempts := by decide
  have reported := (between.counting mismatched).report
    (.versionMismatch ⟨1⟩ number (found service.store).version taken.store.currentVersion)
  have ended := @Between.fail simulation config workers number _ reported
    (.unreachableVersion number (found service.store).version taken.store.currentVersion) snapshot
  rw [← next]
  exact ended

/-- An overtaken result whose rows are lost leads to the next round within the budget. -/
theorem Round.retries (round : simulation.Round config workers number count service)
    (positive : 0 < workers) (small : count ≤ UInt32.size)
    (limited : config.simulation.maxBackgroundHookRuns = some simulation.writes)
    (changes : simulation.Overtaken number count)
    (lost : config.reconcileMode = .rederive → 0 < count)
    (allowed : ∀ limit ∈ simulation.policy.maxRetries?, number - 1 < limit) :
    ∃ after, service.settle.process? ⟨1⟩ = some after ∧
      simulation.Round config workers (number + 1) (simulation.rowsAfter number) after ∧
      after.store.authority.current = service.store.authority.current + 1 := by
  obtain ⟨taken, snapshot, between, turns, processed⟩ := round.process positive
  obtain ⟨sound, coherent, retained, next, differs⟩ := stale_of_turns turns changes
  have reconciled : taken.reconcile config.reconcileMode (found service.store) simulation.policy
      number false = _ :=
    reconcile_unresolvable between.gentle sound coherent retained differs fun mode =>
      lost_of_turns round.filled small (lost mode) turns changes
  rw [RetryPolicy.onMismatch_allowed allowed] at reconciled
  refine ⟨_, processed _ _ reconciled between.cancelled, ?_⟩
  have mismatched : Counter.versionMismatches ≠ .attempts := by decide
  have retried : Counter.retries ≠ .attempts := by decide
  have reported := (((between.counting mismatched).report (.versionMismatch ⟨1⟩ number
    (found service.store).version taken.store.currentVersion)).counting retried).report
      (.retrying ⟨1⟩ (number + 1))
  have filled := turns.filled
  rw [if_pos changes.1] at filled
  have starts : (simulation.requestAt number).between.startAttempt =
      .ok { simulation.requestAt number with attempts := number + 1 } := rfl
  obtain ⟨launched, store⟩ := reported.launch filled limited starts
  refine ⟨launched.release snapshot, ?_⟩
  exact (congrArg (fun kept : Store => kept.authority.current) store).trans (turns.next changes)

end Stale

end Outcomes

end Simulation

end SnapshotQuery
