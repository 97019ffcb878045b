import SnapshotQuery.CommandLine.Program
import SnapshotQuery.Proofs.Simulation.Rounds

/-!
# What a simulation reports

A simulation runs from round to round until a result is current, its rows are
brought over, or the budget is used up.  So its report can be told from the
numbers of rows, the number of writes and the budget.
-/

namespace SnapshotQuery

namespace Simulation

open Service

/-- The version of the table before the query is submitted. -/
def seeded (simulation : Simulation) : Nat := if 0 < simulation.rows then 1 else 0

/-- How many attempts in a row are overtaken by their hooks if each refill leaves so many rows. -/
def overtaken (simulation : Simulation) (size : Nat) : Nat :=
  if 0 < size then simulation.writes else min simulation.writes simulation.seeded

/-- The rows that an attempt finds after so many refills. -/
def rowsSeen (simulation : Simulation) (size refills : Nat) : Nat :=
  if refills = 0 then simulation.rows else size

/-- The report of a simulation whose stale results are all computed again. -/
def reportOf (simulation : Simulation) (size : Nat) : SimulationReport :=
  let stale := simulation.overtaken size
  let attempts := simulation.policy.maxRetries?.elim stale (min stale) + 1
  let version :=
    simulation.seeded + simulation.policy.maxRetries?.elim stale fun limit => min stale (limit + 1)
  { outcome :=
      if ∀ limit ∈ simulation.policy.maxRetries?, stale ≤ limit then
        .ok (min (simulation.rowsSeen size stale) 10)
      else .error (.unreachableVersion attempts (version - 1) version)
    attempts := attempts
    version := version }

variable {simulation : Simulation} {config : Config} {workers number count size : Nat}
  {service : Service}

theorem overtaken_iff (steady : ∀ attempt, simulation.rowsAfter attempt = size) (refills : Nat) :
    simulation.Overtaken (refills + 1) (simulation.rowsSeen size refills) ↔
      refills < simulation.overtaken size := by
  rw [Overtaken, steady, rowsSeen, overtaken, seeded]
  split_ifs <;> omega

theorem panicSince_of_calm (calm : service.observations.filterMap Observation.panic? = [])
    (earlier : Service) : service.panicSince earlier = none := by
  have recent := (List.take_sublist (service.observations.length - earlier.observations.length)
    service.observations).filterMap Observation.panic?
  rw [calm, List.sublist_nil] at recent
  rw [panicSince, recent, List.getLast?_nil]

/-- Without a panic the run goes on after a message. -/
theorem Round.runUntilIdle (round : simulation.Round config workers number count service)
    {after : Service} (processed : service.settle.process? ⟨1⟩ = some after)
    {outcome : Option (Except QueryError Nat)} (calm : heard after.observations = (outcome, []))
    (bound : Nat) :
    runUntilIdle ⟨1⟩ (bound + 1) service = Service.runUntilIdle ⟨1⟩ bound after := by
  have live : service.liveRequests ⟨1⟩ = 1 := by
    simp [liveRequests, origin?, round.origins, settings]
  have waits : service.process? ⟨1⟩ = none := by
    simp [process?, origin?, round.origins, settings]
  have calm : after.panicSince service = none := panicSince_of_calm (congrArg Prod.snd calm) _
  simp [Service.runUntilIdle, live, waits, processed, calm]

theorem Finished.runUntilIdle {outcome : Except QueryError Nat} {attempts : Nat}
    {version : VersionStamp} (finished : Finished outcome attempts version service) (bound : Nat) :
    runUntilIdle ⟨1⟩ bound service = service := by
  cases bound with
  | zero => rfl
  | succ bound => rw [Service.runUntilIdle, if_pos finished.idle]

section Reports

variable (size : Nat)

theorem reportOf_converged
    (within : ∀ limit ∈ simulation.policy.maxRetries?, simulation.overtaken size ≤ limit) :
    simulation.reportOf size =
      { outcome := .ok (min (simulation.rowsSeen size (simulation.overtaken size)) 10)
        attempts := simulation.overtaken size + 1
        version := simulation.seeded + simulation.overtaken size } := by
  rw [reportOf, if_pos within]
  cases budget : simulation.policy.maxRetries? with
  | none => rfl
  | some limit =>
      have least := within limit budget
      simp only [Option.elim_some]
      rw [Nat.min_eq_left least, Nat.min_eq_left (Nat.le_succ_of_le least)]

theorem reportOf_failed {limit : Nat} (budget : simulation.policy.maxRetries? = some limit)
    (beyond : limit < simulation.overtaken size) :
    simulation.reportOf size =
      { outcome := .error (.unreachableVersion (limit + 1) (simulation.seeded + limit)
          (simulation.seeded + limit + 1))
        attempts := limit + 1
        version := simulation.seeded + limit + 1 } := by
  have outside : ¬ ∀ limit ∈ simulation.policy.maxRetries?, simulation.overtaken size ≤ limit :=
    fun within => absurd (within limit budget) (Nat.not_le.mpr beyond)
  rw [reportOf, if_neg outside]
  simp only [budget, Option.elim_some]
  rw [Nat.min_eq_right (Nat.le_of_lt beyond), Nat.min_eq_right beyond]
  rfl

/-- The query converges if the budget outlasts the hooks, on the rows of the last refill, and no
other error than the one of a spent budget ends it. -/
theorem outcome_reportOf :
    ((∃ found, (simulation.reportOf size).outcome = .ok found) ↔
      ∀ limit ∈ simulation.policy.maxRetries?, simulation.overtaken size ≤ limit) ∧
    (∀ found, (simulation.reportOf size).outcome = .ok found →
      found = min (simulation.rowsSeen size (simulation.overtaken size)) 10) ∧
    ∀ error, (simulation.reportOf size).outcome = .error error →
      error.code = "AERO_UNREACHABLE_VERSION" := by
  by_cases within : ∀ limit ∈ simulation.policy.maxRetries?, simulation.overtaken size ≤ limit
  · rw [reportOf_converged size within]
    refine ⟨iff_of_true ⟨_, rfl⟩ within, ?_, nofun⟩
    rintro _ ⟨⟩
    rfl
  · obtain ⟨limit, budget, beyond⟩ : ∃ limit, simulation.policy.maxRetries? = some limit ∧
        limit < simulation.overtaken size := by simpa using within
    rw [reportOf_failed size budget beyond]
    refine ⟨iff_of_false nofun within, nofun, ?_⟩
    rintro _ ⟨⟩
    rfl

end Reports

/-- All refills are of one size, and the query runs under the limit of the simulation. -/
structure Steady (simulation : Simulation) (config : Config) (workers size : Nat) : Prop where
  refills : ∀ attempt, simulation.rowsAfter attempt = size
  limited : config.simulation.maxBackgroundHookRuns = some simulation.writes
  positive : 0 < workers
  rows : simulation.rows ≤ UInt32.size
  size : size ≤ UInt32.size

theorem Steady.rowsSeen_le (steady : simulation.Steady config workers size) (refills : Nat) :
    simulation.rowsSeen size refills ≤ UInt32.size := by
  rw [rowsSeen]
  split
  · exact steady.rows
  · exact steady.size

theorem rowsSeen_pos {refills : Nat} (stale : refills < simulation.overtaken size)
    (some : 0 < simulation.rows) : 0 < simulation.rowsSeen size refills := by
  rw [overtaken, seeded] at stale
  rw [rowsSeen]
  split_ifs at * <;> omega

/-- The rounds go on until a result is current or the budget is used up. -/
theorem Steady.runUntilIdle (steady : simulation.Steady config workers size)
    (lost : config.reconcileMode = .rederive →
      0 < simulation.rows ∨ simulation.overtaken size = 0) (bound : Nat) :
    ∀ {refills : Nat} {service : Service},
      simulation.overtaken size < refills + bound → refills ≤ simulation.overtaken size →
      (∀ limit ∈ simulation.policy.maxRetries?, refills ≤ limit) →
      simulation.Round config workers (refills + 1) (simulation.rowsSeen size refills) service →
      service.store.authority.current = simulation.seeded + refills →
      Finished (simulation.reportOf size).outcome (simulation.reportOf size).attempts
        (simulation.reportOf size).version (Service.runUntilIdle ⟨1⟩ bound service) := by
  induction bound with
  | zero => omega
  | succ bound inductionHypothesis =>
      intro refills service within few budget round current
      have small := steady.rowsSeen_le refills
      have stale := overtaken_iff steady.refills refills
      rcases Nat.lt_or_eq_of_le few with more | rfl
      · have kept : config.reconcileMode = .rederive → 0 < simulation.rowsSeen size refills :=
          fun mode => rowsSeen_pos more ((lost mode).resolve_right (by omega))
        by_cases spent : ∃ limit ∈ simulation.policy.maxRetries?, limit = refills
        · obtain ⟨limit, some, rfl⟩ := spent
          obtain ⟨after, processed, finished⟩ :=
            round.fails steady.positive small (stale.mpr more) kept some (Nat.le_refl _)
          rw [round.runUntilIdle processed finished.heard, finished.runUntilIdle,
            reportOf_failed size some more]
          rw [current] at finished
          exact finished
        · have allowed : ∀ limit ∈ simulation.policy.maxRetries?, refills < limit :=
            fun limit some => Nat.lt_of_le_of_ne (budget limit some)
              fun same => spent ⟨limit, some, same.symm⟩
          obtain ⟨after, processed, next, advanced⟩ :=
            round.retries steady.positive small steady.limited (stale.mpr more) kept allowed
          rw [round.runUntilIdle processed next.silent]
          rw [steady.refills] at next
          refine inductionHypothesis (by omega) more allowed next ?_
          rw [advanced, current, Nat.add_assoc]
      · obtain ⟨after, processed, finished⟩ :=
          round.converges steady.positive small (mt stale.mp (Nat.lt_irrefl _))
        rw [round.runUntilIdle processed finished.heard, finished.runUntilIdle,
          reportOf_converged size budget]
        rw [current] at finished
        exact finished

/-- Without rows at first, a result that is overtaken is brought over. -/
theorem Steady.runUntilIdle_rederived (steady : simulation.Steady config workers size)
    (mode : config.reconcileMode = .rederive) (none : simulation.rows = 0)
    (stale : 0 < simulation.overtaken size) (bound : Nat)
    (round : simulation.Round config workers 1 simulation.rows service)
    (current : service.store.authority.current = 0) :
    Finished (.ok 0) 1 1 (Service.runUntilIdle ⟨1⟩ (bound + 1) service) := by
  have changes : simulation.Overtaken 1 simulation.rows :=
    (overtaken_iff steady.refills 0).mpr stale
  rw [none] at round changes
  obtain ⟨after, processed, finished⟩ := round.rederives steady.positive changes mode
  rw [round.runUntilIdle processed finished.heard, finished.runUntilIdle]
  rw [current] at finished
  exact finished

section Beginnings

/-- The first attempt is dispatched as soon as the query is submitted. -/
theorem Between.submit (between : Between config workers 0 service)
    (filled : service.store.Filled count) (unused : service.requestsMade = 0)
    (limited : config.simulation.maxBackgroundHookRuns = some simulation.writes) :
    simulation.Round config workers 1 count
        (service.submit (settings config) simulation.query).1 ∧
      (service.submit (settings config) simulation.query).1.store = service.store := by
  have numbered : Between config workers 0 { service with requestsMade := 1 } := { between with }
  have submitted : Counter.submitted ≠ .attempts := by decide
  have reported := (numbered.counting submitted).report
    (.submitted ⟨1⟩ ⟨1⟩ simulation.query.policy)
  have starts : (simulation.query.request ⟨1⟩ ⟨1⟩).startAttempt =
      .ok { simulation.requestAt 0 with attempts := 1 } := by
    rw [requestAt, Nat.zero_min]
    rfl
  obtain ⟨round, store⟩ := reported.launch filled limited starts
  rw [Service.submit, unused]
  exact ⟨{ round with }, store⟩

/-- The table is filled before the query is submitted. -/
theorem write_refill (rows : Nat) :
    ∃ store trail report,
      (Service.new schema).write (refill rows) =
        ({ Service.new schema with store, trail }, report) ∧
      (Store.new schema).Turns store rows (0 < rows) ∧
      ((∃ version changes, report.commit = .committed version changes) ∨
        ∃ version, report.commit = .unchanged version) := by
  obtain ⟨turns, commit⟩ := Store.filled_new.refill rows
  simp only [Nat.lt_irrefl, false_or] at turns
  rcases written : (Store.new schema).write (refill rows) with ⟨store, answers, ending⟩
  rw [written] at turns commit
  have fresh : (Service.new schema).store = Store.new schema := rfl
  simp only [Service.write, fresh, written]
  rcases commit with ⟨version, changes, rfl⟩ | ⟨version, rfl⟩
  · exact ⟨store, _, _, rfl, turns, .inl ⟨version, changes, rfl⟩⟩
  · exact ⟨store, _, _, rfl, turns, .inr ⟨version, rfl⟩⟩

/-- The service that the query is submitted to. -/
def setUp (config : Config) (workers : Nat) (store : Store) (trail : List Event) : Service :=
  ((({ Service.new schema with store, trail } : Service).addDispatcher "simulation" workers
    none).1.addOrigin (pool workers workers []) config).1

theorem between_setUp (config : Config) (workers : Nat) (store : Store) (trail : List Event) :
    Between config workers 0 (setUp config workers store trail) :=
  ⟨rfl, rfl, rfl, rfl, rfl, ⟨.zero, rfl, rfl⟩, rfl⟩

theorem runQuery_eq_ok (simulation : Simulation) (config : Config) (workers : Nat) (store : Store)
    (trail : List Event) {report : SimulationReport}
    (finished : Finished report.outcome report.attempts report.version
      (Service.runUntilIdle ⟨1⟩ (simulation.writes + 2)
        ((setUp config workers store trail).submit (settings config) simulation.query).1)) :
    ∃ last, simulation.runQuery config workers { Service.new schema with store, trail } =
      (last, .ok report) := by
  let fresh : Service := { Service.new schema with store, trail }
  have named : fresh.addDispatcher "simulation" workers none =
      ((fresh.addDispatcher "simulation" workers none).1, pool workers workers []) := rfl
  have owned : (fresh.addDispatcher "simulation" workers none).1.addOrigin
      (pool workers workers []) config = (setUp config workers store trail, settings config) := rfl
  rw [runQuery, named]
  simp only [owned]
  rw [show (settings config).id = ⟨1⟩ from rfl, finished.delivered]
  simp only
  rw [show (settings config).registry = ⟨1⟩ from rfl, finished.attempts, finished.version]
  exact ⟨_, rfl⟩

/-- A simulation begins with its first round, and reports how the last one ends. -/
theorem run_eq_ok (simulation : Simulation) {config : Config}
    (constructible : config.maxWorkers ≤ Dispatcher.mostWorkers) :
    ∃ started,
      simulation.Round (config.withBackgroundHookRuns simulation.writes) (max 1 config.maxWorkers)
        1 simulation.rows started ∧
      started.store.authority.current = simulation.seeded ∧
      ∀ report : SimulationReport,
        Finished report.outcome report.attempts report.version
          (Service.runUntilIdle ⟨1⟩ (simulation.writes + 2) started) →
        ∃ last, simulation.run config = (last, .ok report) := by
  let limited := config.withBackgroundHookRuns simulation.writes
  have workers : Dispatcher.workersFor limited = .ok (max 1 config.maxWorkers) := by
    have few : max 1 config.maxWorkers ≤ Dispatcher.mostWorkers :=
      Nat.max_le.mpr ⟨by decide, constructible⟩
    exact if_pos few
  obtain ⟨store, trail, ⟨answers, ending⟩, written, turns, commit⟩ := write_refill simulation.rows
  have between := between_setUp limited (max 1 config.maxWorkers) store trail
  obtain ⟨round, unchanged⟩ := between.submit turns.filled rfl rfl
  refine ⟨_, round, ?_, fun report finished => ?_⟩
  · rw [unchanged, seeded]
    split
    · exact turns.next ‹_›
    · exact turns.same ‹_›
  · have runs : simulation.run config =
        simulation.runQuery limited (max 1 config.maxWorkers)
          { Service.new schema with store, trail } := by
      rcases commit with ⟨version, changes, rfl⟩ | ⟨version, rfl⟩ <;>
        simp only [Simulation.run, written, limited, workers]
    obtain ⟨last, ended⟩ := simulation.runQuery_eq_ok limited _ store trail finished
    exact ⟨last, runs.trans ended⟩

end Beginnings

section Runs

variable (simulation) (config)

/-- Unless stale results are brought over, the report tells what the attempts came to. -/
theorem run_eq_reportOf {size : Nat}
    (constructible : config.maxWorkers ≤ Dispatcher.mostWorkers)
    (refills : ∀ attempt, simulation.rowsAfter attempt = size)
    (rows : simulation.rows ≤ UInt32.size) (refilled : size ≤ UInt32.size)
    (lost : config.reconcileMode = .rederive →
      0 < simulation.rows ∨ simulation.overtaken size = 0) :
    ∃ last, simulation.run config = (last, .ok (simulation.reportOf size)) := by
  obtain ⟨started, round, current, runs⟩ := simulation.run_eq_ok constructible
  have steady : simulation.Steady (config.withBackgroundHookRuns simulation.writes)
      (max 1 config.maxWorkers) size :=
    ⟨refills, rfl, Nat.le_max_left 1 _, rows, refilled⟩
  have enough : simulation.overtaken size < 0 + (simulation.writes + 2) := by
    have few : simulation.overtaken size ≤ simulation.writes := by
      rw [overtaken]
      split
      · exact Nat.le_refl _
      · exact Nat.min_le_left _ _
    omega
  exact runs _ (steady.runUntilIdle lost _ enough (Nat.zero_le _) (fun _ _ => Nat.zero_le _) round
    current)

theorem run_eq_rederived {size : Nat}
    (constructible : config.maxWorkers ≤ Dispatcher.mostWorkers)
    (refills : ∀ attempt, simulation.rowsAfter attempt = size) (refilled : size ≤ UInt32.size)
    (mode : config.reconcileMode = .rederive) (none : simulation.rows = 0)
    (stale : 0 < simulation.overtaken size) :
    ∃ last, simulation.run config = (last, .ok ⟨.ok 0, 1, 1⟩) := by
  obtain ⟨started, round, current, runs⟩ := simulation.run_eq_ok constructible
  have steady : simulation.Steady (config.withBackgroundHookRuns simulation.writes)
      (max 1 config.maxWorkers) size :=
    ⟨refills, rfl, Nat.le_max_left 1 _, none ▸ Nat.zero_le _, refilled⟩
  have unseeded : simulation.seeded = 0 := by
    rw [seeded, none]
    rfl
  exact runs _ (steady.runUntilIdle_rederived mode none stale _ round (current.trans unseeded))

end Runs

end Simulation

namespace Program

/-- The configuration that a simulation runs under. -/
def Loads (arguments : SimulateArguments) (content : FileContent) (config : Config) : Prop :=
  match arguments.config with
  | none => config = .default
  | some path => Config.ofFile path content = .ok config

/-- The configuration with the mode that was asked for. -/
def effective (arguments : SimulateArguments) (config : Config) : Config :=
  { config with
    reconcileMode := if arguments.rederive then .rederive else config.reconcileMode }

variable {arguments : SimulateArguments} {content : FileContent} {config : Config}

theorem simulateWith_of_run (journal : Journal) {draw : Nat → Nat → Nat} {last : Service}
    {report : SimulationReport}
    (ran : (simulation arguments (effective arguments config) draw).run
      (effective arguments config) = (last, .ok report)) :
    ∃ final, simulateWith journal arguments config draw =
      (respond final report.toValue, .ok ()) := by
  have chosen :
      (if arguments.rederive then { config with reconcileMode := .rederive } else config) =
        effective arguments config := by
    rw [effective]
    split <;> rfl
  simp only [simulateWith, chosen, ran]
  exact ⟨_, rfl⟩

theorem simulate_of_run (journal : Journal) {draw : Nat → Nat → Nat} {last : Service}
    {report : SimulationReport} (loaded : Loads arguments content config)
    (ran : (simulation arguments (effective arguments config) draw).run
      (effective arguments config) = (last, .ok report)) :
    ∃ final, simulate journal arguments content draw =
      (respond final report.toValue, .ok ()) := by
  rw [Loads] at loaded
  rw [simulate]
  cases path : arguments.config with
  | none =>
      simp only [path] at loaded
      subst loaded
      exact simulateWith_of_run journal ran
  | some path =>
      simp only [path] at loaded
      simp only [loadConfig, loaded]
      exact simulateWith_of_run _ ran

/-- The report of a simulation with refills of one size, from its arguments and its configuration.
It always has one. -/
theorem simulate_closed_form (journal : Journal) (draw : Nat → Nat → Nat)
    (loaded : Loads arguments content config)
    (constructible : config.maxWorkers ≤ Dispatcher.mostWorkers)
    (steady : arguments.randomWrites = false) (rows : arguments.rows < UInt32.size)
    (refills : arguments.rowsPerWrite < UInt32.size) :
    let mode := if arguments.rederive then .rederive else config.reconcileMode
    let budget := (arguments.retryPolicy?.getD config.defaultRetryPolicy).maxRetries?
    let seeded := if 0 < arguments.rows then 1 else 0
    let stale :=
      if 0 < arguments.rowsPerWrite then arguments.writes else min arguments.writes seeded
    ∃ (final : Journal) (report : SimulationReport),
      simulate journal arguments content draw = (respond final report.toValue, .ok ()) ∧
      if mode = .rederive ∧ arguments.rows = 0 ∧ 0 < stale then report = ⟨.ok 0, 1, 1⟩
      else
        report.attempts = budget.elim stale (min stale) + 1 ∧
        report.version = seeded + budget.elim stale (fun limit => min stale (limit + 1)) ∧
        ((∃ found, report.outcome = .ok found) ↔ ∀ limit ∈ budget, stale ≤ limit) ∧
        (∀ found, report.outcome = .ok found →
          found = min (if stale = 0 then arguments.rows else arguments.rowsPerWrite) 10) ∧
        ∀ error, report.outcome = .error error → error.code = "AERO_UNREACHABLE_VERSION" := by
  intro mode budget seeded stale
  let planned := simulation arguments (effective arguments config) draw
  have sizes : ∀ attempt, planned.rowsAfter attempt = arguments.rowsPerWrite :=
    fun attempt => if_neg (by simp [steady])
  by_cases emptied : mode = .rederive ∧ arguments.rows = 0 ∧ 0 < stale
  · obtain ⟨last, ran⟩ := planned.run_eq_rederived (effective arguments config) constructible sizes
      (Nat.le_of_lt refills) emptied.1 emptied.2.1 emptied.2.2
    obtain ⟨final, responded⟩ := simulate_of_run journal loaded ran
    exact ⟨final, _, responded, by rw [if_pos emptied]⟩
  · have lost : mode = .rederive → 0 < planned.rows ∨ stale = 0 := by
      intro rederives
      by_contra gone
      obtain ⟨none, some⟩ := not_or.mp gone
      exact emptied ⟨rederives, Nat.eq_zero_of_not_pos none, Nat.pos_of_ne_zero some⟩
    obtain ⟨last, ran⟩ := planned.run_eq_reportOf (effective arguments config) constructible sizes
      (Nat.le_of_lt rows) (Nat.le_of_lt refills) lost
    obtain ⟨final, responded⟩ := simulate_of_run journal loaded ran
    refine ⟨final, _, responded, ?_⟩
    rw [if_neg emptied]
    exact ⟨rfl, rfl, Simulation.outcome_reportOf arguments.rowsPerWrite⟩

/-- A hook that refills the table once is outlasted by one retry. -/
theorem simulate_closed_form_of_one_write :
    ∃ (final : Journal) (report : SimulationReport),
      simulate .initial ⟨none, 10, 1, 3, false, some .maxRetry, 1, false⟩ .absent
          (fun _ most => most) =
        (respond final report.toValue, .ok ()) ∧
      report.outcome = .ok 3 ∧ report.attempts = 2 ∧ report.version = 2 := by
  obtain ⟨final, report, responded, attempts, version, converges, found, -⟩ :=
    @simulate_closed_form ⟨none, 10, 1, 3, false, some .maxRetry, 1, false⟩ .absent .default
      .initial (fun _ most => most) rfl (by decide) rfl (by decide) (by decide)
  obtain ⟨count, outcome⟩ := converges.mpr (by rintro _ ⟨⟩; decide)
  have three : count = 3 := found count outcome
  exact ⟨final, report, responded, three ▸ outcome, attempts, version⟩

end Program

end SnapshotQuery
