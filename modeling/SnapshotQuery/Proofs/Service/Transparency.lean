import SnapshotQuery.Proofs.Service.Evaluation
import SnapshotQuery.Proofs.Service.Proceedings
import SnapshotQuery.Proofs.Store.Refusals

/-!
# Calls that others may come before

Before each call of the store others may write, collect, cancel and close, but
the store itself answers.  Then an attempt fails only for a reason of its own, and
rows whose version is kept retained are handed over, computed again, or given up
because the policy says so.
-/

namespace SnapshotQuery

/-- Others act before a call without a panic, and the store answers it. -/
structure Fault.Transparent (fault : Fault) : Prop where
  calm : Calm fault.before
  error : fault.error = .none
  version : fault.version = .none
  unpinned : fault.unpinned = .none

/-- What a policy makes, after so many attempts, of rows that can be brought to any later
version. -/
inductive Store.Resolved (store : Store) (policy : RetryPolicy) (attempts : Nat) :
    Reconciliation → Prop
  | converged {view} (shows : store.Shows view.rows view.snapshot) :
      Resolved store policy attempts (.converged view)
  | rederived {view} (shows : store.Shows view.rows view.snapshot) :
      Resolved store policy attempts (.rederived view)
  | retried {snapshot current} (stale : snapshot ≠ current)
      (allowed : policy.allows (attempts - 1) = true) :
      Resolved store policy attempts (.retry snapshot current)
  | unreachable {snapshot current} (stale : snapshot ≠ current)
      (spent : policy.allows (attempts - 1) = false) :
      Resolved store policy attempts (.giveUp (.unreachableVersion attempts snapshot current))
  | poisoned (poisoned : store.poisoned = true) :
      Resolved store policy attempts (.giveUp (.store .lockPoisoned))

namespace Service

/-- Nothing but transparent faults waits. -/
def Transparent (service : Service) : Prop :=
  ∀ method, ∀ fault ∈ service.faults method, fault.Transparent

/-- What others may do while a call is made. -/
structure Meanwhile (before after : Service) : Prop where
  interlude : Interlude [] before after
  exchange : Exchange [] [] before after
  proceeds : Proceeds [] before after
  views : after.views = before.views

/-- Why an attempt fails. -/
inductive Warrants (service : Service) (attempt : Attempt) : QueryError → Prop
  | invalid {fault} (check : attempt.predicate.check service.store.schema = .error fault) :
      Warrants service attempt (.store (.invalidPredicate (fault.reason service.store.schema.name)))
  | poisoned (poisoned : service.store.poisoned = true) :
      Warrants service attempt (.store .lockPoisoned)
  | panicked {hook run text} (carried : attempt.hook = some hook)
      (own : run.request = attempt.request ∧ run.attempt = attempt.number)
      (ran : .hookRan attempt.label run ∈ service.observations) (panics : .panic text ∈ hook run) :
      Warrants service attempt (.workerPanicked (text.getD "unknown panic"))
  | closed (shut : service.Shut attempt.dispatcher) : Warrants service attempt .dispatcherClosed

/-- What an attempt comes to: rows of a valid predicate with a snapshot of their version, or an
error for a reason. -/
inductive Vouched (service : Service) (attempt : Attempt) :
    Except QueryError RowSet → Option Snapshot → Prop
  | found {rows snapshot} (valid : attempt.predicate.check service.store.schema = .ok ())
      (shows : service.store.Shows rows snapshot) :
      Vouched service attempt (.ok rows) (some snapshot)
  | failed {error} (warrants : service.Warrants attempt error) :
      Vouched service attempt (.error error) none

/-- What comes of opening a snapshot of a version that is retained. -/
inductive Opening (service : Service) (version : Option VersionStamp) :
    Service × Except CallFailure Snapshot → Prop
  | opened {asked moment snapshot} (meanwhile : service.Meanwhile asked)
      (descends : asked.store.Descends moment.store) (pinned : snapshot.isPinned = true)
      (chosen : snapshot.version = version.getD asked.store.authority.current)
      (known : snapshot.version ≤ moment.store.authority.current) :
      Opening service version (moment, .ok snapshot)
  | poisoned {asked} (poisoned : asked.store.poisoned = true) :
      Opening service version (asked, .error (.refused .lockPoisoned))

variable {service before after moment asked : Service} {attempt : Attempt}

theorem Transparent.mono (transparent : before.Transparent)
    (faults : ∀ method, after.faults method ⊆ before.faults method) : after.Transparent :=
  fun method fault waits => transparent method fault (faults method waits)

theorem Meanwhile.refl (service : Service) : service.Meanwhile service :=
  ⟨.refl service, .refl [] service, .refl service, rfl⟩

theorem Meanwhile.transparent (meanwhile : before.Meanwhile after)
    (transparent : before.Transparent) : after.Transparent :=
  transparent.mono meanwhile.proceeds.faults

theorem Meanwhile.backs (meanwhile : before.Meanwhile after) {snapshot : Snapshot}
    (backs : before.store.Backs (snapshot :: before.holdings)) :
    after.store.Backs (snapshot :: after.holdings) :=
  (meanwhile.exchange.holding [snapshot]).backs [] backs

/-- A snapshot in hand keeps its version retained whatever others do. -/
theorem Meanwhile.horizon_le (meanwhile : before.Meanwhile after) {rows : RowSet}
    {snapshot : Snapshot} (shows : before.store.Shows rows snapshot)
    (backs : before.store.Backs (snapshot :: before.holdings)) :
    after.store.horizon ≤ rows.version :=
  shows.version ▸ ((meanwhile.backs backs).retained snapshot List.mem_cons_self shows.pinned).1

section Reasons

theorem Warrants.develops {error : QueryError} (warrants : before.Warrants attempt error)
    (develops : before.Develops after) (shut : ∀ id, before.Shut id → after.Shut id) :
    after.Warrants attempt error := by
  have schema := develops.store.precedes.schema
  cases warrants with
  | invalid check =>
      rw [← schema] at check ⊢
      exact .invalid check
  | poisoned poisoned =>
      refine .poisoned (Bool.eq_true_of_not_eq_false fun sound => ?_)
      rw [develops.store.precedes.unpoisoned sound] at poisoned
      exact Bool.false_ne_true poisoned
  | panicked carried own ran panics =>
      exact .panicked carried own (develops.observations ran) panics
  | closed down => exact .closed (shut _ down)

theorem Vouched.develops {result : Except QueryError RowSet} {snapshot : Option Snapshot}
    (vouched : before.Vouched attempt result snapshot) (develops : before.Develops after)
    (shut : ∀ id, before.Shut id → after.Shut id) : after.Vouched attempt result snapshot := by
  cases vouched with
  | found valid shows =>
      exact .found (develops.store.precedes.schema ▸ valid) (shows.descends develops.store)
  | failed warrants => exact .failed (warrants.develops develops shut)

/-- A panic among actions is one of the actions. -/
theorem exists_panic_of_actAll {service : Service} {actions : List Action} {message : String}
    (panicked : (service.actAll actions).2 = some message) :
    ∃ text, .panic text ∈ actions ∧ message = text.getD "unknown panic" := by
  induction actions generalizing service with
  | nil => exact absurd panicked.symm (Option.some_ne_none message)
  | cons action rest inductionHypothesis =>
      cases calm : action.isPanic with
      | false =>
          have acted := service.act_of_calm calm
          simp only [actAll] at panicked
          generalize service.act action = result at acted panicked
          obtain ⟨moment, panic⟩ := result
          obtain rfl : panic = none := acted
          obtain ⟨text, member, same⟩ := inductionHypothesis panicked
          exact ⟨text, List.mem_cons_of_mem _ member, same⟩
      | true =>
          cases action with
          | panic text =>
              exact ⟨text, List.mem_cons_self, (Option.some.inj panicked).symm⟩
          | write | reportedWrite | collect | cancel | setToken | close =>
              exact absurd calm Bool.false_ne_true

end Reasons

section Calls

/-- The snapshots and views that are kept under names, with the pins of all snapshots. -/
def stock (service : Service) : Retention × OrderedMap String Snapshot × OrderedMap String View :=
  (service.store.retention, service.snapshots, service.views)

/-- No action touches what is kept. -/
theorem stock_act (service : Service) (action : Action) :
    (service.act action).1.stock = service.stock := by
  have written : ∀ script, (service.write script).1.stock = service.stock := by
    intro script
    have kept := (service.store.wrote_write script).kept.1
    simp only [write]
    generalize service.store.write script = result at kept
    obtain ⟨store, report⟩ := result
    simp only [stock, ← kept]
    split <;> rfl
  have set : ∀ handle, (service.setToken handle).1.stock = service.stock := by
    intro handle
    simp only [setToken]
    split <;> rfl
  cases action with
  | write script => exact written script
  | reportedWrite script attempt =>
      simp only [act]
      split
      · rename_i moment _ error same
        exact (congrArg (fun result => result.1.stock) same).symm.trans (written script)
      · rename_i moment _ _ same
        exact (congrArg (fun result => result.1.stock) same).symm.trans (written script)
  | collect =>
      simp only [act, collect]
      split
      · rename_i store report collecting
        obtain ⟨_, reclaimed⟩ := (service.store.collect_eq_ok_iff store report).mp collecting
        obtain ⟨rfl, _⟩ := Prod.mk.inj reclaimed
        rfl
      · rfl
  | cancel query =>
      simp only [act, cancelNamed]
      split
      · rename_i handle _
        have marked := set handle
        simp only [cancel]
        generalize service.setToken handle = result at marked ⊢
        obtain ⟨moment, first⟩ := result
        cases first <;> exact marked
      · rfl
  | setToken query =>
      simp only [act, setTokenNamed]
      split
      · exact set _
      · rfl
  | close dispatcher =>
      simp only [act, closeNamed]
      split <;> rfl
  | panic message => rfl

/-- What others do while a call is made is done action by action. -/
theorem Meanwhile.kept : KeptByActions Meanwhile where
  refl := .refl
  trans earlier later :=
    ⟨earlier.interlude.then later.interlude, earlier.exchange.trans later.exchange,
      earlier.proceeds.then later.proceeds, later.views.trans earlier.views⟩
  act service action :=
    ⟨service.interlude_act action, service.exchange_act action, service.proceeds_act action,
      congrArg (fun stock => stock.2.2) (service.stock_act action)⟩
  hookRan service label run :=
    ⟨Interlude.kept.hookRan service label run, Exchange.kept.hookRan service label run,
      Proceeds.kept.hookRan service label run, rfl⟩
  taken waiting :=
    ⟨Interlude.kept.taken waiting, Exchange.kept.taken waiting, Proceeds.kept.taken waiting, rfl⟩

theorem exists_interrupted (transparent : service.Transparent) (method : Method) :
    ∃ asked fault, service.interrupt method = (asked, fault, none) ∧ fault.Transparent ∧
      service.Meanwhile asked := by
  have meanwhile := Meanwhile.kept.interrupt service method
  unfold interrupt at meanwhile ⊢
  cases waiting : service.faults method with
  | nil => exact ⟨service, .none, rfl, ⟨nofun, rfl, rfl, rfl⟩, .refl service⟩
  | cons fault rest =>
      have first := transparent method fault (waiting ▸ List.mem_cons_self)
      have calm := actAll_of_calm ({ service with
        faults := fun other => if other = method then rest else service.faults other }) first.calm
      simp only [waiting] at meanwhile ⊢
      generalize actAll _ fault.before = result at meanwhile calm
      obtain ⟨asked, panic⟩ := result
      obtain rfl : panic = none := calm
      exact ⟨asked, fault, rfl, first, meanwhile⟩

/-- A call is made after others have acted. -/
theorem exists_reached (transparent : service.Transparent) (method : Method) :
    ∃ asked fault, fault.Transparent ∧ service.Meanwhile asked ∧
      ∀ {Item : Type} (call : Fault → Service → Service × Except StoreError Item),
        service.reach method call =
          ((call fault asked).1, (call fault asked).2.mapError .refused) := by
  obtain ⟨asked, fault, interrupted, honest, meanwhile⟩ := exists_interrupted transparent method
  refine ⟨asked, fault, honest, meanwhile, fun call => ?_⟩
  simp only [reach, interrupted, honest.error]

theorem exists_reachVersion (transparent : service.Transparent) :
    ∃ asked, service.Meanwhile asked ∧
      service.reachVersion = (asked, asked.store.currentVersion) := by
  obtain ⟨asked, fault, interrupted, honest, meanwhile⟩ :=
    exists_interrupted transparent .currentVersion
  refine ⟨asked, meanwhile, ?_⟩
  simp only [reachVersion, interrupted, honest.error, honest.version]

theorem exists_reachRows (transparent : service.Transparent) (snapshot : Snapshot)
    (predicate : Predicate) :
    ∃ asked, service.Meanwhile asked ∧ service.reachRows snapshot predicate =
      (asked, (asked.store.evaluate snapshot predicate).mapError .refused) := by
  obtain ⟨asked, _, _, meanwhile, reached⟩ := exists_reached transparent .evaluate
  exact ⟨asked, meanwhile, reached _⟩

theorem exists_reachImport (transparent : service.Transparent) (rows : RowSet)
    (source target : VersionStamp) :
    ∃ asked, service.Meanwhile asked ∧ service.reachImport rows source target =
      (asked, (asked.store.importRows rows source target).mapError .refused) := by
  obtain ⟨asked, _, _, meanwhile, reached⟩ := exists_reached transparent .importRows
  exact ⟨asked, meanwhile, reached _⟩

theorem exists_reachDocument (transparent : service.Transparent) (snapshot : Snapshot)
    (row : RowId) :
    ∃ asked, service.Meanwhile asked ∧ service.reachDocument snapshot row =
      (asked, (asked.store.readRow snapshot row).mapError .refused) := by
  obtain ⟨asked, _, _, meanwhile, reached⟩ := exists_reached transparent .readRow
  exact ⟨asked, meanwhile, reached _⟩

theorem exists_reachSnapshot (transparent : service.Transparent) (version : Option VersionStamp) :
    ∃ asked, service.Meanwhile asked ∧ service.reachSnapshot version =
      ((asked.openSnapshot version).1, (asked.openSnapshot version).2.mapError .refused) := by
  obtain ⟨asked, fault, honest, meanwhile, reached⟩ := exists_reached transparent .openSnapshot
  refine ⟨asked, meanwhile, (reached _).trans ?_⟩
  simp only [honest.unpinned]

theorem opening_reachSnapshot (transparent : service.Transparent) (version : Option VersionStamp)
    (retained : ∀ asked, service.Meanwhile asked →
      asked.store.Retained (version.getD asked.store.authority.current)) :
    service.Opening version (service.reachSnapshot version) := by
  obtain ⟨asked, meanwhile, reached⟩ := exists_reachSnapshot transparent version
  have opened := Store.openSnapshot_of_retained (retained asked meanwhile)
  have known := (retained asked meanwhile).2
  rw [reached, openSnapshot, opened]
  by_cases poisoned : asked.store.poisoned = true
  · rw [if_pos poisoned]
    exact .poisoned poisoned
  · rw [if_neg poisoned]
    exact .opened meanwhile (Store.Descends.start.held _) rfl rfl known

end Calls

section Evaluations

/-- A hook that panics is the reason for a failure of its attempt. -/
theorem runHook_panicked {version : VersionStamp} {message : String}
    (ran : service.runHook attempt version = (after, some message)) :
    after.Warrants attempt (.workerPanicked message) := by
  unfold runHook at ran
  cases carried : attempt.hook with
  | none =>
      rw [carried] at ran
      exact absurd (Prod.mk.inj ran).2 nofun
  | some hook =>
      simp only [carried] at ran
      generalize run_eq : HookRun.mk attempt.request attempt.number version = run at ran
      obtain ⟨text, panics, rfl⟩ := exists_panic_of_actAll (congrArg Prod.snd ran)
      have kept := Proceeds.kept.actAll (service.observe (.hookRan attempt.label run)) (hook run)
      rw [ran] at kept
      refine .panicked carried ?_ (kept.observations List.mem_cons_self) panics
      rw [← run_eq]
      exact ⟨rfl, rfl⟩

/-- An evaluation that others come between fails only for a reason. -/
theorem vouched_evaluateAttempt (transparent : service.Transparent)
    (coherent : service.store.Coherent) (backs : service.store.Backs service.holdings)
    (attempt : Attempt) :
    (service.evaluateAttempt attempt).1.Vouched attempt (service.evaluateAttempt attempt).2.result
      (service.evaluateAttempt attempt).2.snapshot := by
  have opening := opening_reachSnapshot transparent none fun asked meanwhile =>
    ⟨(meanwhile.proceeds.store.precedes.coherent coherent).horizon_le, Nat.le_refl _⟩
  have exchange := service.exchange_reachSnapshot none
  have proceeds := Proceeds.kept.reachSnapshot service none
  unfold evaluateAttempt
  generalize service.reachSnapshot none = result at opening exchange proceeds ⊢
  cases opening with
  | poisoned poisoned => exact .failed (.poisoned poisoned)
  | @opened _ opened snapshot _ _ pinned _ _ =>
      obtain ⟨asked, meanwhile, reached⟩ :=
        exists_reachRows (transparent.mono proceeds.faults) snapshot attempt.predicate
      have held : asked.store.Backs (snapshot :: asked.holdings) :=
        meanwhile.backs (exchange.backs [] backs)
      have retained := held.retained snapshot List.mem_cons_self pinned
      simp only [reached]
      cases check : attempt.predicate.check asked.store.schema with
      | error fault =>
          have invalid : (asked.release snapshot).Warrants attempt _ := .invalid check
          rw [Store.evaluate_of_invalid check]
          exact .failed invalid
      | ok =>
          rw [Store.evaluate_of_retained check retained]
          cases poisoned : asked.store.poisoned with
          | true =>
              have locked : (asked.release snapshot).Warrants attempt _ := .poisoned poisoned
              exact .failed locked
          | false =>
              have complete := asked.store.complete_rowsMatching attempt.predicate retained.2
              have hooked := Proceeds.kept.runHook asked attempt snapshot.version
              simp only [Bool.false_eq_true, if_false, Except.mapError]
              generalize ran : asked.runHook attempt snapshot.version = result at hooked
              obtain ⟨last, panic⟩ := result
              cases panic with
              | none =>
                  exact .found (hooked.store.precedes.schema ▸ check)
                    ⟨pinned, rfl, complete.descends hooked.store⟩
              | some message =>
                  refine .failed ((runHook_panicked ran).develops ?_ fun _ => id)
                  exact ((last.proceeds_release snapshot).then
                    (proceeds_report _ _ rfl)).toDevelops

end Evaluations

section Decisions

variable {mode : ReconcileMode} {rows : RowSet} {policy : RetryPolicy} {attempts : Nat}
  {snapshot : Snapshot}

/-- Complete rows are handed over at their version if it stays retained. -/
theorem resolved_handOverAs (transparent : service.Transparent)
    (complete : service.store.Complete rows)
    (retained : ∀ asked, service.Meanwhile asked → asked.store.horizon ≤ rows.version)
    {done : View → Reconciliation}
    (shown : ∀ view store, Store.Shows store view.rows view.snapshot →
      store.Resolved policy attempts (done view)) :
    (service.handOverAs rows rows.version done).1.store.Resolved policy attempts
      (service.handOverAs rows rows.version done).2 := by
  have opening := opening_reachSnapshot transparent (some rows.version) fun asked meanwhile =>
    ⟨retained asked meanwhile, (complete.descends meanwhile.proceeds.store).known⟩
  simp only [handOverAs, handOver, if_true]
  generalize service.reachSnapshot (some rows.version) = result at opening
  cases opening with
  | opened meanwhile descends pinned chosen _ =>
      exact shown _ _ ⟨pinned, chosen,
        (complete.descends meanwhile.proceeds.store).descends descends⟩
  | poisoned poisoned => exact .poisoned poisoned

theorem resolved_onMismatch (store : Store) (policy : RetryPolicy) (attempts : Nat)
    {version current : VersionStamp} (stale : version ≠ current) :
    store.Resolved policy attempts (policy.onMismatch version current attempts false) := by
  simp only [RetryPolicy.onMismatch, RetryPolicy.decide, Bool.not_false, Bool.true_and]
  cases allowed : policy.allows (attempts - 1) with
  | true => exact .retried stale allowed
  | false => exact .unreachable stale allowed

/-- Rows whose snapshot is in hand are handed over, computed again, or given up because the policy
says so, unless the lock is poisoned. -/
theorem resolved_reconcile (transparent : service.Transparent)
    (coherent : service.store.Coherent) (shows : service.store.Shows rows snapshot)
    (backs : service.store.Backs (snapshot :: service.holdings)) :
    (service.reconcile mode rows policy attempts false).1.store.Resolved policy attempts
      (service.reconcile mode rows policy attempts false).2 := by
  obtain ⟨asked, meanwhile, answered⟩ := exists_reachVersion transparent
  have there := shows.descends meanwhile.proceeds.store
  have held := meanwhile.backs backs
  have honest := meanwhile.transparent transparent
  simp only [reconcile, answered]
  by_cases fresh : rows.version = asked.store.currentVersion
  · rw [if_pos fresh, ← fresh]
    exact resolved_handOverAs honest there.complete
      (fun later between => between.horizon_le there held) fun _ _ => .converged
  · rw [if_neg fresh]
    cases mode with
    | strict => exact resolved_onMismatch _ _ _ fresh
    | rederive =>
        obtain ⟨importing, between, imported⟩ :=
          exists_reachImport honest rows rows.version asked.store.currentVersion
        have kept := there.descends between.proceeds.store
        have current : asked.store.currentVersion = asked.store.authority.current :=
          (meanwhile.proceeds.store.precedes.coherent coherent).published
        have ordered : rows.version ≤ asked.store.currentVersion :=
          current ▸ there.complete.known
        have known : asked.store.currentVersion ≤ importing.store.authority.current :=
          current ▸ between.proceeds.store.precedes.current_le
        have above := between.horizon_le there held
        simp only [imported, Store.importRows_of_retained ordered ⟨above, kept.complete.known⟩
          ⟨Nat.le_trans above ordered, known⟩]
        cases poisoned : importing.store.poisoned with
        | true => exact .poisoned poisoned
        | false =>
            have complete : importing.store.Complete ⟨asked.store.currentVersion,
                rows.rows.filter fun row =>
                  (importing.store.documentAt? row asked.store.currentVersion).isSome⟩ :=
              ⟨known, fun _ row member => (List.mem_filter.mp member).2⟩
            simp only [Bool.false_eq_true, if_false, Except.mapError]
            split
            · refine resolved_handOverAs (between.transparent honest) complete ?_
                fun _ _ => .rederived
              intro later further
              exact Nat.le_trans (further.horizon_le kept (between.backs held)) ordered
            · exact resolved_onMismatch _ _ _ fresh

end Decisions

end Service

end SnapshotQuery
