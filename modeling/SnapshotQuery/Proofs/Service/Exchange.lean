import SnapshotQuery.Proofs.Service.Attempts
import SnapshotQuery.Proofs.Store.Backing
import SnapshotQuery.Service.Setup

/-!
# Snapshots change hands

Every copy of a snapshot is in hand or with the service: under a name, in a view
that was kept, with an attempt or in a mailbox.  Each call gives some copies away
and takes others up, and the store goes on backing all of them.
-/

namespace SnapshotQuery

/-- The snapshots that go with a phase. -/
def Phase.snapshots (phase : Phase) : List Snapshot :=
  phase.outcome?.elim [] fun outcome => outcome.snapshot.toList

/-- The attempt is accepted and its request may not be dispatched again. -/
def Phase.isFlying : Phase → Bool
  | queued | admitted | cleared | abandoned | finished _ => true
  | released _ | checked _ => false

def Origin.snapshots (origin : Origin) : List Snapshot :=
  origin.mailbox.filterMap Message.snapshot?

/-- The snapshots of a result that is handed over. -/
def Reconciliation.snapshots (outcome : Reconciliation) : List Snapshot :=
  outcome.view?.toList.map View.snapshot

/-- The requests of those attempts that a dispatcher has accepted and not released. -/
def flyingAmong (attempts : List Attempt) (id : DispatcherId) : List RequestId :=
  (attempts.filter fun attempt => decide (attempt.dispatcher = id) && attempt.phase.isFlying).map
    fun attempt => attempt.request

@[simp]
theorem flyingAmong_append (front back : List Attempt) (id : DispatcherId) :
    flyingAmong (front ++ back) id = flyingAmong front id ++ flyingAmong back id := by
  simp [flyingAmong]

@[simp]
theorem flyingAmong_cons (attempt : Attempt) (rest : List Attempt) (id : DispatcherId) :
    flyingAmong (attempt :: rest) id =
      (if attempt.dispatcher = id ∧ attempt.phase.isFlying = true then [attempt.request] else []) ++
        flyingAmong rest id := by
  by_cases flies : attempt.dispatcher = id ∧ attempt.phase.isFlying = true
  · simp [flyingAmong, flies]
  · have grounded : (decide (attempt.dispatcher = id) && attempt.phase.isFlying) = false := by
      simpa using flies
    simp only [flyingAmong, List.filter_cons, grounded, if_neg flies]
    rfl

@[simp]
theorem flyingAmong_nil (id : DispatcherId) : flyingAmong [] id = [] :=
  rfl

theorem exists_of_mem_flyingAmong {attempts : List Attempt} {id : DispatcherId}
    {request : RequestId} (member : request ∈ flyingAmong attempts id) :
    ∃ attempt ∈ attempts, attempt.request = request ∧ attempt.dispatcher = id ∧
      attempt.phase.isFlying = true := by
  obtain ⟨attempt, among, rfl⟩ := List.mem_map.mp member
  obtain ⟨among, flies⟩ := List.mem_filter.mp among
  obtain ⟨same, flies⟩ := Bool.and_eq_true_iff.mp flies
  exact ⟨attempt, among, rfl, of_decide_eq_true same, flies⟩

namespace Service

/-- The copies of snapshots that are with the service. -/
def holdings (service : Service) : List Snapshot :=
  service.snapshots.values ++ (service.views.values.map View.snapshot ++
    (service.attempts.flatMap (fun attempt => attempt.phase.snapshots) ++
      service.origins.flatMap Origin.snapshots))

def poolIds (service : Service) : List DispatcherId :=
  service.dispatchers.map fun pool => pool.id

/-- The dispatchers know which attempts they have accepted and not released. -/
structure Flown (service : Service) : Prop where
  inFlight : ∀ pool ∈ service.dispatchers, pool.inFlight.Perm (flyingAmong service.attempts pool.id)
  known : ∀ attempt ∈ service.attempts, attempt.dispatcher ∈ service.poolIds
  made : ∀ id ∈ service.poolIds, id.number ≤ service.dispatchersMade

/-- A dispatcher of the id is closed. -/
def Shut (service : Service) (id : DispatcherId) : Prop :=
  ∃ pool ∈ service.dispatchers, pool.id = id ∧ pool.closed = true

def originSettings (service : Service) : List OriginSettings :=
  service.origins.map fun origin => origin.settings

/-- The given snapshots are in hand before and the taken ones after; whoever has the rest, the
store backs all of them.  No attempt leaves its phase, and no origin comes or goes. -/
structure Exchange (given taken : List Snapshot) (before after : Service) : Prop where
  backs : ∀ rest, before.store.Backs (given ++ (rest ++ before.holdings)) →
    after.store.Backs (taken ++ (rest ++ after.holdings))
  flown : before.Flown → after.Flown
  shut : ∀ id, before.Shut id → after.Shut id
  poolIds : after.poolIds = before.poolIds
  originSettings : after.originSettings = before.originSettings

variable {given taken : List Snapshot} {before after : Service}

/-- The dispatchers with the attempts that are theirs. -/
def fleet (service : Service) := (service.attempts, service.dispatchers, service.dispatchersMade)

/-- What an exchange is about, apart from the store. -/
def custody (service : Service) :=
  (service.snapshots, service.views, service.origins, service.fleet)

theorem exchange_of_fleet (same : after.fleet = before.fleet)
    (originSettings : after.originSettings = before.originSettings)
    (backs : ∀ rest, before.store.Backs (given ++ (rest ++ before.holdings)) →
      after.store.Backs (taken ++ (rest ++ after.holdings))) :
    Exchange given taken before after := by
  simp only [fleet, Prod.mk.injEq] at same
  obtain ⟨attempts, dispatchers, dispatchersMade⟩ := same
  have poolIds : after.poolIds = before.poolIds := by
    simp only [Service.poolIds, dispatchers]
  refine ⟨backs, ?_, ?_, poolIds, originSettings⟩
  · rintro ⟨inFlight, known, made⟩
    refine ⟨?_, ?_, ?_⟩
    · simpa only [dispatchers, attempts] using inFlight
    · rwa [attempts, poolIds]
    · rwa [dispatchersMade, poolIds]
  · simp only [Shut, dispatchers, imp_self, implies_true]

theorem exchange_of_custody (same : after.custody = before.custody)
    (backs : ∀ held, before.store.Backs (given ++ held) → after.store.Backs (taken ++ held)) :
    Exchange given taken before after := by
  simp only [custody, Prod.mk.injEq] at same
  obtain ⟨snapshots, views, origins, fleet⟩ := same
  have attempts : after.attempts = before.attempts := congrArg Prod.fst fleet
  have holdings : after.holdings = before.holdings := by
    simp only [Service.holdings, snapshots, views, attempts, origins]
  refine exchange_of_fleet fleet ?_ ?_
  · simp only [Service.originSettings, origins]
  · intro rest earlier
    rw [holdings]
    exact backs _ earlier

/-- Snapshots only change hands. -/
theorem exchange_of_counts (same : after.fleet = before.fleet)
    (originSettings : after.originSettings = before.originSettings)
    (store : after.store = before.store)
    (counts : ∀ snapshot, (given ++ before.holdings).count snapshot =
      (taken ++ after.holdings).count snapshot) : Exchange given taken before after := by
  refine exchange_of_fleet same originSettings ?_
  intro rest backs
  rw [store]
  refine backs.perm (List.perm_iff_count.mpr fun snapshot => ?_)
  have counted := counts snapshot
  simp only [List.count_append] at counted ⊢
  omega

theorem Exchange.refl (held : List Snapshot) (service : Service) :
    Exchange held held service service :=
  exchange_of_custody rfl fun _ => id

theorem Exchange.trans {between : List Snapshot} {first middle last : Service}
    (earlier : Exchange given between first middle) (later : Exchange between taken middle last) :
    Exchange given taken first last where
  backs rest := later.backs rest ∘ earlier.backs rest
  flown := later.flown ∘ earlier.flown
  shut id := later.shut id ∘ earlier.shut id
  poolIds := later.poolIds.trans earlier.poolIds
  originSettings := later.originSettings.trans earlier.originSettings

/-- Further snapshots may be in hand all the time. -/
theorem Exchange.holding (exchange : Exchange given taken before after) (more : List Snapshot) :
    Exchange (more ++ given) (more ++ taken) before after where
  backs rest earlier := by
    have aside : ∀ held others : List Snapshot, (more ++ held ++ (rest ++ others)).Perm
        (held ++ (more ++ rest ++ others)) := by
      intro held others
      simpa [List.append_assoc] using List.perm_append_comm_assoc more held (rest ++ others)
    exact (exchange.backs (more ++ rest) (earlier.perm (aside given _))).perm (aside taken _).symm
  flown := exchange.flown
  shut := exchange.shut
  poolIds := exchange.poolIds
  originSettings := exchange.originSettings

/-- An exchange of nothing while snapshots are in hand. -/
theorem Exchange.then {last : Service} (earlier : Exchange given taken before after)
    (later : Exchange [] [] after last) : Exchange given taken before last := by
  have aside := later.holding taken
  rw [List.append_nil] at aside
  exact earlier.trans aside

section Records

variable (service : Service)

theorem exchange_report (event : Event) : Exchange [] [] service (service.report event) :=
  exchange_of_custody rfl fun _ => id

theorem exchange_observe (observation : Observation) :
    Exchange [] [] service (service.observe observation) :=
  exchange_of_custody rfl fun _ => id

theorem exchange_count (registry : RegistryId) (counter : Counter) :
    Exchange [] [] service (service.count registry counter) :=
  exchange_of_custody rfl fun _ => id

theorem exchange_release (snapshot : Snapshot) :
    Exchange [snapshot] [] service (service.release snapshot) :=
  exchange_of_custody rfl fun _ => Store.Backs.release

theorem exchange_releaseAll (snapshots : List Snapshot) :
    Exchange snapshots [] service (service.releaseAll snapshots) := by
  induction snapshots generalizing service with
  | nil => exact .refl [] service
  | cons snapshot rest inductionHypothesis =>
      have released : Exchange (snapshot :: rest) rest service (service.release snapshot) :=
        exchange_of_custody rfl fun _ => Store.Backs.release
      exact released.trans (inductionHypothesis _)

theorem originSettings_updateOrigin (id : ContextId) {change : Origin → Origin}
    (settings : ∀ origin, (change origin).settings = origin.settings) :
    (service.updateOrigin id change).originSettings = service.originSettings := by
  simp only [Service.originSettings, updateOrigin, List.map_map]
  apply List.map_congr_left
  intro origin _
  simp only [Function.comp_apply]
  split
  · exact settings origin
  · rfl

/-- A change of an origin that keeps its settings and the snapshots in its mailbox. -/
theorem exchange_updateOrigin (id : ContextId) {change : Origin → Origin}
    (settings : ∀ origin, (change origin).settings = origin.settings)
    (snapshots : ∀ origin, (change origin).snapshots = origin.snapshots) :
    Exchange [] [] service (service.updateOrigin id change) := by
  have holdings : (service.updateOrigin id change).holdings = service.holdings := by
    simp only [Service.holdings, updateOrigin, List.flatMap_map]
    congr 4
    funext origin
    split
    · exact snapshots origin
    · rfl
  refine exchange_of_fleet rfl (service.originSettings_updateOrigin id settings) ?_
  intro rest backs
  rw [holdings]
  exact backs

theorem exchange_post (id : ContextId) {message : Message} (plain : message.snapshot? = none) :
    Exchange [] [] service (service.post id message) :=
  service.exchange_updateOrigin id (fun _ => rfl) fun origin => by
    simp [Origin.snapshots, plain]

theorem exchange_removeLive (id : ContextId) (removed : RequestId) :
    Exchange [] [] service (service.removeLive id removed) :=
  service.exchange_updateOrigin id (fun _ => rfl) fun _ => rfl

theorem exchange_insertLive (id : ContextId) (added : Request) :
    Exchange [] [] service (service.insertLive id added) :=
  service.exchange_updateOrigin id (fun _ => rfl) fun _ => rfl

theorem exchange_putBack (id : ContextId) (request : Request) :
    Exchange [] [] service (service.putBack id request) := by
  unfold putBack
  split
  · exact exchange_of_custody rfl fun _ backs => backs
  · exact service.exchange_insertLive id request

theorem exchange_keepView (name : String) (view : View) :
    Exchange [view.snapshot] [] service (service.keepView name view) := by
  refine Exchange.trans ?_ (exchange_releaseAll _ _)
  have replaced : (view.snapshot :: service.views.values.map View.snapshot).Perm
      ((service.views.find? name).toList.map View.snapshot ++
        (service.views.insert name view).values.map View.snapshot) := by
    have before := (service.views.values_perm name).map View.snapshot
    have after := (service.views.values_insert_perm name view).map View.snapshot
    rw [List.map_append] at before
    exact ((before.cons view.snapshot).trans List.perm_middle.symm).trans
      (after.symm.append_left _)
  refine exchange_of_counts rfl rfl rfl fun snapshot => ?_
  have same := replaced.count_eq snapshot
  simp only [Service.holdings, List.count_append, List.count_cons, List.cons_append,
    List.nil_append] at same ⊢
  omega

end Records

section Actions

variable (service : Service)

theorem exchange_write (script : Script) : Exchange [] [] service (service.write script).1 := by
  have wrote := service.store.wrote_write script
  unfold write
  generalize service.store.write script = written at wrote
  obtain ⟨store, answers, commit⟩ := written
  cases commit <;> exact exchange_of_custody rfl fun _ backs => backs.wrote wrote

theorem exchange_collect : Exchange [] [] service service.collect.1 := by
  unfold collect
  cases collecting : service.store.collect with
  | error refusal => exact .refl [] service
  | ok result => exact exchange_of_custody rfl fun _ backs => backs.collect collecting

theorem exchange_openSnapshot (version : Option VersionStamp) :
    Exchange [] (service.openSnapshot version).2.toOption.toList service
      (service.openSnapshot version).1 := by
  unfold openSnapshot
  cases opening : service.store.openSnapshot version with
  | error refusal => exact .refl [] service
  | ok result => exact exchange_of_custody rfl fun _ backs => backs.openSnapshot opening

theorem exchange_wake (handle : Handle) : Exchange [] [] service (service.wake handle) := by
  have taken : Exchange [] [] service
      { service with wakeUps := service.wakeUps.erase handle } :=
    exchange_of_custody rfl fun _ => id
  exact taken.trans (exchange_post _ _ rfl)

theorem exchange_setToken (handle : Handle) :
    Exchange [] [] service (service.setToken handle).1 := by
  unfold setToken
  split
  · exact .refl [] service
  · exact exchange_of_custody rfl fun _ backs => backs

theorem exchange_cancel (handle : Handle) : Exchange [] [] service (service.cancel handle).1 := by
  have marked := service.exchange_setToken handle
  unfold cancel
  generalize service.setToken handle = result at marked
  obtain ⟨moment, first⟩ := result
  cases first with
  | true => exact marked.trans (moment.exchange_wake handle)
  | false => exact marked

theorem exchange_cancelNamed (query : String) :
    Exchange [] [] service (service.cancelNamed query).1 := by
  unfold cancelNamed
  cases service.handles.find? query with
  | none => exact .refl [] service
  | some handle => exact service.exchange_cancel handle

theorem exchange_setTokenNamed (query : String) :
    Exchange [] [] service (service.setTokenNamed query) := by
  unfold setTokenNamed
  cases service.handles.find? query with
  | none => exact .refl [] service
  | some handle => exact service.exchange_setToken handle

theorem shut_updateDispatcher {id : DispatcherId} {change : Dispatcher → Dispatcher}
    (ids : ∀ pool, (change pool).id = pool.id)
    (closed : ∀ pool, pool.closed = true → (change pool).closed = true) {other : DispatcherId}
    (shut : service.Shut other) : (service.updateDispatcher id change).Shut other := by
  obtain ⟨pool, member, same, down⟩ := shut
  refine ⟨_, List.mem_map_of_mem member, ?_, ?_⟩
  · split
    · exact (ids pool).trans same
    · exact same
  · split
    · exact closed pool down
    · exact down

theorem poolIds_updateDispatcher {id : DispatcherId} {change : Dispatcher → Dispatcher}
    (ids : ∀ pool, (change pool).id = pool.id) :
    (service.updateDispatcher id change).poolIds = service.poolIds := by
  simp only [Service.poolIds, updateDispatcher, List.map_map]
  apply List.map_congr_left
  intro pool _
  simp only [Function.comp_apply]
  split
  · exact ids pool
  · rfl

/-- A change of a dispatcher that keeps its id and the attempts in flight. -/
theorem Flown.updateDispatcher {service : Service} (flown : service.Flown) {id : DispatcherId}
    {change : Dispatcher → Dispatcher} (ids : ∀ pool, (change pool).id = pool.id)
    (inFlight : ∀ pool, (change pool).inFlight = pool.inFlight) :
    (service.updateDispatcher id change).Flown where
  inFlight pool member := by
    obtain ⟨old, oldMember, rfl⟩ := List.mem_map.mp member
    have before := flown.inFlight old oldMember
    split
    · rw [ids, inFlight]
      exact before
    · exact before
  known := by
    rw [service.poolIds_updateDispatcher ids]
    exact flown.known
  made := by
    rw [service.poolIds_updateDispatcher ids]
    exact flown.made

theorem exchange_close (id : DispatcherId) : Exchange [] [] service (service.close id) := by
  unfold close
  refine ⟨fun _ backs => backs, ?_, ?_, ?_, rfl⟩
  · intro flown
    apply flown.updateDispatcher <;> intros <;> rfl
  · intro other
    apply service.shut_updateDispatcher <;> intros <;> rfl
  · exact service.poolIds_updateDispatcher fun _ => rfl

theorem exchange_closeNamed (name : String) :
    Exchange [] [] service (service.closeNamed name) := by
  unfold closeNamed
  cases service.dispatcherNames.find? name with
  | none => exact .refl [] service
  | some id => exact service.exchange_close id

theorem exchange_act (action : Action) : Exchange [] [] service (service.act action).1 := by
  cases action with
  | write script => exact (service.exchange_write script).trans (exchange_observe _ _)
  | reportedWrite script attempt =>
      have written := service.exchange_write script
      simp only [act]
      generalize service.write script = result at written
      obtain ⟨moment, answers, commit⟩ := result
      cases commit with
      | failed error => exact written.trans (exchange_report _ _)
      | committed _ _ => exact written
      | unchanged _ => exact written
      | panicked _ => exact written
  | collect => exact service.exchange_collect.trans (exchange_observe _ _)
  | cancel query => exact (service.exchange_cancelNamed query).trans (exchange_observe _ _)
  | setToken query => exact service.exchange_setTokenNamed query
  | close name => exact (service.exchange_closeNamed name).trans (exchange_observe _ _)
  | panic message => exact .refl [] service

/-- What others do leaves the snapshots as they are. -/
theorem Exchange.kept : KeptByActions (Exchange [] []) where
  refl := .refl []
  trans earlier later := earlier.trans later
  act := exchange_act
  hookRan service _ _ := service.exchange_observe _
  taken _ := exchange_of_custody rfl fun _ => id

theorem exchange_actAll (actions : List Action) :
    Exchange [] [] service (service.actAll actions).1 :=
  Exchange.kept.actAll service actions

end Actions

section Calls

variable (service : Service)

theorem exchange_interrupt (method : Method) :
    Exchange [] [] service (service.interrupt method).1 :=
  Exchange.kept.interrupt service method

theorem exchange_reach {Item : Type} (held : Except CallFailure Item → List Snapshot)
    (method : Method) {call : Fault → Service → Service × Except StoreError Item}
    (failed : ∀ failure, held (.error failure) = [])
    (called : ∀ fault moment, Exchange [] (held ((call fault moment).2.mapError .refused)) moment
      (call fault moment).1) :
    Exchange [] (held (service.reach method call).2) service (service.reach method call).1 := by
  have interrupted := service.exchange_interrupt method
  unfold reach
  generalize service.interrupt method = result at interrupted
  obtain ⟨moment, fault, panic⟩ := result
  cases panic with
  | some message =>
      rw [failed]
      exact interrupted
  | none =>
      simp only
      cases fault.error with
      | some error =>
          simp only [failed]
          exact interrupted
      | none => exact interrupted.trans (called fault moment)

theorem exchange_reachVersion : Exchange [] [] service service.reachVersion.1 :=
  Exchange.kept.reachVersion service

theorem exchange_reachSnapshot (version : Option VersionStamp) :
    Exchange [] (service.reachSnapshot version).2.toOption.toList service
      (service.reachSnapshot version).1 := by
  apply service.exchange_reach (fun result => result.toOption.toList) .openSnapshot (fun _ => rfl)
  intro fault moment
  cases fault.unpinned with
  | some version =>
      refine exchange_of_custody rfl fun held backs => ?_
      exact (Store.backs_cons_iff rfl).mpr backs
  | none =>
      have opened := moment.exchange_openSnapshot version
      simp only
      generalize moment.openSnapshot version = result at opened
      obtain ⟨later, snapshot⟩ := result
      cases snapshot <;> exact opened

theorem exchange_reachRows (snapshot : Snapshot) (predicate : Predicate) :
    Exchange [] [] service (service.reachRows snapshot predicate).1 :=
  Exchange.kept.reachRows service snapshot predicate

theorem exchange_reachImport (rows : RowSet) (source target : VersionStamp) :
    Exchange [] [] service (service.reachImport rows source target).1 :=
  Exchange.kept.reachImport service rows source target

theorem exchange_handOverAs (rows : RowSet) (target : VersionStamp)
    {done : View → Reconciliation} (shown : ∀ view, (done view).view? = some view) :
    Exchange [] (service.handOverAs rows target done).2.snapshots service
      (service.handOverAs rows target done).1 := by
  simp only [handOverAs, handOver]
  by_cases same : rows.version = target
  · rw [if_pos same]
    have opened := service.exchange_reachSnapshot (some target)
    generalize service.reachSnapshot (some target) = result at opened
    obtain ⟨moment, snapshot⟩ := result
    cases snapshot with
    | error failure => exact opened
    | ok snapshot =>
        simp only [Reconciliation.snapshots, shown]
        exact opened
  · rw [if_neg same]
    exact .refl [] service

theorem view?_onMismatch (policy : RetryPolicy) (snapshot origin : VersionStamp) (attempts : Nat)
    (cancelled : Bool) : (policy.onMismatch snapshot origin attempts cancelled).view? = none := by
  unfold RetryPolicy.onMismatch
  split <;> rfl

theorem exchange_reconcile (mode : ReconcileMode) (rows : RowSet) (policy : RetryPolicy)
    (attempts : Nat) (cancelled : Bool) :
    Exchange [] (service.reconcile mode rows policy attempts cancelled).2.snapshots service
      (service.reconcile mode rows policy attempts cancelled).1 := by
  have asked := service.exchange_reachVersion
  unfold reconcile
  generalize service.reachVersion = result at asked
  obtain ⟨moment, current⟩ := result
  simp only
  split
  · exact asked.trans (moment.exchange_handOverAs _ _ fun _ => rfl)
  · cases mode with
    | strict =>
        simp only [Reconciliation.snapshots, view?_onMismatch]
        exact asked
    | rederive =>
        have imported := asked.trans (moment.exchange_reachImport rows rows.version current)
        simp only
        generalize moment.reachImport rows rows.version current = result at imported
        obtain ⟨later, outcome⟩ := result
        cases outcome with
        | error failure => exact imported
        | ok kept =>
            simp only
            split
            · exact imported.trans (later.exchange_handOverAs _ _ fun _ => rfl)
            · simp only [Reconciliation.snapshots, view?_onMismatch]
              exact imported

theorem exchange_inspect (view : View) : Exchange [] [] service (service.inspect view).1 :=
  Exchange.kept.inspect service view

end Calls

section Evaluations

variable (service : Service)

theorem exchange_failOnWorker (attempt : Attempt) (failure : CallFailure) :
    Exchange [] (service.failOnWorker attempt failure).2.snapshot.toList service
      (service.failOnWorker attempt failure).1 := by
  cases failure with
  | refused error => exact .refl [] service
  | panicked message => exact service.exchange_report _

theorem exchange_runHook (attempt : Attempt) (version : VersionStamp) :
    Exchange [] [] service (service.runHook attempt version).1 :=
  Exchange.kept.runHook service attempt version

theorem exchange_evaluateAttempt (attempt : Attempt) :
    Exchange [] (service.evaluateAttempt attempt).2.snapshot.toList service
      (service.evaluateAttempt attempt).1 := by
  have opened := service.exchange_reachSnapshot none
  unfold evaluateAttempt
  generalize service.reachSnapshot none = result at opened
  obtain ⟨moment, snapshot⟩ := result
  cases snapshot with
  | error failure => exact opened.trans (moment.exchange_failOnWorker attempt failure)
  | ok snapshot =>
      have evaluated := opened.then (moment.exchange_reachRows snapshot attempt.predicate)
      simp only
      generalize moment.reachRows snapshot attempt.predicate = result at evaluated
      obtain ⟨later, rows⟩ := result
      cases rows with
      | error failure =>
          exact (evaluated.trans (later.exchange_release snapshot)).trans
            (exchange_failOnWorker _ attempt failure)
      | ok rows =>
          have hooked := evaluated.then (later.exchange_runHook attempt rows.version)
          simp only
          generalize later.runHook attempt rows.version = result at hooked
          obtain ⟨last, panic⟩ := result
          cases panic with
          | none => exact hooked
          | some message =>
              exact (hooked.trans (last.exchange_release snapshot)).trans (exchange_report _ _)

end Evaluations

section Deliveries

variable (service : Service) (origin : OriginSettings) (request : Request)

theorem exchange_recordEnd (counter : Counter) (event : Event) (panic : Option String) :
    Exchange [] [] service (service.recordEnd origin request counter event panic) := by
  cases panic with
  | none => exact (service.exchange_count _ _).trans (exchange_report _ _)
  | some message => exact service.exchange_observe _

theorem exchange_deliverError (error : QueryError) :
    Exchange [] [] service (service.deliverError origin request error).1 := by
  unfold deliverError
  cases request.fail with
  | error refusal => exact .refl [] service
  | ok failed =>
      obtain ⟨final, callback⟩ := failed
      refine Exchange.trans ?_ (exchange_recordEnd _ _ _ _ _ _)
      cases callback with
      | none => exact .refl [] service
      | some callback => exact (service.exchange_observe _).trans (exchange_actAll _ _)

theorem exchange_callSuccess (callback : SuccessCallback) (view : View) :
    Exchange [view.snapshot] [] service (service.callSuccess request callback view).1 := by
  have inspected := service.exchange_inspect view
  simp only [callSuccess]
  generalize service.inspect view = result at inspected
  obtain ⟨moment, seen⟩ := result
  have called := (inspected.trans (moment.exchange_observe
    (.succeeded request.label request.id seen))).holding [view.snapshot]
  cases callback.keep with
  | some name =>
      exact called.trans ((exchange_keepView _ name view).trans (exchange_actAll _ _))
  | none =>
      exact called.trans (((exchange_actAll _ _).holding [view.snapshot]).trans
        (exchange_release _ _))

theorem exchange_deliverSuccess (view : View) :
    Exchange [view.snapshot] [] service (service.deliverSuccess origin request view).1 := by
  unfold deliverSuccess
  cases request.converge with
  | error refusal =>
      exact (service.exchange_release view.snapshot).trans (exchange_deliverError _ _ _ _)
  | ok converged =>
      obtain ⟨final, callback⟩ := converged
      refine Exchange.trans ?_ (exchange_recordEnd _ _ _ _ _ _)
      cases callback with
      | none => exact service.exchange_release view.snapshot
      | some callback => exact service.exchange_callSuccess final callback view

theorem exchange_endCancelled :
    Exchange [] [] service (service.endCancelled origin request).1 := by
  unfold endCancelled
  cases request.cancel with
  | error refusal => exact .refl [] service
  | ok ended => exact exchange_of_custody rfl fun _ backs => backs

/-- The service after a dispatcher has accepted an attempt. -/
def accept (service : Service) (pool : Dispatcher) (attempt : Attempt) : Service :=
  let service := (service.updateDispatcher pool.id fun pool =>
    { pool with inFlight := attempt.request :: pool.inFlight }).count pool.registry .attempts
  { service with attempts := service.attempts ++ [attempt] }

theorem exchange_accept {pool : Dispatcher} (member : pool ∈ service.dispatchers)
    {attempt : Attempt} (own : attempt.dispatcher = pool.id) (queued : attempt.phase = .queued) :
    Exchange [] [] service (service.accept pool attempt) := by
  have poolIds : (service.accept pool attempt).poolIds = service.poolIds :=
    service.poolIds_updateDispatcher fun _ => rfl
  refine ⟨?_, ?_, ?_, poolIds, rfl⟩
  · intro rest backs
    refine backs.perm (List.Perm.of_eq ?_)
    simp [Service.holdings, accept, updateDispatcher, count, Phase.snapshots, queued,
      Phase.outcome?]
  · intro flown
    refine ⟨?_, ?_, ?_⟩
    · intro other otherMember
      obtain ⟨old, oldMember, rfl⟩ := List.mem_map.mp otherMember
      have before := flown.inFlight old oldMember
      have flies : attempt.phase.isFlying = true := by rw [queued, Phase.isFlying]
      by_cases here : old.id = pool.id
      · rw [if_pos here]
        simp only [accept, flyingAmong_append, flyingAmong_cons, flyingAmong_nil, List.append_nil,
          if_pos (And.intro (own.trans here.symm) flies)]
        exact (before.cons _).trans (List.perm_append_singleton _ _).symm
      · have elsewhere : ¬(attempt.dispatcher = old.id ∧ attempt.phase.isFlying = true) :=
          fun same => here (same.1.symm.trans own)
        rw [if_neg here]
        simp only [accept, flyingAmong_append, flyingAmong_cons, flyingAmong_nil, List.append_nil,
          if_neg elsewhere]
        exact before
    · rw [poolIds]
      intro other otherMember
      rcases List.mem_append.mp otherMember with old | new
      · exact flown.known other old
      · rw [List.mem_singleton.mp new, own]
        exact List.mem_map_of_mem member
    · rw [poolIds]
      exact flown.made
  · intro other
    show _ → (service.updateDispatcher pool.id _).Shut other
    apply service.shut_updateDispatcher
    · intro pool
      rfl
    · exact fun _ => id

theorem exchange_dispatch {attempt : Attempt} (queued : attempt.phase = .queued) :
    Exchange [] [] service (service.dispatch attempt).1 := by
  unfold dispatch
  cases found : service.dispatcher? attempt.dispatcher with
  | none => exact .refl [] service
  | some pool =>
      have own : pool.id = attempt.dispatcher := dispatcher?_id found
      simp only
      split
      · exact .refl [] service
      · split
        · exact .refl [] service
        · exact service.exchange_accept (List.mem_of_find?_eq_some found) own.symm queued

theorem exchange_launchAttempt :
    Exchange [] [] service (service.launchAttempt origin request).1 := by
  unfold launchAttempt
  cases request.startAttempt with
  | error error => exact service.exchange_deliverError _ _ _
  | ok started =>
      simp only
      generalize Request.armHook _ _ = armed
      obtain ⟨started, hook⟩ := armed
      have reported := service.exchange_report
        (.attemptDispatched started.id started.attempts hook.isSome)
      generalize service.report _ = moment at reported
      generalize made : Attempt.mk _ _ _ _ _ _ _ _ = attempt
      have queued : attempt.phase = .queued := by rw [← made]
      have dispatched := reported.trans (moment.exchange_dispatch queued)
      simp only
      generalize moment.dispatch attempt = result at dispatched
      obtain ⟨later, answer⟩ := result
      cases answer with
      | ok => exact dispatched
      | error error => exact dispatched.trans (exchange_post _ _ rfl)

theorem exchange_reportMismatch (snapshot current : VersionStamp) :
    Exchange [] [] service (service.reportMismatch origin request snapshot current) :=
  (service.exchange_count _ _).trans (exchange_report _ _)

theorem exchange_conclude (outcome : Reconciliation) :
    Exchange outcome.snapshots [] service (service.conclude origin request outcome).1 := by
  cases outcome with
  | converged view => exact service.exchange_deliverSuccess origin request view
  | rederived view =>
      have counted := ((service.exchange_count origin.registry .versionMismatches).trans
        (exchange_count _ origin.registry .rederived)).trans
          (exchange_report _ (.rederived request.id request.attempts view.rows.version))
      exact (counted.holding [view.snapshot]).trans (exchange_deliverSuccess _ _ _ _)
  | retry snapshot current =>
      have counted := (service.exchange_reportMismatch origin request snapshot current).trans
        (exchange_count _ origin.registry .retries)
      simp only [conclude]
      cases request.scheduleRetry with
      | error error => exact counted.trans (exchange_deliverError _ _ _ _)
      | ok next =>
          exact (counted.trans (exchange_report _ _)).trans (exchange_launchAttempt _ _ _)
  | giveUp error =>
      cases error <;> first
        | exact service.exchange_deliverError _ _ _
        | exact (service.exchange_reportMismatch _ _ _ _).trans (exchange_deliverError _ _ _ _)

theorem exchange_settleRows (rows : RowSet) :
    Exchange [] [] service (service.settleRows origin request rows).1 := by
  unfold settleRows
  cases request.awaitReconciliation with
  | error error => exact service.exchange_deliverError _ _ _
  | ok request =>
      have reconciled := service.exchange_reconcile origin.config.reconcileMode rows request.policy
        request.attempts (service.isCancelled request.id)
      simp only
      generalize service.reconcile _ _ _ _ _ = result at reconciled
      obtain ⟨moment, outcome⟩ := result
      simp only
      split
      · have ended := (moment.exchange_endCancelled origin request).holding outcome.snapshots
        rw [List.append_nil] at ended
        exact (reconciled.trans ended).trans (exchange_releaseAll _ _)
      · exact reconciled.trans (moment.exchange_conclude _ _ _)

theorem exchange_dropStale (id : RequestId) (reason : StaleReason) :
    Exchange [] [] service (service.dropStale origin id reason) :=
  (service.exchange_count _ _).trans (exchange_report _ _)

/-- A request that is cancelled is taken in hand, ended and put back. -/
theorem exchange_cancelLive :
    Exchange [] [] service
      ((((service.removeLive origin.id request.id).endCancelled origin request).1).putBack origin.id
        ((service.removeLive origin.id request.id).endCancelled origin request).2) :=
  ((service.exchange_removeLive _ _).trans (exchange_endCancelled _ _ _)).trans
    (exchange_putBack _ _ _)

theorem exchange_handleResult (completion : Completion) :
    Exchange [] [] service (service.handleResult origin completion) := by
  unfold handleResult
  split
  · exact service.exchange_dropStale _ _ _
  · cases service.liveRequest? origin.id completion.request with
    | none => exact service.exchange_dropStale _ _ _
    | some request =>
        simp only
        split
        · exact service.exchange_cancelLive origin request
        · split
          · exact service.exchange_dropStale _ _ _
          · have taken := service.exchange_removeLive origin.id request.id
            generalize service.removeLive origin.id request.id = moment at taken
            cases completion.result with
            | ok rows =>
                exact (taken.trans (moment.exchange_settleRows _ _ rows)).trans
                  (exchange_putBack _ _ _)
            | error error =>
                exact (taken.trans (moment.exchange_deliverError _ _ error)).trans
                  (exchange_putBack _ _ _)

/-- The snapshot of a result is dropped when it was handled. -/
theorem exchange_handle (message : Message) :
    Exchange message.snapshot?.toList [] service (service.handle origin message) := by
  cases message with
  | completed completion =>
      have handled := (service.exchange_handleResult origin completion).holding
        completion.snapshot.toList
      rw [List.append_nil] at handled
      exact handled.trans (exchange_releaseAll _ _)
  | cancelRequested id =>
      simp only [handle]
      cases service.liveRequest? origin.id id with
      | none => exact service.exchange_dropStale _ _ _
      | some request => exact service.exchange_cancelLive origin request

theorem exchange_submit (query : Query) :
    Exchange [] [] service (service.submit origin query).1 := by
  have counted : Exchange [] [] service
      { service with requestsMade := service.requestsMade + 1 } :=
    exchange_of_custody rfl fun _ => id
  have launched := ((counted.trans (exchange_count _ origin.registry .submitted)).trans
    (exchange_report _ (.submitted ⟨service.requestsMade + 1⟩ origin.id query.policy))).trans
      (exchange_launchAttempt _ origin (query.request ⟨service.requestsMade + 1⟩ origin.id))
  simp only [submit]
  generalize launchAttempt _ _ _ = result at launched ⊢
  have inserted := launched.trans (result.1.exchange_putBack origin.id result.2)
  generalize result.1.putBack origin.id result.2 = last at inserted ⊢
  exact inserted.trans (exchange_of_custody rfl fun _ => id)

end Deliveries

section Names

variable (service : Service)

theorem exchange_keepSnapshot (name : String) (snapshot : Snapshot) :
    Exchange [snapshot] [] service (service.keepSnapshot name snapshot) := by
  refine Exchange.trans ?_ (exchange_releaseAll _ _)
  have before := service.snapshots.values_perm name
  have after := service.snapshots.values_insert_perm name snapshot
  refine exchange_of_counts rfl rfl rfl fun other => ?_
  have beforeCount := before.count_eq other
  have afterCount := after.count_eq other
  simp only [Service.holdings, List.count_append, List.count_cons, List.nil_append,
    List.cons_append] at beforeCount afterCount ⊢
  omega

theorem exchange_dropSnapshot (name : String) :
    Exchange [] [] service (service.dropSnapshot name) := by
  refine Exchange.trans ?_ (exchange_releaseAll _ _)
  have split := service.snapshots.values_perm name
  refine exchange_of_counts rfl rfl rfl fun other => ?_
  have counted := split.count_eq other
  simp only [Service.holdings, List.count_append, List.nil_append] at counted ⊢
  omega

theorem exchange_dropView (name : String) : Exchange [] [] service (service.dropView name) := by
  refine Exchange.trans ?_ (exchange_releaseAll _ _)
  have split := (service.views.values_perm name).map View.snapshot
  refine exchange_of_counts rfl rfl rfl fun other => ?_
  have counted := split.count_eq other
  simp only [Service.holdings, List.count_append, List.nil_append, List.map_append] at counted ⊢
  omega

theorem exchange_copySnapshot {source : String} {snapshot : Snapshot}
    (found : service.snapshots.find? source = some snapshot) (name : String) :
    Exchange [] [] service (service.copySnapshot name snapshot) := by
  have member : snapshot ∈ service.snapshots.values :=
    List.mem_map.mpr ⟨(source, snapshot), (service.snapshots.mem_entries_iff _ _).mpr found, rfl⟩
  refine Exchange.trans ?_ (exchange_keepSnapshot _ name snapshot)
  refine exchange_of_fleet rfl rfl ?_
  intro rest backs
  refine backs.share ?_
  simp [Service.holdings, member]

end Names

end Service

end SnapshotQuery
