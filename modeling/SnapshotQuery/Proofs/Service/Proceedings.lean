import SnapshotQuery.Proofs.Service.Requests
import SnapshotQuery.Proofs.Store.Descent

/-!
# Proceedings

Whatever a query does to a service, its store is only used, no worker comes or
goes, and the counters that grow are known.  So what is counted along a way
through the origin is the list of what is counted on each part of it.
-/

namespace SnapshotQuery

/-- A result was thrown away because it is not the one of the running attempt. -/
def Event.isSuperseded : Event → Bool
  | staleMessageDropped _ _ .supersededAttempt => true
  | _ => false

namespace Service

/-- The counters after one of them has grown. -/
def tally (registries : List (RegistryId × Metrics)) (entry : RegistryId × Counter) :
    List (RegistryId × Metrics) :=
  registries.map fun (registry, metrics) =>
    (registry, if registry = entry.1 then metrics.increment entry.2 else metrics)

/-- The dispatchers with their counters, the workers they have and those that are idle. -/
def staff (service : Service) : List (DispatcherId × RegistryId × Nat × Nat) :=
  service.dispatchers.map fun pool => (pool.id, pool.registry, pool.maxWorkers, pool.idle)

/-- The store was only used, and no result of a running attempt was thrown away. -/
structure Develops (before after : Service) : Prop where
  store : before.store.Descends after.store
  trail : ∀ event ∈ after.trail, event ∈ before.trail ∨ event.isSuperseded = false
  observations : before.observations ⊆ after.observations

/-- What may happen while no worker comes or goes, and what is counted meanwhile. -/
structure Proceeds (counts : List (RegistryId × Counter)) (before after : Service) : Prop
    extends Develops before after where
  registries : after.registries = counts.foldl tally before.registries
  staff : after.staff = before.staff
  faults : ∀ method, after.faults method ⊆ before.faults method

/-- No callback of the request has panicked. -/
def Composed (request : RequestId) (service : Service) : Prop :=
  ∀ message, .panicked request message ∉ service.observations

variable {counts : List (RegistryId × Counter)} {before after : Service}

theorem develops_of_same (store : before.store.Descends after.store)
    (trail : after.trail = before.trail) (observations : after.observations = before.observations) :
    before.Develops after := by
  refine ⟨store, ?_, observations ▸ List.Subset.refl _⟩
  rw [trail]
  exact fun event member => .inl member

theorem Develops.refl (service : Service) : service.Develops service :=
  develops_of_same .start rfl rfl

theorem Develops.trans {first middle last : Service} (earlier : first.Develops middle)
    (later : middle.Develops last) : first.Develops last where
  store := earlier.store.trans later.store
  trail event member := by
    rcases later.trail event member with old | other
    · exact earlier.trail event old
    · exact .inr other
  observations := List.Subset.trans earlier.observations later.observations

theorem Develops.composed {request : RequestId} (develops : before.Develops after)
    (composed : after.Composed request) : before.Composed request :=
  fun message panicked => composed message (develops.observations panicked)

theorem composed_of_calm (calm : before.observations.filterMap Observation.panic? = [])
    (request : RequestId) : before.Composed request :=
  fun _ panicked =>
    Option.some_ne_none _ (List.filterMap_eq_nil_iff.mp calm _ panicked)

/-- What proceedings are about, apart from the store. -/
def proceedings (service : Service) :=
  (service.registries, service.staff, service.trail, service.observations, service.faults)

theorem proceeds_of_proceedings (same : after.proceedings = before.proceedings)
    (store : before.store.Descends after.store) : Proceeds [] before after := by
  simp only [proceedings, Prod.mk.injEq] at same
  obtain ⟨registries, staff, trail, observations, faults⟩ := same
  refine ⟨develops_of_same store trail observations, registries, staff, ?_⟩
  rw [faults]
  exact fun method => List.Subset.refl _

theorem Proceeds.refl (service : Service) : Proceeds [] service service :=
  proceeds_of_proceedings rfl .start

theorem Proceeds.trans {more : List (RegistryId × Counter)} {first middle last : Service}
    (earlier : Proceeds counts first middle) (later : Proceeds more middle last) :
    Proceeds (counts ++ more) first last where
  toDevelops := earlier.toDevelops.trans later.toDevelops
  registries := by rw [later.registries, earlier.registries, List.foldl_append]
  staff := later.staff.trans earlier.staff
  faults method := List.Subset.trans (later.faults method) (earlier.faults method)

/-- Proceedings in which nothing is counted after other ones. -/
theorem Proceeds.then {first middle last : Service} (earlier : Proceeds counts first middle)
    (later : Proceeds [] middle last) : Proceeds counts first last :=
  counts.append_nil ▸ earlier.trans later

section Records

variable (service : Service)

theorem proceeds_report (event : Event) (plain : event.isSuperseded = false) :
    Proceeds [] service (service.report event) := by
  have same := Proceeds.refl service
  refine ⟨⟨same.store, ?_, same.observations⟩, same.registries, same.staff, same.faults⟩
  intro other member
  rcases List.mem_cons.mp member with rfl | old
  · exact .inr plain
  · exact .inl old

theorem proceeds_observe (observation : Observation) :
    Proceeds [] service (service.observe observation) := by
  have same := Proceeds.refl service
  exact ⟨⟨same.store, same.trail, List.subset_cons_self _ _⟩, same.registries, same.staff,
    same.faults⟩

theorem proceeds_count (registry : RegistryId) (counter : Counter) :
    Proceeds [(registry, counter)] service (service.count registry counter) := by
  have same := Proceeds.refl service
  exact ⟨develops_of_same .start rfl rfl, rfl, same.staff, same.faults⟩

theorem staff_updateDispatcher {id : DispatcherId} {change : Dispatcher → Dispatcher}
    (same : ∀ pool, (change pool).id = pool.id ∧ (change pool).registry = pool.registry ∧
      (change pool).maxWorkers = pool.maxWorkers ∧ (change pool).idle = pool.idle) :
    (service.updateDispatcher id change).staff = service.staff := by
  simp only [Service.staff, updateDispatcher, List.map_map]
  apply List.map_congr_left
  intro pool _
  simp only [Function.comp_apply]
  split
  · obtain ⟨id, registry, maxWorkers, idle⟩ := same pool
    rw [id, registry, maxWorkers, idle]
  · rfl

/-- A change of a dispatcher that leaves its workers as they are. -/
theorem proceeds_updateDispatcher {id : DispatcherId} {change : Dispatcher → Dispatcher}
    (same : ∀ pool, (change pool).id = pool.id ∧ (change pool).registry = pool.registry ∧
      (change pool).maxWorkers = pool.maxWorkers ∧ (change pool).idle = pool.idle) :
    Proceeds [] service (service.updateDispatcher id change) := by
  refine proceeds_of_proceedings ?_ .start
  simp only [proceedings, service.staff_updateDispatcher same]
  rfl

theorem proceeds_release (snapshot : Snapshot) : Proceeds [] service (service.release snapshot) :=
  proceeds_of_proceedings rfl (Store.Descends.start.held _)

theorem proceeds_releaseAll (snapshots : List Snapshot) :
    Proceeds [] service (service.releaseAll snapshots) := by
  induction snapshots generalizing service with
  | nil => exact .refl service
  | cons snapshot rest inductionHypothesis =>
      exact (service.proceeds_release snapshot).then (inductionHypothesis _)

theorem proceeds_keepView (name : String) (view : View) :
    Proceeds [] service (service.keepView name view) := by
  have kept : Proceeds [] service { service with views := service.views.insert name view } :=
    proceeds_of_proceedings rfl .start
  exact kept.then (proceeds_releaseAll _ _)

theorem proceeds_updateOrigin (id : ContextId) (change : Origin → Origin) :
    Proceeds [] service (service.updateOrigin id change) :=
  proceeds_of_proceedings rfl .start

theorem proceeds_putBack (id : ContextId) (request : Request) :
    Proceeds [] service (service.putBack id request) := by
  unfold putBack
  split <;> exact proceeds_of_proceedings rfl .start

/-- No callback panics when a request is given back. -/
theorem composed_of_putBack {id : ContextId} {request : Request} {snapshots : List Snapshot}
    {wanted : RequestId}
    (composed : ((service.putBack id request).releaseAll snapshots).Composed wanted) :
    service.Composed wanted :=
  ((service.proceeds_putBack id request).then (proceeds_releaseAll _ snapshots)).composed composed

end Records

section Actions

variable (service : Service)

theorem proceeds_write (script : Script) : Proceeds [] service (service.write script).1 := by
  have wrote : service.store.Descends (service.store.write script).1 := .wrote .start script
  unfold write
  generalize service.store.write script = written at wrote
  obtain ⟨store, answers, commit⟩ := written
  have stored : Proceeds [] service { service with store } := proceeds_of_proceedings rfl wrote
  cases commit with
  | committed version changes => exact stored.then (proceeds_report _ _ rfl)
  | unchanged _ | failed _ | panicked _ => exact stored

theorem proceeds_collect : Proceeds [] service service.collect.1 := by
  unfold collect
  cases collecting : service.store.collect with
  | error refusal => exact .refl service
  | ok result =>
      obtain ⟨store, report⟩ := result
      have collected : Proceeds [] service { service with store } :=
        proceeds_of_proceedings rfl (.collected .start collecting)
      exact collected.then (proceeds_report _ _ rfl)

theorem proceeds_openSnapshot (version : Option VersionStamp) :
    Proceeds [] service (service.openSnapshot version).1 := by
  unfold openSnapshot
  cases opening : service.store.openSnapshot version with
  | error refusal => exact .refl service
  | ok result =>
      obtain ⟨snapshot, store⟩ := result
      obtain ⟨_, _, opened⟩ :=
        (service.store.openSnapshot_eq_ok_iff version snapshot store).mp opening
      obtain ⟨_, rfl⟩ := Prod.mk.inj opened
      have held : ∀ retention, Proceeds [] service
          { service with store := { service.store with retention } } :=
        fun _ => proceeds_of_proceedings rfl (Store.Descends.start.held _)
      exact (held _).then (proceeds_report _ _ rfl)

theorem proceeds_setToken (handle : Handle) :
    Proceeds [] service (service.setToken handle).1 := by
  unfold setToken
  split <;> exact proceeds_of_proceedings rfl .start

theorem proceeds_cancel (handle : Handle) : Proceeds [] service (service.cancel handle).1 := by
  have marked := service.proceeds_setToken handle
  unfold cancel
  generalize service.setToken handle = result at marked
  obtain ⟨moment, first⟩ := result
  cases first with
  | true => exact marked.then (proceeds_of_proceedings rfl .start)
  | false => exact marked

theorem proceeds_cancelNamed (query : String) :
    Proceeds [] service (service.cancelNamed query).1 := by
  unfold cancelNamed
  cases service.handles.find? query with
  | none => exact .refl service
  | some handle => exact service.proceeds_cancel handle

theorem proceeds_setTokenNamed (query : String) :
    Proceeds [] service (service.setTokenNamed query) := by
  unfold setTokenNamed
  cases service.handles.find? query with
  | none => exact .refl service
  | some handle => exact service.proceeds_setToken handle

theorem proceeds_closeNamed (dispatcher : String) :
    Proceeds [] service (service.closeNamed dispatcher) := by
  unfold closeNamed
  cases service.dispatcherNames.find? dispatcher with
  | none => exact .refl service
  | some id => exact service.proceeds_updateDispatcher fun _ => ⟨rfl, rfl, rfl, rfl⟩

theorem proceeds_act (action : Action) : Proceeds [] service (service.act action).1 := by
  cases action with
  | write script => exact (service.proceeds_write script).then (proceeds_observe _ _)
  | reportedWrite script attempt =>
      have written := service.proceeds_write script
      simp only [act]
      generalize service.write script = result at written
      obtain ⟨moment, answers, commit⟩ := result
      cases commit with
      | failed error => exact written.then (proceeds_report _ _ rfl)
      | committed _ _ | unchanged _ | panicked _ => exact written
  | collect => exact service.proceeds_collect.then (proceeds_observe _ _)
  | cancel query => exact (service.proceeds_cancelNamed query).then (proceeds_observe _ _)
  | setToken query => exact service.proceeds_setTokenNamed query
  | close dispatcher =>
      exact (service.proceeds_closeNamed dispatcher).then (proceeds_observe _ _)
  | panic message => exact .refl service

/-- Nothing is counted when others act and when calls are made. -/
theorem Proceeds.kept : KeptByCalls (Proceeds []) where
  refl := .refl
  trans earlier later := earlier.then later
  act := proceeds_act
  hookRan service _ _ := service.proceeds_observe _
  taken := by
    intro service method fault rest waiting
    refine ⟨develops_of_same .start rfl rfl, rfl, rfl, ?_⟩
    intro other
    by_cases here : other = method
    · simp only [here, waiting]
      exact List.subset_cons_self _ _
    · simp only [if_neg here]
      exact List.Subset.refl _
  opened := proceeds_openSnapshot
  released := proceeds_release
  panicked service _ _ := service.proceeds_report _ rfl

end Actions

section Deliveries

/-- A callback of the request may be called on the way; unless it panics, all of this is
counted. -/
def Attends (id : RequestId) (counts : List (RegistryId × Counter)) (before after : Service) :
    Prop :=
  ∃ counted, Proceeds counted before after ∧ (after.Composed id → counted = counts)

theorem Proceeds.attends {id : RequestId} {more : List (RegistryId × Counter)}
    {first middle last : Service} (earlier : Proceeds counts first middle)
    (later : Attends id more middle last) : Attends id (counts ++ more) first last := by
  obtain ⟨counted, proceeds, all⟩ := later
  exact ⟨counts ++ counted, earlier.trans proceeds, fun composed => by rw [all composed]⟩

/-- Proceedings in which nothing is counted after the callback. -/
theorem Attends.then {id : RequestId} {first middle last : Service}
    (earlier : Attends id counts first middle) (later : Proceeds [] middle last) :
    Attends id counts first last := by
  obtain ⟨counted, proceeds, all⟩ := earlier
  exact ⟨counted, proceeds.then later, fun composed => all (later.composed composed)⟩

/-- Without a panic all of it is counted. -/
theorem Attends.proceeds {id : RequestId} (attends : Attends id counts before after)
    (composed : after.Composed id) : Proceeds counts before after := by
  obtain ⟨counted, proceeds, all⟩ := attends
  exact all composed ▸ proceeds

theorem Attends.develops {id : RequestId} (attends : Attends id counts before after) :
    before.Develops after := by
  obtain ⟨counted, proceeds, _⟩ := attends
  exact proceeds.toDevelops

variable (service : Service) (origin : OriginSettings) {request : Request}

theorem attends_recordEnd (request : Request) (counter : Counter) {event : Event}
    (plain : event.isSuperseded = false) (panic : Option String) :
    Attends request.id [(origin.registry, counter)] service
      (service.recordEnd origin request counter event panic) := by
  cases panic with
  | none =>
      exact ⟨_, (service.proceeds_count origin.registry counter).then (proceeds_report _ _ plain),
        fun _ => rfl⟩
  | some message =>
      exact ⟨_, service.proceeds_observe (.panicked request.id message),
        fun composed => absurd List.mem_cons_self (composed message)⟩

theorem attends_deliverError (going : request.state.isTerminal = false) (error : QueryError) :
    Attends request.id [(origin.registry, .failed)] service
      (service.deliverError origin request error).1 := by
  cases given : request.onError with
  | none =>
      simp only [deliverError, Request.fail_eq going, given]
      exact attends_recordEnd service origin (request.endedAs .failed) .failed rfl none
  | some callback =>
      rw [deliverError_eq going given]
      have called : Proceeds [] service
          (service.callError (request.endedAs .failed) callback error).1 :=
        (service.proceeds_observe _).then (Proceeds.kept.actAll _ _)
      exact called.attends (attends_recordEnd _ origin (request.endedAs .failed) .failed rfl _)

theorem proceeds_callSuccess (request : Request) (callback : SuccessCallback) (view : View) :
    Proceeds [] service (service.callSuccess request callback view).1 := by
  have inspected := Proceeds.kept.inspect service view
  simp only [callSuccess]
  generalize service.inspect view = result at inspected
  obtain ⟨moment, seen⟩ := result
  have called := inspected.then (moment.proceeds_observe
    (.succeeded request.label request.id seen))
  cases callback.keep with
  | some name => exact (called.then (proceeds_keepView _ _ _)).then (Proceeds.kept.actAll _ _)
  | none => exact (called.then (Proceeds.kept.actAll _ _)).then (proceeds_release _ _)

theorem attends_deliverSuccess (request : Request) (view : View) :
    Attends request.id [(origin.registry, .converged)] service
      (service.deliverSuccess origin request.awaiting view).1 := by
  cases given : request.onSuccess with
  | none =>
      simp only [deliverSuccess, Request.converge_awaiting, given]
      exact (service.proceeds_release view.snapshot).attends
        (attends_recordEnd _ origin (request.endedAs .converged) .converged rfl none)
  | some callback =>
      rw [deliverSuccess_eq given]
      exact (service.proceeds_callSuccess (request.endedAs .converged) callback view).attends
        (attends_recordEnd _ origin (request.endedAs .converged) .converged rfl _)

theorem proceeds_endCancelled (going : request.state.isTerminal = false) :
    Proceeds [(origin.registry, .cancelled)] service (service.endCancelled origin request).1 := by
  rw [endCancelled_eq going]
  have marked : Proceeds [] service
      { service with cancelled := service.cancelled.insert request.id } :=
    proceeds_of_proceedings rfl .start
  exact (marked.trans (proceeds_count _ _ _)).then (proceeds_report _ _ rfl)

theorem proceeds_reportMismatch (request : Request) (snapshot current : VersionStamp) :
    Proceeds [(origin.registry, .versionMismatches)] service
      (service.reportMismatch origin request snapshot current) :=
  (service.proceeds_count _ _).then (proceeds_report _ _ rfl)

theorem proceeds_dropStale (id : RequestId) {reason : StaleReason}
    (plain : reason ≠ .supersededAttempt) :
    Proceeds [(origin.registry, .droppedMessages)] service
      (service.dropStale origin id reason) := by
  refine (service.proceeds_count _ _).then (proceeds_report _ _ ?_)
  cases reason with
  | supersededAttempt => exact absurd rfl plain
  | cancelAfterFinish | unknownRequest | misdelivered _ => rfl

end Deliveries

end Service

end SnapshotQuery
