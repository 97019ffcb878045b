import SnapshotQuery.Proofs.Store.Growth
import SnapshotQuery.Service.Origin

/-!
# Interludes

Writes, collections, cancellations and closings, alone or before a store call,
leave the attempts and the requests of a service as they are.  A token that is
set meanwhile is told to the origin of its request or is about to be.
-/

namespace SnapshotQuery

/-- A callback was called. -/
def Observation.isCallback : Observation → Bool
  | succeeded .. | failed .. => true
  | acted _ | hookRan .. | panicked .. => false

/-- The origin with wake-ups in its mailbox. -/
def Origin.notified (wakes : ContextId → List RequestId) (origin : Origin) : Origin :=
  { origin with
    mailbox := origin.mailbox ++ (wakes origin.settings.id).map Message.cancelRequested }

theorem Origin.notified_nil (origin : Origin) : origin.notified (fun _ => []) = origin := by
  simp [notified]

theorem Origin.notified_notified (earlier later : ContextId → List RequestId) (origin : Origin) :
    (origin.notified earlier).notified later =
      origin.notified fun id => earlier id ++ later id := by
  simp [notified]

namespace Service

/-- The calls of callbacks, latest first. -/
def callbacks (service : Service) : List Observation :=
  service.observations.filter Observation.isCallback

/-- The query of a handle is cancelled as far as its origin is concerned: a wake-up is posted, or
the cancellation is still to post it. -/
def Told (service : Service) (wakes : ContextId → List RequestId) (after : Service)
    (request : RequestId) : Prop :=
  ∃ name handle, service.handles.find? name = some handle ∧ handle.request = request ∧
    (request ∈ wakes handle.origin ∨ handle ∈ after.wakeUps)

/-- What may happen while no attempt and no request changes, apart from some calls of
callbacks. -/
structure Interlude (calls : List Observation) (before after : Service) : Prop where
  attempts : after.attempts = before.attempts
  ended : after.ended = before.ended
  requestsMade : after.requestsMade = before.requestsMade
  contextsMade : after.contextsMade = before.contextsMade
  handles : after.handles = before.handles
  callbacks : after.callbacks = calls ++ before.callbacks
  cancelled : before.cancelled ⊆ after.cancelled
  wakeUps : before.wakeUps ⊆ after.wakeUps
  told : ∃ wakes, after.origins = before.origins.map (Origin.notified wakes) ∧
    ∀ request ∈ after.cancelled, request ∈ before.cancelled ∨ before.Told wakes after request
  faults : ∀ method, after.faults method ⊆ before.faults method
  store : before.store.Precedes after.store

variable {calls : List Observation} {before after : Service}

/-- What an interlude is about, apart from the store. -/
def ledger (service : Service) :=
  (service.attempts, service.ended, service.requestsMade, service.contextsMade, service.handles,
    service.callbacks, service.cancelled, service.wakeUps, service.origins, service.faults)

theorem interlude_of_ledger (same : after.ledger = before.ledger)
    (store : before.store.Precedes after.store) : Interlude [] before after := by
  simp only [ledger, Prod.mk.injEq] at same
  obtain ⟨attempts, ended, requestsMade, contextsMade, handles, callbacks, cancelled, wakeUps,
    origins, faults⟩ := same
  refine ⟨attempts, ended, requestsMade, contextsMade, handles, callbacks, ?_, ?_, ?_, ?_, store⟩
  · exact cancelled ▸ List.Subset.refl _
  · exact wakeUps ▸ List.Subset.refl _
  · refine ⟨fun _ => [], ?_, ?_⟩
    · rw [origins, List.map_id'' Origin.notified_nil]
    · intro request member
      exact .inl (cancelled ▸ member)
  · intro method
    exact faults ▸ List.Subset.refl _

theorem Interlude.refl (service : Service) : Interlude [] service service :=
  interlude_of_ledger rfl (.refl _)

theorem Interlude.trans {more : List Observation} {first middle last : Service}
    (earlier : Interlude calls first middle) (later : Interlude more middle last) :
    Interlude (more ++ calls) first last where
  attempts := later.attempts.trans earlier.attempts
  ended := later.ended.trans earlier.ended
  requestsMade := later.requestsMade.trans earlier.requestsMade
  contextsMade := later.contextsMade.trans earlier.contextsMade
  handles := later.handles.trans earlier.handles
  callbacks := by rw [later.callbacks, earlier.callbacks, List.append_assoc]
  cancelled := List.Subset.trans earlier.cancelled later.cancelled
  wakeUps := List.Subset.trans earlier.wakeUps later.wakeUps
  told := by
    obtain ⟨earlierWakes, earlierOrigins, earlierTold⟩ := earlier.told
    obtain ⟨laterWakes, laterOrigins, laterTold⟩ := later.told
    refine ⟨fun id => earlierWakes id ++ laterWakes id, ?_, ?_⟩
    · rw [laterOrigins, earlierOrigins, List.map_map]
      exact List.map_congr_left fun origin _ => origin.notified_notified earlierWakes laterWakes
    · intro request member
      rcases laterTold request member with between | ⟨name, handle, found, same, told⟩
      · rcases earlierTold request between with old | ⟨name, handle, found, same, told⟩
        · exact .inl old
        · refine .inr ⟨name, handle, found, same, ?_⟩
          rcases told with posted | pending
          · exact .inl (List.mem_append_left _ posted)
          · exact .inr (later.wakeUps pending)
      · refine .inr ⟨name, handle, earlier.handles ▸ found, same, ?_⟩
        rcases told with posted | pending
        · exact .inl (List.mem_append_right _ posted)
        · exact .inr pending
  faults method := List.Subset.trans (later.faults method) (earlier.faults method)
  store := earlier.store.trans later.store

/-- An interlude without callbacks after another one. -/
theorem Interlude.then {first middle last : Service} (earlier : Interlude calls first middle)
    (later : Interlude [] middle last) : Interlude calls first last :=
  earlier.trans later

section Records

variable (service : Service)

theorem interlude_report (event : Event) : Interlude [] service (service.report event) :=
  interlude_of_ledger rfl (.refl _)

theorem interlude_count (registry : RegistryId) (counter : Counter) :
    Interlude [] service (service.count registry counter) :=
  interlude_of_ledger rfl (.refl _)

theorem interlude_updateDispatcher (id : DispatcherId) (change : Dispatcher → Dispatcher) :
    Interlude [] service (service.updateDispatcher id change) :=
  interlude_of_ledger rfl (.refl _)

theorem interlude_observe {observation : Observation} (silent : observation.isCallback = false) :
    Interlude [] service (service.observe observation) := by
  refine interlude_of_ledger ?_ (.refl service.store)
  simp [ledger, callbacks, observe, silent]

theorem interlude_observe_callback {observation : Observation}
    (called : observation.isCallback = true) :
    Interlude [observation] service (service.observe observation) := by
  have same := Interlude.refl service
  refine ⟨rfl, rfl, rfl, rfl, rfl, ?_, same.cancelled, same.wakeUps, same.told, same.faults,
    same.store⟩
  simp [callbacks, observe, called]

theorem interlude_release (snapshot : Snapshot) :
    Interlude [] service (service.release snapshot) :=
  interlude_of_ledger rfl (Store.precedes_release _ _)

theorem interlude_releaseAll (snapshots : List Snapshot) :
    Interlude [] service (service.releaseAll snapshots) := by
  induction snapshots generalizing service with
  | nil => exact .refl service
  | cons snapshot rest inductionHypothesis =>
      exact (service.interlude_release snapshot).then (inductionHypothesis _)

theorem interlude_keepView (name : String) (view : View) :
    Interlude [] service (service.keepView name view) := by
  have kept : Interlude [] service { service with views := service.views.insert name view } :=
    interlude_of_ledger rfl (.refl _)
  exact kept.then (interlude_releaseAll _ _)

end Records

section Actions

variable (service : Service)

theorem interlude_write (script : Script) : Interlude [] service (service.write script).1 := by
  have grown := service.store.precedes_write script
  unfold write
  generalize service.store.write script = written at grown
  obtain ⟨store, answers, commit⟩ := written
  cases commit <;> exact interlude_of_ledger rfl grown

theorem interlude_collect : Interlude [] service service.collect.1 := by
  unfold collect
  cases collecting : service.store.collect with
  | error refusal => exact .refl service
  | ok result => exact interlude_of_ledger rfl (Store.precedes_collect collecting)

theorem interlude_openSnapshot (version : Option VersionStamp) :
    Interlude [] service (service.openSnapshot version).1 := by
  unfold openSnapshot
  cases opening : service.store.openSnapshot version with
  | error refusal => exact .refl service
  | ok result => exact interlude_of_ledger rfl (Store.precedes_openSnapshot opening)

theorem interlude_closeNamed (dispatcher : String) :
    Interlude [] service (service.closeNamed dispatcher) := by
  unfold closeNamed
  split
  · exact service.interlude_updateDispatcher _ _
  · exact .refl service

/-- A wake-up is one message for one origin. -/
theorem origins_post_cancelRequested (id : ContextId) (request : RequestId) :
    (service.post id (.cancelRequested request)).origins =
      service.origins.map (Origin.notified fun other => if other = id then [request] else []) := by
  apply List.map_congr_left
  intro origin _
  by_cases here : origin.settings.id = id <;> simp [Origin.notified, here]

theorem interlude_setToken {name : String} {handle : Handle}
    (found : service.handles.find? name = some handle) :
    Interlude [] service (service.setToken handle).1 := by
  unfold setToken
  split
  · exact .refl service
  · refine ⟨rfl, rfl, rfl, rfl, rfl, rfl, List.subset_cons_self _ _, List.subset_append_left _ _,
      ⟨fun _ => [], ?_, ?_⟩, fun _ => List.Subset.refl _, .refl _⟩
    · rw [List.map_id'' Origin.notified_nil]
    · intro request member
      rcases List.mem_cons.mp member with rfl | old
      · exact .inr ⟨name, handle, found, rfl, .inr (List.mem_append_right _ List.mem_cons_self)⟩
      · exact .inl old

theorem interlude_cancel {name : String} {handle : Handle}
    (found : service.handles.find? name = some handle) :
    Interlude [] service (service.cancel handle).1 := by
  unfold cancel setToken
  by_cases set : service.isCancelled handle.request
  · simp only [if_pos set]
    exact .refl service
  · simp only [if_neg set]
    refine ⟨rfl, rfl, rfl, rfl, rfl, rfl, List.subset_cons_self _ _, ?_,
      ⟨_, origins_post_cancelRequested _ _ _, ?_⟩, fun _ => List.Subset.refl _, .refl _⟩
    · intro pending member
      have front : (handle :: service.wakeUps).Perm (service.wakeUps ++ [handle]) :=
        (List.perm_append_singleton handle service.wakeUps).symm
      have left := front.erase handle
      rw [List.erase_cons_head] at left
      exact left.mem_iff.mp member
    · intro request member
      rcases List.mem_cons.mp member with rfl | old
      · exact .inr ⟨name, handle, found, rfl, .inl (by simp)⟩
      · exact .inl old

theorem interlude_cancelNamed (query : String) :
    Interlude [] service (service.cancelNamed query).1 := by
  unfold cancelNamed
  cases found : service.handles.find? query with
  | none => exact .refl service
  | some handle => exact service.interlude_cancel found

theorem interlude_setTokenNamed (query : String) :
    Interlude [] service (service.setTokenNamed query) := by
  unfold setTokenNamed
  cases found : service.handles.find? query with
  | none => exact .refl service
  | some handle => exact service.interlude_setToken found

theorem interlude_act (action : Action) : Interlude [] service (service.act action).1 := by
  cases action with
  | write script => exact (service.interlude_write script).then (interlude_observe _ rfl)
  | reportedWrite script attempt =>
      have written := service.interlude_write script
      simp only [act]
      generalize service.write script = result at written
      obtain ⟨moment, answers, commit⟩ := result
      cases commit with
      | failed error => exact written.then (interlude_report _ _)
      | committed _ _ => exact written
      | unchanged _ => exact written
      | panicked _ => exact written
  | collect => exact service.interlude_collect.then (interlude_observe _ rfl)
  | cancel query => exact (service.interlude_cancelNamed query).then (interlude_observe _ rfl)
  | setToken query => exact service.interlude_setTokenNamed query
  | close dispatcher =>
      exact (service.interlude_closeNamed dispatcher).then (interlude_observe _ rfl)
  | panic message => exact .refl service

end Actions

end Service

end SnapshotQuery
