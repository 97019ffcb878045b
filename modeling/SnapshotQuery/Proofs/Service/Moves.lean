import SnapshotQuery.Proofs.Service.Handling
import SnapshotQuery.Proofs.Service.Ownership
import SnapshotQuery.Proofs.Service.Run

/-!
# What a move does

Most moves are interludes.  The others advance an attempt, handle a message,
wake an origin, submit a query, or let an origin come or go.
-/

namespace SnapshotQuery.Service

/-- The mailbox of an origin with these messages left. -/
def leaveMessages (service : Service) (id : ContextId) (rest : List Message) : Service :=
  service.updateOrigin id fun origin => { origin with mailbox := rest }

/-- The service while a query is submitted. -/
def countRequest (service : Service) : Service :=
  { service with requestsMade := service.requestsMade + 1 }

/-- The service after a query is submitted, with its handle. -/
def keepHandle (service : Service) (label : String) (handle : Handle) : Service :=
  { service with handles := service.handles.insert label handle }

/-- The service without an origin. -/
def withoutOrigin (service : Service) (id : ContextId) : Service :=
  { service with origins := service.origins.filter fun origin => origin.settings.id ≠ id }

/-- What a move can do. -/
inductive Moved (service : Service) : Move → Service → Prop
  | interlude {move after} (interlude : Interlude [] service after) : Moved service move after
  | interposed {faults} : Moved service (.interpose faults) { service with faults }
  | woken {handle} (pending : handle ∈ service.wakeUps) :
      Moved service (.wake handle) (service.wake handle)
  | advanced {request after} (advanced : service.Advanced request after) :
      Moved service (.advance request) after
  | processed {id owner message rest after} (found : service.origin? id = some owner)
      (oldest : owner.mailbox = message :: rest)
      (handled : (service.leaveMessages id rest).Handled owner.settings message after) :
      Moved service (.process id) after
  | submitted {id query owner moment result} (found : service.origin? id = some owner)
      (interlude : Interlude [] service.countRequest moment)
      (launched : moment.Launched owner.settings
        (query.request ⟨service.requestsMade + 1⟩ id) result) :
      Moved service (.submit id query)
        ((result.1.insertLive id result.2).keepHandle query.label
          ⟨⟨service.requestsMade + 1⟩, id⟩)
  | originAdded {id config pool} :
      Moved service (.addOrigin id config) (service.addOrigin pool config).1
  | originDropped {id after} (interlude : Interlude [] (service.withoutOrigin id) after) :
      Moved service (.dropOrigin id) after

variable {service after : Service} {id : ContextId}

theorem origin?_id {owner : Origin} (found : service.origin? id = some owner) :
    owner.settings.id = id := by
  simpa using List.find?_some found

theorem mem_contextIds_of_origin? {owner : Origin} (found : service.origin? id = some owner) :
    id ∈ service.contextIds :=
  List.mem_map.mpr ⟨owner, List.mem_of_find?_eq_some found, origin?_id found⟩

theorem owns_of_origin? {owner : Origin} {request : Request}
    (found : service.origin? id = some owner) (live : request ∈ owner.live) :
    service.Owns id request :=
  ⟨owner, List.mem_of_find?_eq_some found, origin?_id found, live⟩

theorem holds_of_origin? {owner : Origin} {message : Message} {rest : List Message}
    (found : service.origin? id = some owner) (oldest : owner.mailbox = message :: rest) :
    service.Holds id message :=
  ⟨owner, List.mem_of_find?_eq_some found, origin?_id found, oldest ▸ List.mem_cons_self⟩

theorem owns_leaveMessages_iff {rest : List Message} {other : ContextId} {request : Request} :
    (service.leaveMessages id rest).Owns other request ↔ service.Owns other request :=
  owns_updateOrigin_iff (fun _ => rfl) (fun _ => rfl)

theorem owns_addOrigin_iff {pool : Dispatcher} {config : Config} {other : ContextId}
    {request : Request} :
    (service.addOrigin pool config).1.Owns other request ↔ service.Owns other request := by
  simp [Owns, addOrigin, or_and_right, exists_or]

theorem holds_addOrigin_iff {pool : Dispatcher} {config : Config} {other : ContextId}
    {message : Message} :
    (service.addOrigin pool config).1.Holds other message ↔ service.Holds other message := by
  simp [Holds, addOrigin, or_and_right, exists_or]

theorem owns_withoutOrigin_iff {other : ContextId} {request : Request} :
    (service.withoutOrigin id).Owns other request ↔ service.Owns other request ∧ other ≠ id := by
  constructor
  · rintro ⟨origin, member, rfl, held⟩
    obtain ⟨member, kept⟩ := List.mem_filter.mp member
    exact ⟨⟨origin, member, rfl, held⟩, of_decide_eq_true kept⟩
  · rintro ⟨⟨origin, member, rfl, held⟩, kept⟩
    exact ⟨origin, List.mem_filter.mpr ⟨member, decide_eq_true kept⟩, rfl, held⟩

theorem holds_withoutOrigin_iff {other : ContextId} {message : Message} :
    (service.withoutOrigin id).Holds other message ↔ service.Holds other message ∧ other ≠ id := by
  constructor
  · rintro ⟨origin, member, rfl, held⟩
    obtain ⟨member, kept⟩ := List.mem_filter.mp member
    exact ⟨⟨origin, member, rfl, held⟩, of_decide_eq_true kept⟩
  · rintro ⟨⟨origin, member, rfl, held⟩, kept⟩
    exact ⟨origin, List.mem_filter.mpr ⟨member, decide_eq_true kept⟩, rfl, held⟩

theorem interlude_keepSnapshot (name : String) (snapshot : Snapshot) :
    Interlude [] service (service.keepSnapshot name snapshot) := by
  have kept : Interlude [] service
      { service with snapshots := service.snapshots.insert name snapshot } :=
    interlude_of_ledger rfl (.refl _)
  exact kept.then (interlude_releaseAll _ _)

theorem interlude_copySnapshot (name : String) (snapshot : Snapshot) :
    Interlude [] service (service.copySnapshot name snapshot) := by
  have shared : Interlude [] service { service with
      store := { service.store with
        retention := service.store.retention.share snapshot } } :=
    interlude_of_ledger rfl (Store.precedes_retention _ _)
  exact shared.then (interlude_keepSnapshot name snapshot)

theorem interlude_dropSnapshot (name : String) :
    Interlude [] service (service.dropSnapshot name) := by
  have dropped : Interlude [] service
      { service with snapshots := service.snapshots.erase name } :=
    interlude_of_ledger rfl (.refl _)
  exact dropped.then (interlude_releaseAll _ _)

theorem interlude_dropView (name : String) : Interlude [] service (service.dropView name) := by
  have dropped : Interlude [] service { service with views := service.views.erase name } :=
    interlude_of_ledger rfl (.refl _)
  exact dropped.then (interlude_releaseAll _ _)

theorem interlude_addDispatcher (name : String) (workers : Nat) (shared : Option RegistryId) :
    Interlude [] service (service.addDispatcher name workers shared).1 :=
  interlude_of_ledger rfl (.refl _)

/-- To process an origin is to handle its oldest message. -/
theorem handled_of_process? (ready : ∀ id request, service.Owns id request → request.Ready)
    (processed : service.process? id = some after) : ∃ owner message rest,
      service.origin? id = some owner ∧ owner.mailbox = message :: rest ∧
        (service.leaveMessages id rest).Handled owner.settings message after := by
  unfold process? at processed
  cases found : service.origin? id with
  | none =>
      rw [found] at processed
      exact absurd processed nofun
  | some owner =>
      cases oldest : owner.mailbox with
      | nil =>
          simp only [found, oldest] at processed
          exact absurd processed nofun
      | cons message rest =>
          simp only [found, oldest] at processed
          obtain rfl := Option.some.inj processed
          refine ⟨owner, message, rest, rfl, oldest, handled_handle ?_⟩
          intro request live
          exact ready _ request (owns_leaveMessages_iff.mp (owns_of_liveRequest? live).1)

theorem moved_submit {owner : Origin} (found : service.origin? id = some owner) (query : Query) :
    service.Moved (.submit id query) (service.submit owner.settings query).1 := by
  obtain rfl := origin?_id found
  let request := query.request ⟨service.requestsMade + 1⟩ owner.settings.id
  let counted := (service.countRequest.count owner.settings.registry .submitted).report
    (.submitted request.id owner.settings.id query.policy)
  have interlude : Interlude [] service.countRequest counted :=
    (interlude_count _ _ _).then (interlude_report _ _)
  have launched : counted.Launched owner.settings request
      (counted.launchAttempt owner.settings request) := launched_launchAttempt (.inl rfl)
  have submitted : (service.submit owner.settings query).1 =
      (((counted.launchAttempt owner.settings request).1.putBack owner.settings.id
        (counted.launchAttempt owner.settings request).2).keepHandle query.label
          ⟨request.id, owner.settings.id⟩) := rfl
  rw [submitted, launched.putBack]
  exact .submitted found interlude launched

/-- What a move can do to a service whose requests are ready. -/
theorem moved_of_after? (ready : ∀ id request, service.Owns id request → request.Ready)
    {move : Move} (moved : service.after? move = some after) : service.Moved move after := by
  cases move with
  | act action =>
      obtain rfl := Option.some.inj moved
      exact .interlude (service.interlude_act action)
  | wake handle =>
      simp only [after?] at moved
      split at moved
      · rename_i pending
        obtain rfl := Option.some.inj moved
        exact .woken pending
      · exact absurd moved nofun
  | advance request =>
      obtain rfl := Option.some.inj moved
      exact .advanced (service.advanced_advance request)
  | process origin =>
      obtain ⟨owner, message, rest, found, oldest, handled⟩ := handled_of_process? ready moved
      exact .processed found oldest handled
  | submit origin query =>
      obtain ⟨owner, found, rfl⟩ := Option.map_eq_some_iff.mp moved
      exact moved_submit found query
  | addDispatcher name workers shared =>
      obtain rfl := Option.some.inj moved
      exact .interlude (interlude_addDispatcher name workers shared)
  | addOrigin dispatcher config =>
      obtain ⟨pool, _, rfl⟩ := Option.map_eq_some_iff.mp moved
      exact .originAdded
  | dropOrigin origin =>
      obtain rfl := Option.some.inj moved
      exact .originDropped (interlude_releaseAll _ _)
  | openSnapshot name version =>
      have opened := service.interlude_openSnapshot version
      simp only [after?] at moved
      generalize service.openSnapshot version = result at opened moved
      obtain ⟨moment, snapshot⟩ := result
      cases snapshot with
      | error refusal =>
          obtain rfl := Option.some.inj moved
          exact .interlude opened
      | ok snapshot =>
          obtain rfl := Option.some.inj moved
          exact .interlude (opened.then (interlude_keepSnapshot name snapshot))
  | copySnapshot source name =>
      obtain ⟨snapshot, _, rfl⟩ := Option.map_eq_some_iff.mp moved
      exact .interlude (interlude_copySnapshot name snapshot)
  | dropSnapshot name =>
      obtain rfl := Option.some.inj moved
      exact .interlude (interlude_dropSnapshot name)
  | dropView name =>
      obtain rfl := Option.some.inj moved
      exact .interlude (interlude_dropView name)
  | interpose faults =>
      obtain rfl := Option.some.inj moved
      exact .interposed

/-- A callback is called only while a message is handled that ends its request. -/
theorem ending_of_called {move : Move} (moved : service.Moved move after)
    (called : after.callbacks ≠ service.callbacks) :
    ∃ owner message rest request calls state, move = .process owner.settings.id ∧
      service.origin? owner.settings.id = some owner ∧ owner.mailbox = message :: rest ∧
      (service.leaveMessages owner.settings.id rest).liveRequest? owner.settings.id
        message.request = some request ∧
      (service.leaveMessages owner.settings.id rest).Ending owner.settings message request calls
        state ∧
      after.callbacks = calls ++ service.callbacks := by
  cases moved with
  | interlude interlude => exact absurd interlude.callbacks called
  | interposed => exact absurd rfl called
  | woken _ => exact absurd rfl called
  | originAdded => exact absurd rfl called
  | originDropped interlude => exact absurd interlude.callbacks called
  | advanced advanced =>
      cases advanced with
      | waiting => exact absurd rfl called
      | moved _ _ passes => exact absurd passes.interlude.callbacks called
      | skipped _ _ _ interlude => exact absurd interlude.callbacks called
      | orphaned _ _ _ interlude => exact absurd interlude.callbacks called
      | posted _ _ _ interlude _ => exact absurd interlude.callbacks called
  | submitted _ interlude launched =>
      cases launched with
      | accepted later _ _ _ => exact absurd (interlude.then later).callbacks called
      | refused later _ _ => exact absurd (interlude.then later).callbacks called
  | @processed id owner message rest _ found oldest handled =>
      obtain rfl := origin?_id found
      cases handled with
      | dropped _ interlude => exact absurd interlude.callbacks called
      | relaunched _ _ _ interlude _ launched closing =>
          refine absurd (closing.callbacks.trans ?_) called
          cases launched with
          | accepted later _ _ _ => exact (interlude.then later).callbacks
          | refused later _ _ => exact (interlude.then later).callbacks
      | ended live _ ending interlude _ _ closing =>
          exact ⟨owner, message, rest, _, _, _, rfl, found, oldest, live, ending,
            closing.callbacks.trans interlude.callbacks⟩

end SnapshotQuery.Service
