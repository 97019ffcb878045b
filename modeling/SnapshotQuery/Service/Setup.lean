import SnapshotQuery.Service.Origin

/-!
# Dispatchers, origins and queries

How dispatchers and origins are set up, how a query is submitted, and what is
left behind when an origin goes away.
-/

namespace SnapshotQuery

namespace Dispatcher

/-- The greatest number of workers a pool can be built for. -/
def mostWorkers : Nat := (1 <<< 61) - 1

/-- The number of workers for a configuration, at least one; a greater number than the pool
can have panics with a message. -/
def workersFor (config : Config) : Except String Nat :=
  let workers := max 1 config.maxWorkers
  if workers ≤ mostWorkers then .ok workers
  else .error ("a semaphore may not have more than MAX_PERMITS permits (" ++
    toString mostWorkers ++ ")")

/-- The error of a dispatcher that is asked for where no runtime could run its workers. -/
def noRuntime : QueryError :=
  .noRuntime "there is no reactor running, must be called from the context of a Tokio 1.x runtime"

end Dispatcher

structure Query where
  label : String
  predicate : Predicate
  policy : RetryPolicy
  hook : Option Hook
  onSuccess : SuccessCallback
  onError : ErrorCallback

def Query.request (query : Query) (id : RequestId) (origin : ContextId) : Request where
  id := id
  origin := origin
  label := query.label
  predicate := query.predicate
  policy := query.policy
  state := .pending
  attempts := 0
  hookRuns := 0
  onSuccess := some query.onSuccess
  onError := some query.onError
  hook := query.hook

namespace Service

def addDispatcher (service : Service) (name : String) (workers : Nat)
    (shared : Option RegistryId) : Service × Dispatcher :=
  let number := service.dispatchersMade + 1
  let registry := shared.getD ⟨number⟩
  let dispatcher : Dispatcher := ⟨⟨number⟩, registry, workers, workers, false, []⟩
  ({ service with
      registries := if shared.isSome then service.registries
        else service.registries ++ [(registry, .zero)]
      dispatchers := service.dispatchers ++ [dispatcher]
      dispatcherNames := service.dispatcherNames.insert name dispatcher.id
      dispatchersMade := number },
    dispatcher)

def addOrigin (service : Service) (dispatcher : Dispatcher) (config : Config) :
    Service × OriginSettings :=
  let number := service.contextsMade + 1
  let settings : OriginSettings := ⟨⟨number⟩, dispatcher.id, dispatcher.registry, config⟩
  ({ service with
      origins := service.origins ++ [⟨settings, [], []⟩]
      contextsMade := number },
    settings)

/-- An origin goes away with its requests and its mailbox. -/
def dropOrigin (service : Service) (id : ContextId) : Service :=
  let mailbox := ((service.origin? id).map fun origin => origin.mailbox).getD []
  { service with
    origins := service.origins.filter fun origin => origin.settings.id ≠ id }.releaseAll
      (mailbox.filterMap Message.snapshot?)

/-- Submit a query: its first attempt is launched at once, and a handle is kept under its
name. -/
def submit (service : Service) (origin : OriginSettings) (query : Query) : Service × Handle :=
  let number := service.requestsMade + 1
  let handle : Handle := ⟨⟨number⟩, origin.id⟩
  let service := { service with requestsMade := number }
  let service := (service.count origin.registry .submitted).report
    (.submitted handle.request origin.id query.policy)
  let (service, request) := service.launchAttempt origin (query.request handle.request origin.id)
  let service := service.putBack origin.id request
  ({ service with handles := service.handles.insert query.label handle }, handle)

def liveRequests (service : Service) (id : ContextId) : Nat :=
  ((service.origin? id).map fun origin => origin.live.length).getD 0

def requestState? (service : Service) (origin : ContextId) (request : RequestId) :
    Option RequestState :=
  (service.liveRequest? origin request).map (·.state)

/-- Put a snapshot under a name; the one that had the name is dropped. -/
def keepSnapshot (service : Service) (name : String) (snapshot : Snapshot) : Service :=
  let replaced := (service.snapshots.find? name).toList
  { service with snapshots := service.snapshots.insert name snapshot }.releaseAll replaced

def copySnapshot (service : Service) (name : String) (snapshot : Snapshot) : Service :=
  { service with
    store := { service.store with
      retention := service.store.retention.share snapshot } }.keepSnapshot name snapshot

def dropSnapshot (service : Service) (name : String) : Service :=
  let held := (service.snapshots.find? name).toList
  { service with snapshots := service.snapshots.erase name }.releaseAll held

def dropView (service : Service) (name : String) : Service :=
  let held := (service.views.find? name).toList.map View.snapshot
  { service with views := service.views.erase name }.releaseAll held

end Service

end SnapshotQuery
