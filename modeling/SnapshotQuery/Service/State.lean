import SnapshotQuery.Log.Event
import SnapshotQuery.Query.Metrics
import SnapshotQuery.Query.Request

/-!
# The state of a query service

One store, the dispatchers whose workers evaluate queries, and the origin
contexts that own them.  An attempt goes from its origin through a dispatcher to
a worker and comes back as a message in the mailbox of the origin.
-/

namespace SnapshotQuery

inductive Method where
  | currentVersion
  | openSnapshot
  | evaluate
  | importRows
  | readRow
deriving DecidableEq, Inhabited

/-- What comes between a query and a store call: actions, and what is answered in its place. -/
structure Fault where
  before : List Action
  /-- Returned instead of calling the store; the current version is always known. -/
  error : Option StoreError
  version : Option VersionStamp
  unpinned : Option VersionStamp

def Fault.none : Fault := ⟨[], .none, .none, .none⟩

structure DispatcherId where
  number : Nat
deriving DecidableEq, Inhabited

structure RegistryId where
  number : Nat
deriving DecidableEq, Inhabited

structure Dispatcher where
  id : DispatcherId
  registry : RegistryId
  maxWorkers : Nat
  idle : Nat
  closed : Bool
  /-- Requests with an attempt that is accepted and not released yet. -/
  inFlight : List RequestId
deriving DecidableEq, Inhabited

structure Outcome where
  result : Except QueryError RowSet
  snapshot : Option Snapshot
  evaluated : Bool

inductive Phase where
  | queued
  | admitted
  /-- The token was seen unset. -/
  | cleared
  /-- The token was seen set before the evaluation. -/
  | abandoned
  | finished (outcome : Outcome)
  /-- The request may be dispatched again. -/
  | released (outcome : Outcome)
  /-- The token was seen unset after the evaluation. -/
  | checked (outcome : Outcome)

structure Attempt where
  request : RequestId
  origin : ContextId
  dispatcher : DispatcherId
  label : String
  number : Nat
  predicate : Predicate
  hook : Option Hook
  phase : Phase

structure Completion where
  request : RequestId
  origin : ContextId
  attempt : Nat
  result : Except QueryError RowSet
  /-- Keeps the version of the rows retained until the origin has looked at them. -/
  snapshot : Option Snapshot

inductive Message where
  | completed (completion : Completion)
  | cancelRequested (request : RequestId)

def Message.snapshot? : Message → Option Snapshot
  | completed completion => completion.snapshot
  | cancelRequested _ => none

structure OriginSettings where
  id : ContextId
  dispatcher : DispatcherId
  registry : RegistryId
  config : Config
deriving DecidableEq, Inhabited

structure Origin where
  settings : OriginSettings
  /-- Messages not yet handled, oldest first. -/
  mailbox : List Message
  live : List Request

structure Handle where
  request : RequestId
  origin : ContextId
deriving DecidableEq, Inhabited

structure ViewReport where
  rows : RowSet
  documents : Except QueryError (List Value)

inductive ActionResult where
  | wrote (report : WriteReport)
  | collected (result : Except StoreError GcReport)
  | cancelled (first : Option Bool)
  | closed

inductive Observation where
  | acted (result : ActionResult)
  | hookRan (label : String) (run : HookRun)
  | succeeded (label : String) (request : RequestId) (view : ViewReport)
  | failed (label : String) (request : RequestId) (error : QueryError)
  | panicked (request : RequestId) (message : String)

def Observation.panic? : Observation → Option String
  | panicked _ message => some message
  | acted _ | hookRan _ _ | succeeded _ _ _ | failed _ _ _ => none

structure Service where
  store : Store
  faults : Method → List Fault
  registries : List (RegistryId × Metrics)
  dispatchers : List Dispatcher
  origins : List Origin
  /-- Attempts accepted and not ended, in the order of their dispatch. -/
  attempts : List Attempt
  cancelled : List RequestId
  /-- Cancellations that have set the token and have not woken the origin yet. -/
  wakeUps : List Handle
  /-- Requests that have ended, latest first. -/
  ended : List Request
  snapshots : OrderedMap String Snapshot
  views : OrderedMap String View
  handles : OrderedMap String Handle
  dispatcherNames : OrderedMap String DispatcherId
  requestsMade : Nat
  contextsMade : Nat
  dispatchersMade : Nat
  /-- All that was reported, latest first. -/
  trail : List Event
  /-- All that was noticed, latest first. -/
  observations : List Observation

namespace Service

def new (schema : TableSchema) : Service where
  store := Store.new schema
  faults _ := []
  registries := []
  dispatchers := []
  origins := []
  attempts := []
  cancelled := []
  wakeUps := []
  ended := []
  snapshots := .empty
  views := .empty
  handles := .empty
  dispatcherNames := .empty
  requestsMade := 0
  contextsMade := 0
  dispatchersMade := 0
  trail := []
  observations := []

def report (service : Service) (event : Event) : Service :=
  { service with trail := event :: service.trail }

def observe (service : Service) (observation : Observation) : Service :=
  { service with observations := observation :: service.observations }

def isCancelled (service : Service) (request : RequestId) : Bool :=
  decide (request ∈ service.cancelled)

def origin? (service : Service) (id : ContextId) : Option Origin :=
  service.origins.find? fun origin => origin.settings.id = id

def updateOrigin (service : Service) (id : ContextId) (change : Origin → Origin) : Service :=
  { service with
    origins := service.origins.map fun origin =>
      if origin.settings.id = id then change origin else origin }

def dispatcher? (service : Service) (id : DispatcherId) : Option Dispatcher :=
  service.dispatchers.find? fun dispatcher => dispatcher.id = id

def updateDispatcher (service : Service) (id : DispatcherId) (change : Dispatcher → Dispatcher) :
    Service :=
  { service with
    dispatchers := service.dispatchers.map fun dispatcher =>
      if dispatcher.id = id then change dispatcher else dispatcher }

def metrics (service : Service) (id : RegistryId) : Metrics :=
  (service.registries.lookup id).getD .zero

def count (service : Service) (id : RegistryId) (counter : Counter) : Service :=
  { service with
    registries := service.registries.map fun (registry, metrics) =>
      (registry, if registry = id then metrics.increment counter else metrics) }

def release (service : Service) (snapshot : Snapshot) : Service :=
  { service with store := service.store.release snapshot }

def releaseAll (service : Service) (snapshots : List Snapshot) : Service :=
  snapshots.foldl release service

/-- Post a message; nothing happens if the origin is gone. -/
def post (service : Service) (id : ContextId) (message : Message) : Service :=
  service.updateOrigin id fun origin => { origin with mailbox := origin.mailbox ++ [message] }

end Service

end SnapshotQuery
