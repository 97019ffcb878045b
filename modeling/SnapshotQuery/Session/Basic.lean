import SnapshotQuery.Session.Command
import SnapshotQuery.Service.Schedule

/-!
# Sessions

A session runs commands one after the other.  After each it tells what the
command answered, what was noticed and printed meanwhile, and how the store
stands.
-/

namespace SnapshotQuery

/-- A service together with the names a script uses and the lines printed so far. -/
structure Session where
  service : Service
  sets : OrderedMap String RowSet
  origins : OrderedMap String ContextId
  /-- How many times at most the hooks and faults given so far can still make a version stale. -/
  disturbances : Nat
  journal : Journal

/-- What is known after a command. -/
structure StepReport where
  reply : Reply
  version : VersionStamp
  live : Except StoreError Nat
  pinned : Nat
  /-- What was noticed during the command, oldest first. -/
  observations : List Observation
  /-- What was printed during the command. -/
  journal : Journal

namespace QueryScript

/-- The hook of a script: each attempt has its own actions. -/
def hookOf (runs : List (List Action)) : Hook :=
  fun run => (runs[run.attempt - 1]?).getD []

def query (script : QueryScript) (label : String) (config : Config) : Query where
  label := label
  predicate := script.predicate
  policy := script.policy.getD
    (if script.usesDefaultPolicy then config.defaultRetryPolicy else .indefinite)
  hook := script.hook.map hookOf
  onSuccess := ⟨script.keep, fun _ => script.onSuccess⟩
  onError := fun _ => script.onError

end QueryScript

namespace Session

/-- A session over an empty store. -/
def new (schema : TableSchema) (journal : Journal) : Session where
  service := .new schema
  sets := .empty
  origins := .empty
  disturbances := 0
  journal := journal

def answer (session : Session) (outcome : Service × Reply) : Session × Reply :=
  ({ session with service := outcome.1 }, outcome.2)

def withSnapshot (session : Session) (name : String) (use : Snapshot → Session × Reply) :
    Session × Reply :=
  match session.service.snapshots.find? name with
  | some snapshot => use snapshot
  | none => (session, .missing name)

def withSet (session : Session) (name : String) (use : RowSet → Session × Reply) :
    Session × Reply :=
  match session.sets.find? name with
  | some rows => use rows
  | none => (session, .missing name)

def withDispatcher (session : Session) (name : String) (use : Dispatcher → Session × Reply) :
    Session × Reply :=
  match (session.service.dispatcherNames.find? name).bind session.service.dispatcher? with
  | some dispatcher => use dispatcher
  | none => (session, .missing name)

def withOrigin (session : Session) (name : String) (use : Origin → Session × Reply) :
    Session × Reply :=
  match (session.origins.find? name).bind session.service.origin? with
  | some origin => use origin
  | none => (session, .missing name)

/-- Answer with rows, which are kept under a name if one is given. -/
def answerRows (session : Session) (name : Option String) (result : Except StoreError RowSet) :
    Session × Reply :=
  match name, result with
  | some name, .ok rows => ({ session with sets := session.sets.insert name rows }, .rows result)
  | _, _ => (session, .rows result)

/-- Keep a view under a name if one is given, and drop it otherwise. -/
def keepOrRelease (service : Service) (name : Option String) (view : View) : Service :=
  match name with
  | some name => service.keepView name view
  | none => service.release view.snapshot

def handOver (service : Service) (rows : RowSet) (target : VersionStamp) (name : Option String) :
    Service × Reply :=
  match service.handOver rows target with
  | (service, .error error) => (service, .handedOver (.error error))
  | (service, .ok view) =>
      let (service, seen) := service.inspect view
      (keepOrRelease service name view, .handedOver (.ok seen))

/-- Reconcile rows and show the view, if there is one. -/
def reconcile (service : Service) (mode : ReconcileMode) (rows : RowSet) (policy : RetryPolicy)
    (attempts : Nat) (cancelled : Bool) (name : Option String) : Service × Reply :=
  let (service, outcome) := service.reconcile mode rows policy attempts cancelled
  match outcome.view? with
  | none => (service, .reconciled mode outcome none)
  | some view =>
      let (service, seen) := service.inspect view
      (keepOrRelease service name view, .reconciled mode outcome (some seen))

def showView (service : Service) (name : String) : Service × Reply :=
  match service.views.find? name with
  | none => (service, .view none)
  | some view =>
      let (service, seen) := service.inspect view
      (service, .view (some seen))

def viewDocument (service : Service) (name : String) (index : Nat) : Service × Reply :=
  match service.views.find? name with
  | none => (service, .missing name)
  | some view =>
      let (service, document) := service.documentAt view index
      (service, .document document)

def addDispatcher (service : Service) (name : String) (config : Config) (shared : Option String) :
    Service × Reply :=
  match Dispatcher.workersFor config with
  | .error message => (service, .panicked message)
  | .ok workers =>
      let registry := ((shared.bind service.dispatcherNames.find?).bind service.dispatcher?).map
        fun dispatcher => dispatcher.registry
      let (service, dispatcher) := service.addDispatcher name workers registry
      (service, .dispatcher dispatcher)

/-- Answer how far an origin was driven, unless a callback panicked on the way. -/
def driven (session : Session) (service : Service) (reply : Reply) : Session × Reply :=
  session.answer (service, ((service.panicSince session.service).map .panicked).getD reply)

/-- Set up an origin under a name; the one that had the name goes away. -/
def addOrigin (session : Session) (name : String) (dispatcher : Dispatcher) (config : Config) :
    Session × Reply :=
  let (service, settings) := session.service.addOrigin dispatcher config
  let (service, version) := service.reachVersion
  let service := match session.origins.find? name with
    | some replaced => service.dropOrigin replaced
    | none => service
  ({ session with service, origins := session.origins.insert name settings.id },
    .origin settings version)

def dropOrigin (session : Session) (name : String) : Session × Reply :=
  match session.origins.find? name with
  | none => (session, .flag false)
  | some id =>
      ({ session with
          service := session.service.dropOrigin id
          origins := session.origins.erase name },
        .flag true)

def submit (session : Session) (name : String) (origin : OriginSettings) (script : QueryScript) :
    Session × Reply :=
  let (service, handle) := session.service.submit origin (script.query name origin.config)
  ({ session with
      service
      disturbances := session.disturbances + (script.hook.getD []).length },
    .submitted handle.request (service.liveRequests origin.id)
      (service.requestState? origin.id handle.request))

/-- The state and the token of every query, as an origin sees it. -/
def queryStates (service : Service) (origin : ContextId) :
    List (String × Option RequestState × Bool) :=
  service.handles.entries.map fun (name, handle) =>
    (name, service.requestState? origin handle.request, service.isCancelled handle.request)

/-- More messages than an origin with one live request can come to handle: an attempt is only
retried after a disturbance. -/
def idleBound (session : Session) (origin : ContextId) : Nat :=
  session.service.pollBound origin + session.disturbances

def run (session : Session) : Command → Session × Reply
  | .write script =>
      let (service, report) := session.service.write script
      session.answer (service, .written report)
  | .collect =>
      let (service, result) := session.service.collect
      session.answer (service, .collected result)
  | .schema => (session, .schema session.service.store.schema)
  | .openSnapshot name version =>
      match session.service.openSnapshot version with
      | (service, .ok snapshot) =>
          session.answer (service.keepSnapshot name snapshot, .opened (.ok snapshot.version))
      | (service, .error error) => session.answer (service, .opened (.error error))
  | .unpinned name version =>
      session.answer (session.service.keepSnapshot name (.unpinned version), .nothing)
  | .copySnapshot source name =>
      session.withSnapshot source fun snapshot =>
        session.answer (session.service.copySnapshot name snapshot, .nothing)
  | .dropSnapshot name =>
      session.answer (session.service.dropSnapshot name,
        .flag (session.service.snapshots.contains name))
  | .evaluate snapshot predicate name =>
      session.withSnapshot snapshot fun snapshot =>
        session.answerRows name (session.service.store.evaluate snapshot predicate)
  | .importRows set source target name =>
      session.withSet set fun rows =>
        session.answerRows name (session.service.store.importRows rows source target)
  | .enterRows name rows => session.answerRows (some name) (.ok rows)
  | .readRow snapshot row =>
      session.withSnapshot snapshot fun snapshot =>
        (session, .document ((session.service.store.readRow snapshot row).mapError .store))
  | .expectFaults method faults =>
      ({ session with
          service := { session.service with
            faults := fun other =>
              if other = method then faults else session.service.faults other }
          disturbances := session.disturbances + faults.length },
        .nothing)
  | .handOver set target name =>
      session.withSet set fun rows => session.answer (handOver session.service rows target name)
  | .reconcile set mode policy attempts cancelled name =>
      session.withSet set fun rows =>
        session.answer (reconcile session.service mode rows policy attempts cancelled name)
  | .showView name => session.answer (showView session.service name)
  | .viewDocument name index => session.answer (viewDocument session.service name index)
  | .dropView name =>
      session.answer (session.service.dropView name, .flag (session.service.views.contains name))
  | .addDispatcher name config shared =>
      session.answer (addDispatcher session.service name config shared)
  | .close name => session.answer (session.service.closeNamed name, .nothing)
  | .showDispatcher name =>
      session.withDispatcher name fun dispatcher =>
        (session, .dispatcherState dispatcher
          (session.service.handles.entries.map fun (name, handle) =>
            (name, decide (handle.request ∈ dispatcher.inFlight)))
          (session.service.metrics dispatcher.registry))
  | .addOrigin name dispatcher config =>
      session.withDispatcher dispatcher fun dispatcher =>
        session.addOrigin name dispatcher config
  | .dropOrigin name => session.dropOrigin name
  | .submit name origin script =>
      session.withOrigin origin fun origin => session.submit name origin.settings script
  | .cancel query =>
      let (service, first) := session.service.cancelNamed query
      session.answer (service, .cancelled first)
  | .settle => session.answer (session.service.settle, .nothing)
  | .poll origin =>
      session.withOrigin origin fun origin =>
        let (service, handled) := session.service.poll origin.settings.id
        session.driven service (.polled handled (service.liveRequests origin.settings.id))
  | .drive origin rounds =>
      session.withOrigin origin fun origin =>
        let (service, handled) := Service.drive origin.settings.id rounds session.service
        session.driven service (.driven handled (service.liveRequests origin.settings.id))
  | .runUntilIdle origin =>
      session.withOrigin origin fun origin =>
        let id := origin.settings.id
        let service := Service.runUntilIdle id (session.idleBound id) session.service
        session.driven service.settle (.idle (service.liveRequests id))
  | .showOrigin name =>
      session.withOrigin name fun origin =>
        (session, .originState origin.live.length
          (queryStates session.service origin.settings.id)
          (session.service.metrics origin.settings.registry))

/-- Print what was reported after a number of earlier events. -/
def print (session : Session) (earlier : Nat) : Session :=
  let trail := session.service.trail
  { session with
    journal := session.journal.recordAll
      ((trail.take (trail.length - earlier)).reverse.map Event.entry) }

def step (session : Session) (command : Command) : Session × StepReport :=
  let (next, reply) := session.run command
  let next := next.print session.service.trail.length
  let noticed := next.service.observations
  (next,
    { reply
      version := next.service.store.currentVersion
      live := next.service.store.liveRows
      pinned := next.service.store.pinnedSnapshots
      observations := (noticed.take
        (noticed.length - session.service.observations.length)).reverse
      journal := { next.journal with
        lines := next.journal.lines.drop session.journal.lines.length } })

def runAll : Session → List Command → List StepReport
  | _, [] => []
  | session, command :: rest =>
      let (session, report) := session.step command
      report :: runAll session rest

end Session

end SnapshotQuery
