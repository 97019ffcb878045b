import SnapshotQuery.Service.Schedule

/-!
# Runs of a service

A run is any sequence of moves.  Workers, origins, cancellations and whatever
else uses the store take turns in any order, and interposed faults let further
actions happen before the store calls inside one move.
-/

namespace SnapshotQuery

inductive Move where
  /-- Write, collect, cancel, set a token or close a dispatcher. -/
  | act (action : Action)
  /-- The second half of a cancellation. -/
  | wake (handle : Handle)
  | advance (request : RequestId)
  | process (origin : ContextId)
  | submit (origin : ContextId) (query : Query)
  | addDispatcher (name : String) (workers : Nat) (shared : Option RegistryId)
  | addOrigin (dispatcher : DispatcherId) (config : Config)
  | dropOrigin (origin : ContextId)
  | openSnapshot (name : String) (version : Option VersionStamp)
  | copySnapshot (source name : String)
  | dropSnapshot (name : String)
  | dropView (name : String)
  /-- From now on these come between queries and their store calls. -/
  | interpose (faults : Method → List Fault)

namespace Service

def after? (service : Service) : Move → Option Service
  | .act action => some (service.act action).1
  | .wake handle => if handle ∈ service.wakeUps then some (service.wake handle) else none
  | .advance request => some (service.advance request)
  | .process origin => service.process? origin
  | .submit origin query =>
      (service.origin? origin).map fun owner => (service.submit owner.settings query).1
  | .addDispatcher name workers shared => some (service.addDispatcher name workers shared).1
  | .addOrigin dispatcher config =>
      (service.dispatcher? dispatcher).map fun pool => (service.addOrigin pool config).1
  | .dropOrigin origin => some (service.dropOrigin origin)
  | .openSnapshot name version =>
      match service.openSnapshot version with
      | (service, .ok snapshot) => some (service.keepSnapshot name snapshot)
      | (service, .error _) => some service
  | .copySnapshot source name =>
      (service.snapshots.find? source).map fun snapshot => service.copySnapshot name snapshot
  | .dropSnapshot name => some (service.dropSnapshot name)
  | .dropView name => some (service.dropView name)
  | .interpose faults => some { service with faults }

/-- The services that permitted moves lead to. -/
inductive Reaches (permitted : Service → Move → Prop) (first : Service) : Service → Prop
  | start : Reaches permitted first first
  | move {service after} (move : Move) (earlier : Reaches permitted first service)
      (allowed : permitted service move) (moved : service.after? move = some after) :
      Reaches permitted first after

def afterAll? (service : Service) : List Move → Option Service
  | [] => some service
  | move :: rest => (service.after? move).bind fun after => after.afterAll? rest

theorem Reaches.trans {permitted : Service → Move → Prop} {first middle last : Service}
    (earlier : first.Reaches permitted middle) (later : middle.Reaches permitted last) :
    first.Reaches permitted last := by
  induction later with
  | start => exact earlier
  | move move _ allowed moved inductionHypothesis =>
      exact .move move inductionHypothesis allowed moved

theorem Reaches.mono {permitted allowed : Service → Move → Prop} {first last : Service}
    (run : first.Reaches permitted last)
    (weaker : ∀ service move, permitted service move → allowed service move) :
    first.Reaches allowed last := by
  induction run with
  | start => exact .start
  | move move _ permit moved inductionHypothesis =>
      exact .move move inductionHypothesis (weaker _ move permit) moved

theorem reaches_of_afterAll? {permitted : Service → Move → Prop} {service last : Service}
    {moves : List Move} (moved : service.afterAll? moves = some last)
    (allowed : ∀ move ∈ moves, ∀ moment, permitted moment move) :
    service.Reaches permitted last := by
  induction moves generalizing service with
  | nil =>
      obtain rfl := Option.some.inj moved
      exact .start
  | cons move rest inductionHypothesis =>
      obtain ⟨after, first, others⟩ := Option.bind_eq_some_iff.mp moved
      have started := Reaches.move move .start (allowed move List.mem_cons_self service) first
      exact started.trans (inductionHypothesis others fun next member =>
        allowed next (List.mem_cons_of_mem move member))

/-- Moves one after the other lead somewhere if nothing is forbidden. -/
theorem reaches_of_moves {service last : Service} {moves : List Move}
    (moved : service.afterAll? moves = some last) : service.Reaches (fun _ _ => True) last :=
  reaches_of_afterAll? moved fun _ _ _ => trivial

def itemsSchema : TableSchema := (TableSchema.new "items").declare "rank" .int

def insertItem (rank : Nat) : Script := ⟨[.insert (.ofFields [("rank", .nat rank)])], false, none⟩

/-- A query for all rows that is not retried and whose callbacks do nothing. -/
def allRows (label : String) : Query :=
  ⟨label, .all, .noRetry, none, ⟨none, fun _ => []⟩, fun _ => []⟩

/-- Two queries are submitted and one of them is cancelled; then the other one is evaluated. -/
def twoQueries : List Move := [
  .act (.write (insertItem 5)),
  .addDispatcher "pool" 1 none,
  .addOrigin ⟨1⟩ .default,
  .submit ⟨1⟩ (allRows "kept"),
  .submit ⟨1⟩ (allRows "dropped"),
  .act (.cancel "dropped"),
  .advance ⟨1⟩, .advance ⟨1⟩, .advance ⟨1⟩, .advance ⟨1⟩, .advance ⟨1⟩, .advance ⟨1⟩]

end Service

end SnapshotQuery
