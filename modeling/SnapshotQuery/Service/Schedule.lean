import SnapshotQuery.Service.Setup

/-!
# Schedules

Ways to run a service: let all workers finish, let an origin handle what is in
its mailbox, or alternate between the two.  The panic of a callback ends them.
-/

namespace SnapshotQuery

namespace Service

/-- The message of the first callback that has panicked since an earlier moment. -/
def panicSince (service earlier : Service) : Option String :=
  ((service.observations.take
    (service.observations.length - earlier.observations.length)).filterMap
      Observation.panic?).getLast?

/-- The steps an attempt takes from the queue to the mailbox. -/
def attemptSteps : Nat := 6

def advanceBy : Nat → RequestId → Service → Service
  | 0, _, service => service
  | steps + 1, request, service => advanceBy steps request (service.advance request)

def settle (service : Service) : Service :=
  (service.attempts.map fun attempt => attempt.request).foldl
    (fun service request => advanceBy attemptSteps request service) service

/-- Handle messages until the mailbox is empty, a callback panics or a bound is reached. -/
def pollUpTo (id : ContextId) : Nat → Service → Service × Nat
  | 0, service => (service, 0)
  | bound + 1, service =>
      match service.process? id with
      | none => (service, 0)
      | some next =>
          if (next.panicSince service).isSome then (next, 1)
          else
            let (last, handled) := pollUpTo id bound next
            (last, handled + 1)

/-- More messages than can be handled in one go: each request is cancelled at most once and
refused by its dispatcher at most once while no worker runs. -/
def pollBound (service : Service) (id : ContextId) : Nat :=
  ((service.origin? id).map fun origin => origin.mailbox.length).getD 0 +
    2 * service.requestsMade + 1

def poll (service : Service) (id : ContextId) : Service × Nat :=
  pollUpTo id (service.pollBound id) service

def drive (id : ContextId) : Nat → Service → Service × List Nat
  | 0, service => (service, [])
  | rounds + 1, service =>
      let (next, handled) := service.settle.poll id
      if handled = 0 ∨ next.liveRequests id = 0 ∨ (next.panicSince service).isSome then
        (next, [handled])
      else
        let (last, later) := drive id rounds next
        (last, handled :: later)

/-- Handle messages one by one until nothing is live, letting the workers run whenever the
mailbox is empty.  The bound is on the number of messages. -/
def runUntilIdle (id : ContextId) : Nat → Service → Service
  | 0, service => service
  | bound + 1, service =>
      if service.liveRequests id = 0 then service
      else
        match (service.process? id).or (service.settle.process? id) with
        | none => service.settle
        | some next =>
            if (next.panicSince service).isSome then next else runUntilIdle id bound next

end Service

end SnapshotQuery
