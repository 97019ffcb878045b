import SnapshotQuery.Service.State

/-!
# Actions

What hooks, callbacks and interruptions do to a service: they write, collect
garbage, cancel queries and close dispatchers.  A panic ends the list of actions
it stands in.
-/

namespace SnapshotQuery

namespace Service

def write (service : Service) (script : Script) : Service × WriteReport :=
  let (store, report) := service.store.write script
  let service := { service with store }
  match report.commit with
  | .committed version changes =>
      (service.report (.storeCommit store.schema.name version changes), report)
  | .unchanged _ | .failed _ | .panicked _ => (service, report)

def collect (service : Service) : Service × Except StoreError GcReport :=
  match service.store.collect with
  | .ok (store, report) => ({ service with store }.report (.garbageCollected report), .ok report)
  | .error error => (service, .error error)

def openSnapshot (service : Service) (version : Option VersionStamp) :
    Service × Except StoreError Snapshot :=
  match service.store.openSnapshot version with
  | .ok (snapshot, store) =>
      ({ service with store }.report (.snapshotOpened snapshot.version), .ok snapshot)
  | .error error => (service, .error error)

/-- Set the token of a request; its origin is to be woken afterwards. -/
def setToken (service : Service) (handle : Handle) : Service × Bool :=
  if service.isCancelled handle.request then (service, false)
  else
    ({ service with
        cancelled := handle.request :: service.cancelled
        wakeUps := service.wakeUps ++ [handle] },
      true)

def wake (service : Service) (handle : Handle) : Service :=
  { service with wakeUps := service.wakeUps.erase handle }.post handle.origin
    (.cancelRequested handle.request)

/-- Cancel a request; the answer tells whether it was not cancelled before. -/
def cancel (service : Service) (handle : Handle) : Service × Bool :=
  match service.setToken handle with
  | (service, true) => (service.wake handle, true)
  | (service, false) => (service, false)

/-- Accept no more attempts; queued ones fail. -/
def close (service : Service) (id : DispatcherId) : Service :=
  service.updateDispatcher id fun dispatcher => { dispatcher with closed := true }

/-- Cancel the query last submitted under a name, if there is one. -/
def cancelNamed (service : Service) (query : String) : Service × Option Bool :=
  match service.handles.find? query with
  | some handle =>
      let (service, first) := service.cancel handle
      (service, some first)
  | none => (service, none)

def setTokenNamed (service : Service) (query : String) : Service :=
  match service.handles.find? query with
  | some handle => (service.setToken handle).1
  | none => service

def closeNamed (service : Service) (dispatcher : String) : Service :=
  match service.dispatcherNames.find? dispatcher with
  | some id => service.close id
  | none => service

/-- Do one action; a panic is returned with its message. -/
def act (service : Service) : Action → Service × Option String
  | .write script =>
      let (service, report) := service.write script
      (service.observe (.acted (.wrote report)), none)
  | .reportedWrite script attempt =>
      match service.write script with
      | (service, ⟨_, .failed error⟩) =>
          (service.report (.simulationWriteFailed attempt error), none)
      | (service, _) => (service, none)
  | .collect =>
      let (service, result) := service.collect
      (service.observe (.acted (.collected result)), none)
  | .cancel query =>
      let (service, first) := service.cancelNamed query
      (service.observe (.acted (.cancelled first)), none)
  | .setToken query => (service.setTokenNamed query, none)
  | .close dispatcher => ((service.closeNamed dispatcher).observe (.acted .closed), none)
  | .panic message => (service, some (message.getD "unknown panic"))

def actAll (service : Service) : List Action → Service × Option String
  | [] => (service, none)
  | action :: rest =>
      match service.act action with
      | (service, none) => service.actAll rest
      | (service, some message) => (service, some message)

end Service

end SnapshotQuery
