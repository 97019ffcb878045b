import SnapshotQuery.Service.Action

/-!
# Store calls of queries

Queries reach the store through calls that others may come between.  The faults
waiting for a method are used up one by one: each acts first, and then lets the
call through or answers it.
-/

namespace SnapshotQuery

inductive CallFailure where
  | refused (error : StoreError)
  | panicked (message : String)

/-- The failure as the store error an origin sees. -/
def CallFailure.storeError : CallFailure → StoreError
  | refused error => error
  | panicked message => .internal message

namespace Service

/-- Take the next fault of a method and do what comes before the call. -/
def interrupt (service : Service) (method : Method) : Service × Fault × Option String :=
  match service.faults method with
  | [] => (service, .none, none)
  | fault :: rest =>
      let (service, panic) :=
        { service with
          faults := fun other => if other = method then rest else service.faults other }.actAll
            fault.before
      (service, fault, panic)

/-- Make a call, unless a fault panics or answers with an error. -/
def reach {Item : Type} (service : Service) (method : Method)
    (call : Fault → Service → Service × Except StoreError Item) :
    Service × Except CallFailure Item :=
  match service.interrupt method with
  | (service, _, some message) => (service, .error (.panicked message))
  | (service, fault, none) =>
      match fault.error with
      | some error => (service, .error (.refused error))
      | none =>
          let (service, result) := call fault service
          (service, result.mapError .refused)

/-- The current version of the store.  An error cannot answer this call, so a fault that has
one lets the call through, also if it has a version. -/
def reachVersion (service : Service) : Service × VersionStamp :=
  let (service, fault, _) := service.interrupt .currentVersion
  match fault.error, fault.version with
  | none, some version => (service, version)
  | _, _ => (service, service.store.currentVersion)

def reachSnapshot (service : Service) (version : Option VersionStamp) :
    Service × Except CallFailure Snapshot :=
  service.reach .openSnapshot fun fault service =>
    match fault.unpinned with
    | some version => (service, .ok (.unpinned version))
    | none => service.openSnapshot version

def reachRows (service : Service) (snapshot : Snapshot) (predicate : Predicate) :
    Service × Except CallFailure RowSet :=
  service.reach .evaluate fun _ service => (service, service.store.evaluate snapshot predicate)

def reachImport (service : Service) (rows : RowSet) (source target : VersionStamp) :
    Service × Except CallFailure RowSet :=
  service.reach .importRows fun _ service => (service, service.store.importRows rows source target)

def reachDocument (service : Service) (snapshot : Snapshot) (row : RowId) :
    Service × Except CallFailure (Option Value) :=
  service.reach .readRow fun _ service => (service, service.store.readRow snapshot row)

end Service

end SnapshotQuery
