import SnapshotQuery.Service.Access

/-!
# Reconciliation

Rows are handed over as a view only at the version they were computed at.  When
a result arrives its version is compared with the current one: equal versions
hand the rows over, and a stale result is brought over to the current version,
computed again, or given up.
-/

namespace SnapshotQuery

inductive Reconciliation where
  | converged (view : View)
  /-- The rows were brought over without a loss. -/
  | rederived (view : View)
  | retry (snapshot origin : VersionStamp)
  | giveUp (error : QueryError)

def Reconciliation.view? : Reconciliation → Option View
  | converged view | rederived view => some view
  | retry _ _ | giveUp _ => none

/-- What the policy makes of a result that is older than the origin. -/
def RetryPolicy.onMismatch (policy : RetryPolicy) (snapshot origin : VersionStamp)
    (attempts : Nat) (cancelled : Bool) : Reconciliation :=
  match policy.decide (attempts - 1) cancelled with
  | .retry => .retry snapshot origin
  | .giveUp => .giveUp (.unreachableVersion attempts snapshot origin)

namespace Service

/-- Bind rows to the store at a version, which must be their own. -/
def handOver (service : Service) (rows : RowSet) (target : VersionStamp) :
    Service × Except QueryError View :=
  if rows.version = target then
    match service.reachSnapshot (some target) with
    | (service, .ok snapshot) => (service, .ok ⟨snapshot, rows⟩)
    | (service, .error failure) => (service, .error (.store failure.storeError))
  else (service, .error (.handoverMismatch rows.version target))

def handOverAs (service : Service) (rows : RowSet) (target : VersionStamp)
    (done : View → Reconciliation) : Service × Reconciliation :=
  match service.handOver rows target with
  | (service, .ok view) => (service, done view)
  | (service, .error error) => (service, .giveUp error)

/-- Decide about the rows of an attempt; attempts count from one. -/
def reconcile (service : Service) (mode : ReconcileMode) (rows : RowSet) (policy : RetryPolicy)
    (attempts : Nat) (cancelled : Bool) : Service × Reconciliation :=
  let (service, current) := service.reachVersion
  if rows.version = current then service.handOverAs rows current .converged
  else
    match mode with
    | .strict => (service, policy.onMismatch rows.version current attempts cancelled)
    | .rederive =>
        match service.reachImport rows rows.version current with
        | (service, .error failure) => (service, .giveUp (.store failure.storeError))
        | (service, .ok imported) =>
            if imported.size = rows.size then service.handOverAs imported current .rederived
            else (service, policy.onMismatch rows.version current attempts cancelled)

def viewDocument (service : Service) (snapshot : Snapshot) (row : RowId) :
    Service × Except QueryError (Option Value) :=
  match service.reachDocument snapshot row with
  | (service, .ok document) => (service, .ok document)
  | (service, .error failure) => (service, .error (.store failure.storeError))

def documentAt (service : Service) (view : View) (index : Nat) :
    Service × Except QueryError (Option Value) :=
  match view.rows.rows[index]? with
  | some row => service.viewDocument view.snapshot row
  | none => (service, .ok none)

/-- The documents of rows in order, read one by one up to an error. -/
def documentsOf (service : Service) (snapshot : Snapshot) :
    List RowId → Service × Except QueryError (List Value)
  | [] => (service, .ok [])
  | row :: rest =>
      match service.viewDocument snapshot row with
      | (service, .error error) => (service, .error error)
      | (service, .ok document) =>
          match service.documentsOf snapshot rest with
          | (service, .error error) => (service, .error error)
          | (service, .ok documents) => (service, .ok (document.toList ++ documents))

def documents (service : Service) (view : View) : Service × Except QueryError (List Value) :=
  service.documentsOf view.snapshot view.rows.rows

def inspect (service : Service) (view : View) : Service × ViewReport :=
  let (service, documents) := service.documents view
  (service, ⟨view.rows, documents⟩)

def keepView (service : Service) (name : String) (view : View) : Service :=
  let replaced := (service.views.find? name).toList.map View.snapshot
  { service with views := service.views.insert name view }.releaseAll replaced

end Service

end SnapshotQuery
