import SnapshotQuery.Predicate
import SnapshotQuery.Retention.Snapshot
import SnapshotQuery.Store.Error
import SnapshotQuery.Version.Authority
import SnapshotQuery.Version.Chain

/-!
# The store

One table in memory with the version history of every row.  The store answers
for every version from its horizon to the current one; older history has been
reclaimed.  A writer that panics poisons the lock, and from then on every call
that needs the lock fails.
-/

namespace SnapshotQuery

structure Store where
  schema : TableSchema
  authority : CommitAuthority
  rows : OrderedMap RowId VersionChain
  nextRow : RowId
  /-- The oldest version whose history is complete. -/
  horizon : VersionStamp
  /-- The latest committed version, readable without the lock. -/
  published : VersionStamp
  retention : Retention
  poisoned : Bool

namespace Store

def new (schema : TableSchema) : Store where
  schema := schema
  authority := CommitAuthority.new
  rows := .empty
  nextRow := 1
  horizon := VersionStamp.initial
  published := VersionStamp.initial
  retention := .empty
  poisoned := false

def currentVersion (store : Store) : VersionStamp := store.published

def pinnedSnapshots (store : Store) : Nat := store.retention.floor.pinnedCount

def documentAt? (store : Store) (row : RowId) (stamp : VersionStamp) : Option Value :=
  (store.rows.find? row).bind fun chain => chain.documentAt? stamp

/-- The rows that exist at a version with their documents, in row order. -/
def rowsAt (store : Store) (stamp : VersionStamp) : List (RowId × Value) :=
  store.rows.entries.filterMap fun (row, chain) =>
    (chain.documentAt? stamp).map fun document => (row, document)

def lock (store : Store) : Except StoreError Unit :=
  if store.poisoned then .error .lockPoisoned else .ok ()

def checkRetained (store : Store) (requested : VersionStamp) : Except StoreError Unit :=
  let current := store.authority.current
  if requested < store.horizon ∨ current < requested then
    .error (.snapshotUnavailable requested store.horizon current)
  else .ok ()

def liveRows (store : Store) : Except StoreError Nat := do
  store.lock
  return (store.rowsAt store.authority.current).length

def openSnapshot (store : Store) (version : Option VersionStamp) :
    Except StoreError (Snapshot × Store) := do
  store.lock
  let version := version.getD store.authority.current
  store.checkRetained version
  let (snapshot, retention) := store.retention.acquire version
  return (snapshot, { store with retention })

def release (store : Store) (snapshot : Snapshot) : Store :=
  { store with retention := store.retention.release snapshot }

/-- The rows a predicate holds of at the version of a snapshot.  The predicate is checked
before the lock is taken. -/
def evaluate (store : Store) (snapshot : Snapshot) (predicate : Predicate) :
    Except StoreError RowSet := do
  match predicate.check store.schema with
  | .error fault => .error (.invalidPredicate (fault.reason store.schema.name))
  | .ok () =>
      store.lock
      store.checkRetained snapshot.version
      return ⟨snapshot.version, ((store.rowsAt snapshot.version).filter fun row =>
        predicate.holds row.2).map (·.1)⟩

/-- The rows of a set that still exist at a later version.  The tags are checked before the
lock is taken. -/
def importRows (store : Store) (set : RowSet) (source target : VersionStamp) :
    Except StoreError RowSet := do
  if set.version ≠ source ∨ target < source then
    .error (.divergentHistory source target)
  else
    store.lock
    store.checkRetained source
    store.checkRetained target
    return ⟨target, set.rows.filter fun row => (store.documentAt? row target).isSome⟩

def readRow (store : Store) (snapshot : Snapshot) (row : RowId) :
    Except StoreError (Option Value) := do
  store.lock
  store.checkRetained snapshot.version
  return store.documentAt? row snapshot.version

end Store

end SnapshotQuery
