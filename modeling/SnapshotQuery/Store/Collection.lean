import SnapshotQuery.Store.Basic

/-!
# Garbage collection

A collection drops every version no live snapshot can observe, drops the rows
that are deleted for all of them, and raises the horizon to the floor.
-/

namespace SnapshotQuery

structure GcReport where
  reclaimedVersions : Nat
  droppedRows : Nat
  /-- The oldest version snapshots can be opened at from now on. -/
  horizon : VersionStamp
deriving DecidableEq

namespace Store

/-- Drop what no reader at or above the floor can see. -/
def reclaim (store : Store) (floor : VersionStamp) : Store × GcReport :=
  let pruned := store.rows.mapItems fun chain => chain.pruneBelow floor
  let kept := pruned.filter fun _ chain => !chain.isDeadAt floor
  let horizon := max store.horizon floor
  ({ store with rows := kept, horizon },
    { reclaimedVersions :=
        store.rows.values.foldl (fun total chain => total + chain.prunedCount floor) 0
      droppedRows := pruned.size - kept.size
      horizon })

def collect (store : Store) : Except StoreError (Store × GcReport) := do
  store.lock
  return store.reclaim (store.retention.floor.collectionFloor store.authority.current)

end Store

end SnapshotQuery
