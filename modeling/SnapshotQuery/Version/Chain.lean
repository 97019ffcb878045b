import SnapshotQuery.Value.Basic
import SnapshotQuery.Version.Stamp

/-!
# Version chains

The history of one row, oldest version first.  A reader at a version sees the
newest entry committed at or below it; a tombstone hides the row.  Pruning
drops the entries that no reader at or above a floor can see.
-/

namespace SnapshotQuery

inductive Payload where
  | document (document : Value)
  /-- The row is deleted from this version on. -/
  | tombstone
deriving Inhabited

structure RowVersion where
  payload : Payload
  committedAt : VersionStamp
deriving Inhabited

namespace RowVersion

def isTombstone (version : RowVersion) : Bool :=
  match version.payload with
  | .document _ => false
  | .tombstone => true

def document? (version : RowVersion) : Option Value :=
  match version.payload with
  | .document document => some document
  | .tombstone => none

end RowVersion

/-- The retained history of one row, oldest version first. -/
structure VersionChain where
  versions : List RowVersion
deriving Inhabited

namespace VersionChain

def empty : VersionChain := ⟨[]⟩

def size (chain : VersionChain) : Nat := chain.versions.length

def isEmpty (chain : VersionChain) : Bool := chain.versions.isEmpty

def latest? (chain : VersionChain) : Option RowVersion := chain.versions.getLast?

def push (chain : VersionChain) (version : RowVersion) : VersionChain :=
  ⟨chain.versions ++ [version]⟩

@[simp]
theorem latest?_push (chain : VersionChain) (version : RowVersion) :
    (chain.push version).latest? = some version := by
  simp [push, latest?]

@[simp]
theorem size_push (chain : VersionChain) (version : RowVersion) :
    (chain.push version).size = chain.size + 1 := by
  simp [push, size]

/-- The newest version committed at or below a stamp. -/
def resolve? (chain : VersionChain) (stamp : VersionStamp) : Option RowVersion :=
  chain.versions.reverse.find? fun version => version.committedAt ≤ stamp

def visible? (chain : VersionChain) (stamp : VersionStamp) : Option RowVersion :=
  (chain.resolve? stamp).filter fun version => !version.isTombstone

def documentAt? (chain : VersionChain) (stamp : VersionStamp) : Option Value :=
  (chain.visible? stamp).bind RowVersion.document?

/-- How many versions at the front have a newer one at or below the floor. -/
def superseded (floor : VersionStamp) : List RowVersion → Nat
  | [] => 0
  | _ :: rest =>
      if rest.any fun version => version.committedAt ≤ floor then superseded floor rest + 1 else 0

theorem superseded_le (floor : VersionStamp) (versions : List RowVersion) :
    superseded floor versions ≤ versions.length := by
  induction versions with
  | nil => simp [superseded]
  | cons version rest ih =>
      unfold superseded
      split
      · simpa using ih
      · simp

/-- Drop the versions no reader at or above the floor can see. -/
def pruneBelow (chain : VersionChain) (floor : VersionStamp) : VersionChain :=
  ⟨chain.versions.drop (superseded floor chain.versions)⟩

def prunedCount (chain : VersionChain) (floor : VersionStamp) : Nat :=
  superseded floor chain.versions

theorem size_pruneBelow_add_prunedCount (chain : VersionChain) (floor : VersionStamp) :
    (chain.pruneBelow floor).size + chain.prunedCount floor = chain.size := by
  have := superseded_le floor chain.versions
  simp only [pruneBelow, prunedCount, size, List.length_drop]
  omega

/-- The chain is one tombstone at or below the floor, so no reader from there on sees the row. -/
def isDeadAt (chain : VersionChain) (floor : VersionStamp) : Bool :=
  match chain.versions with
  | [only] => only.isTombstone && decide (only.committedAt ≤ floor)
  | _ => false

end VersionChain

end SnapshotQuery
