import SnapshotQuery.OrderedMap
import SnapshotQuery.Version.Stamp

/-!
# Visibility floor

Readers pin the version they read.  The oldest pin, or the current version when
nothing is pinned, is the floor below which history may be reclaimed.
-/

namespace SnapshotQuery

/-- A count of readers for each pinned version; counts are positive. -/
structure VisibilityFloor where
  pins : OrderedMap VersionStamp Nat
deriving DecidableEq, Inhabited

namespace VisibilityFloor

def empty : VisibilityFloor := ⟨.empty⟩

def readers (floor : VisibilityFloor) (version : VersionStamp) : Nat :=
  (floor.pins.find? version).getD 0

def pin (floor : VisibilityFloor) (version : VersionStamp) : VisibilityFloor :=
  ⟨floor.pins.insert version (floor.readers version + 1)⟩

@[simp]
theorem readers_pin (floor : VisibilityFloor) (version other : VersionStamp) :
    (floor.pin version).readers other =
      floor.readers other + if other = version then 1 else 0 := by
  by_cases same : other = version <;> simp [pin, readers, same]

/-- One reader less; a version that is not pinned stays as it is. -/
def unpin (floor : VisibilityFloor) (version : VersionStamp) : VisibilityFloor :=
  match floor.pins.find? version with
  | none => floor
  | some count =>
      if count ≤ 1 then ⟨floor.pins.erase version⟩
      else ⟨floor.pins.insert version (count - 1)⟩

@[simp]
theorem readers_unpin (floor : VisibilityFloor) (version other : VersionStamp) :
    (floor.unpin version).readers other =
      floor.readers other - if other = version then 1 else 0 := by
  unfold unpin readers
  split
  · rename_i free
    by_cases same : other = version <;> simp [same, free]
  · rename_i count pinned
    split
    · by_cases same : other = version
      · simp [same, pinned]
        omega
      · simp [same]
    · by_cases same : other = version <;> simp [same, pinned]

def lowerBound? (floor : VisibilityFloor) : Option VersionStamp :=
  floor.pins.keys.head?

def pinnedCount (floor : VisibilityFloor) : Nat := floor.pins.values.foldl (· + ·) 0

/-- The version below which history may be reclaimed. -/
def collectionFloor (floor : VisibilityFloor) (current : VersionStamp) : VersionStamp :=
  match floor.lowerBound? with
  | some oldest => min oldest current
  | none => current

end VisibilityFloor

end SnapshotQuery
