import SnapshotQuery.Retention.Floor

/-!
# Snapshots

A snapshot fixes a version and keeps its history retained through a pin.
Copies of a snapshot share its pin, so the version is released when the last of
them is dropped.  Pins can also be set and lifted by hand, over the same floor.
-/

namespace SnapshotQuery

abbrev PinId := Nat

structure Snapshot where
  version : VersionStamp
  /-- The pin it holds; a snapshot without one retains nothing. -/
  pin : Option PinId
deriving DecidableEq, Inhabited

def Snapshot.unpinned (version : VersionStamp) : Snapshot := ⟨version, none⟩

def Snapshot.isPinned (snapshot : Snapshot) : Bool := snapshot.pin.isSome

/-- The floor of a store, with the number of copies that share each pin. -/
structure Retention where
  floor : VisibilityFloor
  holders : OrderedMap PinId Nat
  nextPin : PinId
deriving DecidableEq, Inhabited

namespace Retention

def empty : Retention := ⟨.empty, .empty, 0⟩

def acquire (retention : Retention) (version : VersionStamp) : Snapshot × Retention :=
  (⟨version, some retention.nextPin⟩,
    { floor := retention.floor.pin version
      holders := retention.holders.insert retention.nextPin 1
      nextPin := retention.nextPin + 1 })

def share (retention : Retention) (snapshot : Snapshot) : Retention :=
  match snapshot.pin with
  | none => retention
  | some pin =>
      match retention.holders.find? pin with
      | none => retention
      | some count => { retention with holders := retention.holders.insert pin (count + 1) }

/-- Drop one copy of a snapshot; the last copy releases the version. -/
def release (retention : Retention) (snapshot : Snapshot) : Retention :=
  match snapshot.pin with
  | none => retention
  | some pin =>
      match retention.holders.find? pin with
      | none => retention
      | some count =>
          if count ≤ 1 then
            { retention with
              floor := retention.floor.unpin snapshot.version
              holders := retention.holders.erase pin }
          else { retention with holders := retention.holders.insert pin (count - 1) }

end Retention

/-- What can be done with a floor and the snapshots over it; held copies are named by their
place. -/
inductive PinAction where
  | pin (version : VersionStamp)
  /-- Lift a pin, whether one was set or not. -/
  | unpin (version : VersionStamp)
  | acquire (version : VersionStamp)
  /-- Hold a new snapshot without a pin. -/
  | hold (version : VersionStamp)
  | copy (place : Nat)
  | drop (place : Nat)

structure PinnedSnapshots where
  retention : Retention
  held : List Snapshot

namespace PinnedSnapshots

def empty : PinnedSnapshots := ⟨.empty, []⟩

def perform (pinned : PinnedSnapshots) : PinAction → PinnedSnapshots
  | .pin version =>
      { pinned with
        retention := { pinned.retention with floor := pinned.retention.floor.pin version } }
  | .unpin version =>
      { pinned with
        retention := { pinned.retention with floor := pinned.retention.floor.unpin version } }
  | .acquire version =>
      let (snapshot, retention) := pinned.retention.acquire version
      ⟨retention, pinned.held ++ [snapshot]⟩
  | .hold version => { pinned with held := pinned.held ++ [.unpinned version] }
  | .copy place =>
      match pinned.held[place]? with
      | none => pinned
      | some snapshot => ⟨pinned.retention.share snapshot, pinned.held ++ [snapshot]⟩
  | .drop place =>
      match pinned.held[place]? with
      | none => pinned
      | some snapshot => ⟨pinned.retention.release snapshot, pinned.held.eraseIdx place⟩

def after (actions : List PinAction) : PinnedSnapshots := actions.foldl perform empty

end PinnedSnapshots

end SnapshotQuery
