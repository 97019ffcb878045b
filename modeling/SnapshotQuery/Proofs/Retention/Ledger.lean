import SnapshotQuery.Proofs.Retention.Census

/-!
# Ledger of pins

Pins are set and lifted by hand, and snapshots are acquired, copied and dropped,
in any order.  A ledger says what the floor should come to: a counter for each
version, which the drop of a copy leaves alone while another copy is held.  The
floor of a store keeps exactly these counters, although it finds the last copy
by counting holders and lists no version without a reader.
-/

namespace SnapshotQuery

/-- What a floor should come to. -/
structure PinLedger where
  counter : VersionStamp → Nat
  /-- The copies that are held, with the number of their acquisition. -/
  held : List Snapshot
  acquired : Nat

namespace PinLedger

def empty : PinLedger := ⟨fun _ => 0, [], 0⟩

/-- One reader more. -/
def count (ledger : PinLedger) (version : VersionStamp) : PinLedger :=
  { ledger with
    counter := fun other => ledger.counter other + if other = version then 1 else 0 }

/-- One reader less, if there is one. -/
def discount (ledger : PinLedger) (version : VersionStamp) : PinLedger :=
  { ledger with
    counter := fun other => ledger.counter other - if other = version then 1 else 0 }

/-- A copy is no longer held; the last copy of a snapshot with a pin takes a reader along. -/
def dropCopy (ledger : PinLedger) (place : Nat) (snapshot : Snapshot) : PinLedger :=
  let rest := { ledger with held := ledger.held.eraseIdx place }
  if snapshot.isPinned = true ∧ snapshot ∉ rest.held then rest.discount snapshot.version
  else rest

def perform (ledger : PinLedger) : PinAction → PinLedger
  | .pin version => ledger.count version
  | .unpin version => ledger.discount version
  | .acquire version =>
      { ledger.count version with
        held := ledger.held ++ [⟨version, some ledger.acquired⟩]
        acquired := ledger.acquired + 1 }
  | .hold version => { ledger with held := ledger.held ++ [.unpinned version] }
  | .copy place => { ledger with held := ledger.held ++ ledger.held[place]?.toList }
  | .drop place =>
      match ledger.held[place]? with
      | none => ledger
      | some snapshot => ledger.dropCopy place snapshot

def after (actions : List PinAction) : PinLedger := actions.foldl perform empty

end PinLedger

/-- As `unpin`, but nothing where one would have to be taken from a count of zero. -/
def VisibilityFloor.unpin? (floor : VisibilityFloor) (version : VersionStamp) :
    Option VisibilityFloor :=
  match floor.pins.find? version with
  | none => some floor
  | some 0 => none
  | some (count + 1) =>
      some (if count = 0 then ⟨floor.pins.erase version⟩ else ⟨floor.pins.insert version count⟩)

theorem VisibilityFloor.Counted.unpin?_eq {floor : VisibilityFloor} (counted : floor.Counted)
    (version : VersionStamp) : floor.unpin? version = some (floor.unpin version) := by
  unfold unpin? VisibilityFloor.unpin
  cases found : floor.pins.find? version with
  | none => rfl
  | some count =>
      cases count with
      | zero => exact absurd found (counted version)
      | succ count => by_cases last : count = 0 <;> simp [last]

namespace Retention

/-- Holders are counted as if nobody set or lifted pins by hand: over some floor the books agree
with the copies that are held. -/
def Copied (retention : Retention) (held : List Snapshot) : Prop :=
  ∃ floor, { retention with floor }.Accounts held

namespace Copied

variable {retention : Retention} {held other : List Snapshot} {snapshot : Snapshot}

theorem perm (copied : retention.Copied held) (same : held.Perm other) :
    retention.Copied other := by
  obtain ⟨floor, accounts⟩ := copied
  exact ⟨floor, accounts.perm same⟩

theorem acquire (copied : retention.Copied held) (version : VersionStamp) :
    (retention.acquire version).2.Copied ((retention.acquire version).1 :: held) := by
  obtain ⟨floor, accounts⟩ := copied
  exact ⟨floor.pin version, accounts.acquire version⟩

theorem share (copied : retention.Copied held) (member : snapshot ∈ held) :
    (retention.share snapshot).Copied (snapshot :: held) := by
  obtain ⟨floor, accounts⟩ := copied
  have apart : { retention with floor }.share snapshot =
      { retention.share snapshot with floor } := by
    cases own : snapshot.pin with
    | none => simp [Retention.share, own]
    | some pin => cases found : retention.holders.find? pin <;> simp [Retention.share, own, found]
  exact ⟨floor, apart ▸ accounts.share member⟩

theorem release (copied : retention.Copied held) (member : snapshot ∈ held) :
    (retention.release snapshot).Copied (held.erase snapshot) := by
  obtain ⟨floor, accounts⟩ := copied
  refine ⟨({ retention with floor }.release snapshot).floor, ?_⟩
  have apart : { retention.release snapshot with
      floor := ({ retention with floor }.release snapshot).floor } =
        { retention with floor }.release snapshot := by
    cases own : snapshot.pin with
    | none => simp [Retention.release, own]
    | some pin =>
        cases found : retention.holders.find? pin with
        | none => simp [Retention.release, own, found]
        | some count => by_cases last : count ≤ 1 <;> simp [Retention.release, own, found, last]
  exact apart ▸ accounts.release member

/-- The floor loses a reader with the last copy only. -/
theorem floor_release (copied : retention.Copied held) (member : snapshot ∈ held) :
    (retention.release snapshot).floor =
      if held.count snapshot ≤ 1 then retention.floor.unpin snapshot.version
      else retention.floor := by
  obtain ⟨floor, accounts⟩ := copied
  obtain ⟨pin, own, -⟩ := accounts.pinned snapshot member
  have copies := accounts.holders snapshot member pin own
  simp only [Retention.release, own, copies]
  split <;> rfl

end Copied

theorem copied_empty : empty.Copied [] := ⟨.empty, accounts_empty⟩

end Retention

namespace PinnedSnapshots

/-- The books are those of the ledger. -/
structure Agrees (pinned : PinnedSnapshots) (ledger : PinLedger) : Prop where
  counted : pinned.retention.floor.Counted
  counters : ∀ version, pinned.retention.floor.readers version = ledger.counter version
  held : pinned.held = ledger.held
  acquired : pinned.retention.nextPin = ledger.acquired
  copied : pinned.retention.Copied (pinned.held.filter Snapshot.isPinned)

variable {pinned : PinnedSnapshots} {ledger : PinLedger}

theorem agrees_empty : empty.Agrees PinLedger.empty where
  counted := VisibilityFloor.counted_empty
  counters _ := rfl
  held := rfl
  acquired := rfl
  copied := Retention.copied_empty

theorem Agrees.pin (agrees : pinned.Agrees ledger) (version : VersionStamp) :
    (pinned.perform (.pin version)).Agrees (ledger.perform (.pin version)) where
  counted := agrees.counted.pin version
  counters other := by
    simp [perform, PinLedger.perform, PinLedger.count, agrees.counters other]
  held := agrees.held
  acquired := agrees.acquired
  copied := agrees.copied

theorem Agrees.unpin (agrees : pinned.Agrees ledger) (version : VersionStamp) :
    (pinned.perform (.unpin version)).Agrees (ledger.perform (.unpin version)) where
  counted := agrees.counted.unpin version
  counters other := by
    simp [perform, PinLedger.perform, PinLedger.discount, agrees.counters other]
  held := agrees.held
  acquired := agrees.acquired
  copied := agrees.copied

theorem Agrees.acquire (agrees : pinned.Agrees ledger) (version : VersionStamp) :
    (pinned.perform (.acquire version)).Agrees (ledger.perform (.acquire version)) where
  counted := agrees.counted.pin version
  counters other := by
    simp [perform, PinLedger.perform, PinLedger.count, Retention.acquire, agrees.counters other]
  held := by
    simp [perform, PinLedger.perform, Retention.acquire, agrees.held, agrees.acquired]
  acquired := congrArg Nat.succ agrees.acquired
  copied := by
    have pins : (pinned.retention.acquire version).1.isPinned = true := rfl
    refine (agrees.copied.acquire version).perm ?_
    rw [perform, List.filter_append, List.filter_cons_of_pos pins, List.filter_nil]
    exact (List.perm_append_singleton _ _).symm

theorem Agrees.hold (agrees : pinned.Agrees ledger) (version : VersionStamp) :
    (pinned.perform (.hold version)).Agrees (ledger.perform (.hold version)) where
  counted := agrees.counted
  counters := agrees.counters
  held := congrArg (· ++ [Snapshot.unpinned version]) agrees.held
  acquired := agrees.acquired
  copied := by
    have free : ¬(Snapshot.unpinned version).isPinned = true := Bool.false_ne_true
    rw [perform, List.filter_append, List.filter_cons_of_neg free, List.filter_nil, List.append_nil]
    exact agrees.copied

theorem Agrees.copy (agrees : pinned.Agrees ledger) (place : Nat) :
    (pinned.perform (.copy place)).Agrees (ledger.perform (.copy place)) := by
  rw [perform, PinLedger.perform, ← agrees.held]
  cases found : pinned.held[place]? with
  | none =>
      rw [Option.toList_none, List.append_nil]
      exact { agrees with held := rfl }
  | some snapshot =>
      have member : snapshot ∈ pinned.held := List.mem_of_getElem? found
      change
        (PinnedSnapshots.mk (pinned.retention.share snapshot) (pinned.held ++ [snapshot])).Agrees
          { ledger with held := pinned.held ++ [snapshot] }
      refine ⟨?_, ?_, rfl, ?_, ?_⟩
      · simpa using agrees.counted
      · simpa using agrees.counters
      · simpa using agrees.acquired
      · rw [List.filter_append]
        cases own : snapshot.pin with
        | none =>
            have free : ¬snapshot.isPinned = true := by simp [Snapshot.isPinned, own]
            have kept : pinned.retention.share snapshot = pinned.retention := by
              simp [Retention.share, own]
            rw [List.filter_cons_of_neg free, List.filter_nil, List.append_nil, kept]
            exact agrees.copied
        | some pin =>
            have pins : snapshot.isPinned = true := by simp [Snapshot.isPinned, own]
            rw [List.filter_cons_of_pos pins, List.filter_nil]
            exact (agrees.copied.share (List.mem_filter.mpr ⟨member, pins⟩)).perm
              (List.perm_append_singleton _ _).symm

theorem perm_eraseIdx {Item : Type} {items : List Item} {place : Nat} {item : Item}
    (found : items[place]? = some item) : (item :: items.eraseIdx place).Perm items := by
  obtain ⟨bound, rfl⟩ := List.getElem?_eq_some_iff.mp found
  exact List.getElem_cons_eraseIdx_perm bound

/-- Dropping a snapshot without a pin changes nothing but what is held. -/
theorem Agrees.drop_unpinned (agrees : pinned.Agrees ledger) {place : Nat} {snapshot : Snapshot}
    (found : pinned.held[place]? = some snapshot) (own : snapshot.pin = none) :
    (PinnedSnapshots.mk (pinned.retention.release snapshot) (pinned.held.eraseIdx place)).Agrees
      (ledger.dropCopy place snapshot) := by
  have free : ¬snapshot.isPinned = true := by simp [Snapshot.isPinned, own]
  have kept : pinned.retention.release snapshot = pinned.retention := by
    simp [Retention.release, own]
  rw [kept, PinLedger.dropCopy, if_neg fun last => free last.1]
  refine { agrees with held := congrArg (·.eraseIdx place) agrees.held, copied := ?_ }
  have same := (perm_eraseIdx found).filter Snapshot.isPinned
  rw [List.filter_cons_of_neg free] at same
  exact agrees.copied.perm same.symm

/-- The last copy is the one whose snapshot is not held any more. -/
theorem Agrees.drop_pinned (agrees : pinned.Agrees ledger) {place : Nat} {snapshot : Snapshot}
    (found : pinned.held[place]? = some snapshot) (pins : snapshot.isPinned = true) :
    (PinnedSnapshots.mk (pinned.retention.release snapshot) (pinned.held.eraseIdx place)).Agrees
      (ledger.dropCopy place snapshot) := by
  let others := (pinned.held.eraseIdx place).filter Snapshot.isPinned
  have same : (snapshot :: others).Perm (pinned.held.filter Snapshot.isPinned) := by
    rw [← List.filter_cons_of_pos pins]
    exact (perm_eraseIdx found).filter Snapshot.isPinned
  have member : snapshot ∈ snapshot :: others := List.mem_cons_self
  have copied : pinned.retention.Copied (snapshot :: others) := agrees.copied.perm same.symm
  have released : (pinned.retention.release snapshot).Copied others := by
    simpa using copied.release member
  -- Every copy of the snapshot has its pin, so none is left exactly if none is counted.
  have none : others.count snapshot = 0 ↔ snapshot ∉ ledger.held.eraseIdx place := by
    rw [List.count_eq_zero, List.mem_filter, and_iff_left pins, agrees.held]
  have last : (snapshot :: others).count snapshot ≤ 1 ↔ snapshot ∉ ledger.held.eraseIdx place := by
    rw [← none, List.count_cons_self]
    omega
  have floor := copied.floor_release member
  have acquired : (pinned.retention.release snapshot).nextPin = ledger.acquired := by
    rw [Retention.nextPin_release, agrees.acquired]
  have held : pinned.held.eraseIdx place = ledger.held.eraseIdx place :=
    congrArg (·.eraseIdx place) agrees.held
  by_cases gone : snapshot ∉ ledger.held.eraseIdx place
  · rw [if_pos (last.mpr gone)] at floor
    rw [PinLedger.dropCopy, if_pos ⟨pins, gone⟩]
    refine ⟨?_, ?_, held, acquired, released⟩
    · rw [floor]
      exact agrees.counted.unpin _
    · intro version
      rw [floor, VisibilityFloor.readers_unpin, agrees.counters]
      rfl
  · rw [if_neg (gone ∘ last.mp)] at floor
    rw [PinLedger.dropCopy, if_neg fun dropped => gone dropped.2]
    refine ⟨?_, ?_, held, acquired, released⟩
    · rw [floor]
      exact agrees.counted
    · rw [floor]
      exact agrees.counters

theorem Agrees.drop (agrees : pinned.Agrees ledger) (place : Nat) :
    (pinned.perform (.drop place)).Agrees (ledger.perform (.drop place)) := by
  rw [perform, PinLedger.perform, ← agrees.held]
  cases found : pinned.held[place]? with
  | none => exact agrees
  | some snapshot =>
      cases own : snapshot.pin with
      | none => exact agrees.drop_unpinned found own
      | some pin => exact agrees.drop_pinned found (by simp [Snapshot.isPinned, own])

theorem Agrees.perform (agrees : pinned.Agrees ledger) (action : PinAction) :
    (pinned.perform action).Agrees (ledger.perform action) := by
  cases action with
  | pin version => exact agrees.pin version
  | unpin version => exact agrees.unpin version
  | acquire version => exact agrees.acquire version
  | hold version => exact agrees.hold version
  | copy place => exact agrees.copy place
  | drop place => exact agrees.drop place

theorem agrees_foldl (actions : List PinAction) :
    ∀ {pinned : PinnedSnapshots} {ledger : PinLedger}, pinned.Agrees ledger →
      (actions.foldl PinnedSnapshots.perform pinned).Agrees
        (actions.foldl PinLedger.perform ledger) := by
  induction actions with
  | nil => exact id
  | cons action rest inductionHypothesis =>
      intro pinned ledger agrees
      exact inductionHypothesis (agrees.perform action)

theorem agrees_after (actions : List PinAction) : (after actions).Agrees (.after actions) :=
  agrees_foldl actions agrees_empty

end PinnedSnapshots

namespace VisibilityFloor

variable {floor : VisibilityFloor}

/-- The readers are the sum over the versions that have some. -/
theorem Counted.exists_pinnedCount_eq (counted : floor.Counted) :
    ∃ versions : Finset VersionStamp, (∀ version, version ∈ versions ↔ 0 < floor.readers version) ∧
      floor.pinnedCount = ∑ version ∈ versions, floor.readers version := by
  have distinct : floor.pins.keys.Nodup :=
    floor.pins.keys_sorted.imp fun earlier => Nat.ne_of_lt earlier
  refine ⟨floor.pins.keys.toFinset, fun version => ?_, ?_⟩
  · rw [List.mem_toFinset, counted.mem_keys_iff]
  · rw [pinnedCount_eq_sum, List.sum_toFinset _ distinct]

end VisibilityFloor

namespace PinnedSnapshots

/-- Whatever is done with a floor and the snapshots over it, the floor keeps the counters of the
ledger, and what is read off it is read off them. -/
theorem floor_keeps_counters (actions : List PinAction) :
    let floor := (after actions).retention.floor
    let counter := (PinLedger.after actions).counter
    (∀ version, floor.readers version = counter version) ∧
    (∃ versions : Finset VersionStamp, (∀ version, version ∈ versions ↔ 0 < counter version) ∧
      floor.pinnedCount = ∑ version ∈ versions, counter version) ∧
    (∀ oldest, floor.lowerBound? = some oldest ↔ IsLeast {version | 0 < counter version} oldest) ∧
    (floor.lowerBound? = none ↔ ∀ version, counter version = 0) ∧
    (∀ current, floor.collectionFloor current = floor.lowerBound?.elim current (min · current)) ∧
    (∀ version, floor.pins.find? version ≠ some 0) ∧
    ∀ version, floor.unpin? version = some (floor.unpin version) := by
  intro floor counter
  have agrees := agrees_after actions
  have counted : floor.Counted := agrees.counted
  have same : floor.readers = counter := funext agrees.counters
  refine ⟨agrees.counters, ?_, ?_, ?_, ?_, counted, counted.unpin?_eq⟩
  · rw [← same]
    exact counted.exists_pinnedCount_eq
  · rw [← same]
    exact fun oldest => counted.lowerBound?_eq_some_iff
  · rw [← same]
    exact counted.lowerBound?_eq_none_iff
  · intro current
    rw [VisibilityFloor.collectionFloor]
    cases floor.lowerBound? <;> rfl

/-- Of two copies one is dropped, and a pin is lifted that was never set. -/
example : (after [.acquire 4, .copy 0, .unpin 2, .drop 0]).retention.floor.pinnedCount = 1 := rfl

end PinnedSnapshots

end SnapshotQuery
