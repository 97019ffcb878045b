import Mathlib.Data.Finset.Card
import Mathlib.Data.Finset.Dedup
import SnapshotQuery.Proofs.OrderedMap
import SnapshotQuery.Retention.Snapshot

/-!
# Accounts of pins

The copies of snapshots that readers hold, taken together, determine the books
of a store: each pin is held as often as there are copies with it, and each
version has as many readers as there are pins of it.  So a version stays pinned
as long as one copy of one of its snapshots is held.
-/

namespace SnapshotQuery

namespace VisibilityFloor

variable {floor : VisibilityFloor} {version oldest : VersionStamp}

theorem mem_keys_of_read (read : 0 < floor.readers version) : version ∈ floor.pins.keys := by
  cases found : floor.pins.find? version with
  | none => simp [readers, found] at read
  | some count =>
      exact List.mem_map_of_mem ((floor.pins.mem_entries_iff version count).mpr found)

/-- No version that someone reads is older than the oldest pinned one. -/
theorem lowerBound?_le (first : floor.lowerBound? = some oldest)
    (read : 0 < floor.readers version) : oldest ≤ version := by
  cases found : floor.pins.find? version with
  | none => simp [readers, found] at read
  | some count =>
      rcases OrderedMap.head?_keys_le first found with same | earlier
      · exact Nat.le_of_eq same
      · exact Nat.le_of_lt earlier

/-- A version that someone reads is not below the floor of a collection. -/
theorem collectionFloor_le (read : 0 < floor.readers version) (current : VersionStamp) :
    floor.collectionFloor current ≤ version := by
  unfold collectionFloor
  cases first : floor.lowerBound? with
  | none =>
      have listed := mem_keys_of_read read
      rw [List.head?_eq_none_iff.mp first] at listed
      exact absurd listed List.not_mem_nil
  | some oldest =>
      exact Nat.le_trans (Nat.min_le_left oldest current) (lowerBound?_le first read)

theorem collectionFloor_le_current (floor : VisibilityFloor) (current : VersionStamp) :
    floor.collectionFloor current ≤ current := by
  unfold collectionFloor
  split
  · exact Nat.min_le_right _ _
  · exact Nat.le_refl current

end VisibilityFloor

namespace Retention

/-- The snapshots of a version among those held, each counted once however many copies
there are. -/
def family (held : List Snapshot) (version : VersionStamp) : Finset Snapshot :=
  held.toFinset.filter fun snapshot => snapshot.version = version

/-- The books agree with the copies that are held. -/
structure Accounts (retention : Retention) (held : List Snapshot) : Prop where
  /-- Every copy has a pin that was given out. -/
  pinned : ∀ snapshot ∈ held, ∃ pin, snapshot.pin = some pin ∧ pin < retention.nextPin
  /-- Copies with one pin are copies of one snapshot. -/
  shared : ∀ left ∈ held, ∀ right ∈ held, left.pin = right.pin → left = right
  holders : ∀ snapshot ∈ held, ∀ pin, snapshot.pin = some pin →
    retention.holders.find? pin = some (held.count snapshot)
  readers : ∀ version, retention.floor.readers version = (family held version).card

@[simp]
theorem mem_family {held : List Snapshot} {version : VersionStamp} {snapshot : Snapshot} :
    snapshot ∈ family held version ↔ snapshot ∈ held ∧ snapshot.version = version := by
  simp [family]

/-- A copy more of a snapshot that is held adds nothing to a family. -/
theorem family_cons_of_mem {held : List Snapshot} {snapshot : Snapshot} (member : snapshot ∈ held)
    (version : VersionStamp) : family (snapshot :: held) version = family held version := by
  ext other
  simp only [mem_family, List.mem_cons]
  constructor
  · rintro ⟨same | old, at_version⟩
    · exact ⟨same ▸ member, at_version⟩
    · exact ⟨old, at_version⟩
  · rintro ⟨old, at_version⟩
    exact ⟨.inr old, at_version⟩

theorem card_family_cons_of_not_mem {held : List Snapshot} {snapshot : Snapshot}
    (fresh : snapshot ∉ held) (version : VersionStamp) :
    (family (snapshot :: held) version).card =
      (family held version).card + if version = snapshot.version then 1 else 0 := by
  by_cases here : version = snapshot.version
  · have grown : family (snapshot :: held) version = insert snapshot (family held version) := by
      ext other
      simp only [mem_family, List.mem_cons, Finset.mem_insert]
      constructor
      · rintro ⟨same | old, at_version⟩
        · exact .inl same
        · exact .inr ⟨old, at_version⟩
      · rintro (same | ⟨old, at_version⟩)
        · exact ⟨.inl same, same ▸ here.symm⟩
        · exact ⟨.inr old, at_version⟩
    have absent : snapshot ∉ family held version := fun member => fresh (mem_family.mp member).1
    rw [grown, Finset.card_insert_of_notMem absent, if_pos here]
  · have unchanged : family (snapshot :: held) version = family held version := by
      ext other
      simp only [mem_family, List.mem_cons]
      constructor
      · rintro ⟨same | old, at_version⟩
        · exact absurd (same ▸ at_version).symm here
        · exact ⟨old, at_version⟩
      · rintro ⟨old, at_version⟩
        exact ⟨.inr old, at_version⟩
    rw [unchanged, if_neg here, Nat.add_zero]

theorem accounts_empty : empty.Accounts [] where
  pinned _ member := by simp at member
  shared _ member := by simp at member
  holders _ member := by simp at member
  readers _ := rfl

@[simp]
theorem find?_holders_acquire (retention : Retention) (version : VersionStamp) (pin : PinId) :
    (retention.acquire version).2.holders.find? pin =
      if pin = retention.nextPin then some 1 else retention.holders.find? pin := by
  simp [acquire]

@[simp]
theorem floor_share (retention : Retention) (snapshot : Snapshot) :
    (retention.share snapshot).floor = retention.floor := by
  unfold share
  split
  · rfl
  · split <;> rfl

@[simp]
theorem nextPin_share (retention : Retention) (snapshot : Snapshot) :
    (retention.share snapshot).nextPin = retention.nextPin := by
  unfold share
  split
  · rfl
  · split <;> rfl

@[simp]
theorem nextPin_release (retention : Retention) (snapshot : Snapshot) :
    (retention.release snapshot).nextPin = retention.nextPin := by
  unfold release
  split
  · rfl
  · split
    · rfl
    · split <;> rfl

namespace Accounts

variable {retention : Retention} {held other : List Snapshot} {snapshot : Snapshot}

/-- It does not matter who holds which copy. -/
theorem perm (accounts : retention.Accounts held) (same : held.Perm other) :
    retention.Accounts other where
  pinned snapshot member := accounts.pinned snapshot (same.mem_iff.mpr member)
  shared left leftMember right rightMember :=
    accounts.shared left (same.mem_iff.mpr leftMember) right (same.mem_iff.mpr rightMember)
  holders snapshot member pin pinOf := by
    rw [← same.count_eq snapshot]
    exact accounts.holders snapshot (same.mem_iff.mpr member) pin pinOf
  readers version := by
    rw [accounts.readers version]
    simp only [family, List.toFinset_eq_of_perm held other same]

/-- A pin of its own makes a new snapshot. -/
theorem acquire_not_mem (accounts : retention.Accounts held) (version : VersionStamp) :
    (retention.acquire version).1 ∉ held := by
  intro member
  obtain ⟨pin, pinOf, given⟩ := accounts.pinned _ member
  have equal : retention.nextPin = pin := Option.some.inj pinOf
  exact Nat.lt_irrefl pin (equal ▸ given)

theorem acquire (accounts : retention.Accounts held) (version : VersionStamp) :
    (retention.acquire version).2.Accounts ((retention.acquire version).1 :: held) := by
  have fresh := accounts.acquire_not_mem version
  have differs : ∀ held' ∈ held, held'.pin ≠ some retention.nextPin := by
    intro old member same
    obtain ⟨pin, pinOf, given⟩ := accounts.pinned old member
    have equal : pin = retention.nextPin := Option.some.inj (pinOf.symm.trans same)
    exact Nat.lt_irrefl pin (equal ▸ given)
  refine ⟨?_, ?_, ?_, ?_⟩
  · intro snapshot member
    rcases List.mem_cons.mp member with new | old
    · exact ⟨retention.nextPin, new ▸ rfl, Nat.lt_succ_self _⟩
    · obtain ⟨pin, pinOf, given⟩ := accounts.pinned snapshot old
      exact ⟨pin, pinOf, Nat.lt_succ_of_lt given⟩
  · intro left leftMember right rightMember same
    rcases List.mem_cons.mp leftMember with leftNew | leftOld <;>
      rcases List.mem_cons.mp rightMember with rightNew | rightOld
    · exact leftNew.trans rightNew.symm
    · exact absurd (same.symm.trans (leftNew ▸ rfl)) (differs right rightOld)
    · exact absurd (same.trans (rightNew ▸ rfl)) (differs left leftOld)
    · exact accounts.shared left leftOld right rightOld same
  · intro snapshot member pin pinOf
    rcases List.mem_cons.mp member with new | old
    · subst new
      have equal : retention.nextPin = pin := Option.some.inj pinOf
      rw [find?_holders_acquire, if_pos equal.symm, List.count_cons_self,
        List.count_eq_zero.mpr fresh]
    · have apart : pin ≠ retention.nextPin := fun equal => differs snapshot old (equal ▸ pinOf)
      have single : (retention.acquire version).1 ≠ snapshot := fun equal => fresh (equal ▸ old)
      rw [find?_holders_acquire, if_neg apart, List.count_cons_of_ne single]
      exact accounts.holders snapshot old pin pinOf
  · intro other
    rw [card_family_cons_of_not_mem fresh, ← accounts.readers other]
    exact VisibilityFloor.readers_pin retention.floor version other

theorem share (accounts : retention.Accounts held) (member : snapshot ∈ held) :
    (retention.share snapshot).Accounts (snapshot :: held) := by
  obtain ⟨pin, pinOf, given⟩ := accounts.pinned snapshot member
  have copies := accounts.holders snapshot member pin pinOf
  have inside : ∀ other ∈ snapshot :: held, other ∈ held := by
    intro other among
    rcases List.mem_cons.mp among with same | old
    · exact same ▸ member
    · exact old
  have result : retention.share snapshot =
      { retention with
        holders := retention.holders.insert pin (held.count snapshot + 1) } := by
    simp [Retention.share, pinOf, copies]
  rw [result]
  refine ⟨?_, ?_, ?_, ?_⟩
  · exact fun other among => accounts.pinned other (inside other among)
  · exact fun left leftMember right rightMember =>
      accounts.shared left (inside left leftMember) right (inside right rightMember)
  · intro other among otherPin otherPinOf
    have old := inside other among
    by_cases same : other = snapshot
    · subst same
      have equal : otherPin = pin := Option.some.inj (otherPinOf.symm.trans pinOf)
      simp [equal]
    · have apart : otherPin ≠ pin := by
        intro equal
        exact same (accounts.shared other old snapshot member (by rw [otherPinOf, pinOf, equal]))
      simp [apart, accounts.holders other old otherPin otherPinOf,
        List.count_cons_of_ne (Ne.symm same)]
  · intro version
    rw [family_cons_of_mem member version]
    exact accounts.readers version

/-- The last copy takes the pin with it, any other copy leaves it in place. -/
theorem release (accounts : retention.Accounts held) (member : snapshot ∈ held) :
    (retention.release snapshot).Accounts (held.erase snapshot) := by
  obtain ⟨pin, pinOf, given⟩ := accounts.pinned snapshot member
  have copies := accounts.holders snapshot member pin pinOf
  have inside : ∀ other ∈ held.erase snapshot, other ∈ held := fun other => List.mem_of_mem_erase
  have whole : held.Perm (snapshot :: held.erase snapshot) := List.perm_cons_erase member
  -- A pin other than the released one belongs to another snapshot, whose copies all stay.
  have apart : ∀ other ∈ held.erase snapshot, other ≠ snapshot → ∀ otherPin,
      other.pin = some otherPin → otherPin ≠ pin ∧
        retention.holders.find? otherPin = some ((held.erase snapshot).count other) := by
    intro other among differs otherPin otherPinOf
    refine ⟨?_, ?_⟩
    · intro equal
      exact differs (accounts.shared other (inside other among) snapshot member
        (by rw [otherPinOf, pinOf, equal]))
    · rw [List.count_erase_of_ne differs]
      exact accounts.holders other (inside other among) otherPin otherPinOf
  have grown : family held = family (snapshot :: held.erase snapshot) := by
    funext version
    simp only [family, List.toFinset_eq_of_perm held _ whole]
  by_cases last : held.count snapshot ≤ 1
  · have gone : snapshot ∉ held.erase snapshot := by
      rw [← List.count_eq_zero, List.count_erase_self]
      omega
    have result : retention.release snapshot =
        { retention with
          floor := retention.floor.unpin snapshot.version
          holders := retention.holders.erase pin } := by
      simp [Retention.release, pinOf, copies, last]
    rw [result]
    refine ⟨?_, ?_, ?_, ?_⟩
    · exact fun other among => accounts.pinned other (inside other among)
    · exact fun left leftMember right rightMember =>
        accounts.shared left (inside left leftMember) right (inside right rightMember)
    · intro other among otherPin otherPinOf
      have differs : other ≠ snapshot := fun equal => gone (equal ▸ among)
      obtain ⟨otherwise, kept⟩ := apart other among differs otherPin otherPinOf
      simp [otherwise, kept]
    · intro version
      have before := accounts.readers version
      rw [grown, card_family_cons_of_not_mem gone] at before
      simp only [VisibilityFloor.readers_unpin, before]
      omega
  · have stays : snapshot ∈ held.erase snapshot := by
      rw [← List.count_pos_iff, List.count_erase_self]
      omega
    have result : retention.release snapshot =
        { retention with
          holders := retention.holders.insert pin (held.count snapshot - 1) } := by
      simp [Retention.release, pinOf, copies, last]
    rw [result]
    refine ⟨?_, ?_, ?_, ?_⟩
    · exact fun other among => accounts.pinned other (inside other among)
    · exact fun left leftMember right rightMember =>
        accounts.shared left (inside left leftMember) right (inside right rightMember)
    · intro other among otherPin otherPinOf
      by_cases same : other = snapshot
      · subst same
        have equal : otherPin = pin := Option.some.inj (otherPinOf.symm.trans pinOf)
        simp [equal]
      · obtain ⟨otherwise, kept⟩ := apart other among same otherPin otherPinOf
        simp [otherwise, kept]
    · intro version
      rw [← family_cons_of_mem stays version, ← grown]
      exact accounts.readers version

/-- A held snapshot keeps its version above the floor of every collection. -/
theorem collectionFloor_le (accounts : retention.Accounts held) (member : snapshot ∈ held)
    (current : VersionStamp) : retention.floor.collectionFloor current ≤ snapshot.version := by
  apply VisibilityFloor.collectionFloor_le
  rw [accounts.readers snapshot.version]
  exact Finset.card_pos.mpr ⟨snapshot, mem_family.mpr ⟨member, rfl⟩⟩

end Accounts

end Retention

end SnapshotQuery
