import Mathlib.Algebra.BigOperators.Group.Finset.Basic
import Mathlib.Algebra.GroupWithZero.Nat
import Mathlib.Data.Finset.Card
import Mathlib.Order.Bounds.Defs
import SnapshotQuery.Proofs.Retention.Accounts

/-!
# Census of pins

The readers of all versions together are as many as the snapshots that are held,
however many copies there are of each.  A pin is shared only by copies that were
made, so where none are made each copy has a pin of its own.
-/

namespace SnapshotQuery

namespace VisibilityFloor

/-- No version is listed without a reader. -/
def Counted (floor : VisibilityFloor) : Prop :=
  ∀ version, floor.pins.find? version ≠ some 0

variable {floor : VisibilityFloor}

theorem counted_empty : empty.Counted := by
  simp [Counted, empty]

theorem Counted.pin (counted : floor.Counted) (version : VersionStamp) :
    (floor.pin version).Counted := by
  intro other
  by_cases same : other = version
  · simp [VisibilityFloor.pin, same]
  · simpa [VisibilityFloor.pin, same] using counted other

theorem Counted.unpin (counted : floor.Counted) (version : VersionStamp) :
    (floor.unpin version).Counted := by
  intro other
  unfold VisibilityFloor.unpin
  split
  · exact counted other
  · split
    · by_cases same : other = version
      · simp [same]
      · simpa [same] using counted other
    · by_cases same : other = version
      · simp [same]
        omega
      · simpa [same] using counted other

/-- Exactly the versions that someone reads are listed. -/
theorem Counted.mem_keys_iff (counted : floor.Counted) {version : VersionStamp} :
    version ∈ floor.pins.keys ↔ 0 < floor.readers version := by
  constructor
  · intro listed
    obtain ⟨⟨key, count⟩, member, rfl⟩ := List.mem_map.mp listed
    have found := (floor.pins.mem_entries_iff key count).mp member
    have some : count ≠ 0 := fun none => counted key (none ▸ found)
    simpa [readers, found] using Nat.pos_of_ne_zero some
  · exact mem_keys_of_read

theorem Counted.isLeast_of_lowerBound? (counted : floor.Counted) {oldest : VersionStamp}
    (first : floor.lowerBound? = some oldest) :
    IsLeast {version | 0 < floor.readers version} oldest :=
  ⟨counted.mem_keys_iff.mp (List.mem_of_head? first), fun _ read => lowerBound?_le first read⟩

theorem Counted.lowerBound?_eq_none_iff (counted : floor.Counted) :
    floor.lowerBound? = none ↔ ∀ version, floor.readers version = 0 := by
  rw [lowerBound?, List.head?_eq_none_iff, List.eq_nil_iff_forall_not_mem]
  simp only [counted.mem_keys_iff, Nat.not_lt, Nat.le_zero]

/-- The oldest pinned version is the least one that someone reads. -/
theorem Counted.lowerBound?_eq_some_iff (counted : floor.Counted) {oldest : VersionStamp} :
    floor.lowerBound? = some oldest ↔ IsLeast {version | 0 < floor.readers version} oldest := by
  constructor
  · exact counted.isLeast_of_lowerBound?
  · intro least
    cases first : floor.lowerBound? with
    | none =>
        have unread := counted.lowerBound?_eq_none_iff.mp first oldest
        exact absurd least.1 (Nat.not_lt.mpr (Nat.le_of_eq unread))
    | some other =>
        have found := counted.isLeast_of_lowerBound? first
        exact congrArg some (Nat.le_antisymm (found.2 least.1) (least.2 found.1))

/-- Where nothing is read the current version is the floor. -/
theorem Counted.collectionFloor_eq (counted : floor.Counted)
    (unread : ∀ version, floor.readers version = 0) (current : VersionStamp) :
    floor.collectionFloor current = current := by
  rw [collectionFloor, counted.lowerBound?_eq_none_iff.mpr unread]

/-- The floor is the oldest version that is read or current. -/
theorem Counted.isLeast_collectionFloor (counted : floor.Counted) (current : VersionStamp) :
    IsLeast {version | version = current ∨ 0 < floor.readers version}
      (floor.collectionFloor current) := by
  refine ⟨?_, ?_⟩
  · unfold collectionFloor
    cases first : floor.lowerBound? with
    | none => exact .inl rfl
    | some oldest =>
        change min oldest current ∈ _
        rcases Nat.le_total oldest current with older | newer
        · rw [Nat.min_eq_left older]
          exact .inr (counted.isLeast_of_lowerBound? first).1
        · exact .inl (Nat.min_eq_right newer)
  · rintro version (rfl | read)
    · exact floor.collectionFloor_le_current _
    · exact collectionFloor_le read current

theorem pinnedCount_eq_sum (floor : VisibilityFloor) :
    floor.pinnedCount = (floor.pins.keys.map floor.readers).sum := by
  have listed : floor.pins.values = floor.pins.keys.map floor.readers := by
    rw [OrderedMap.values, OrderedMap.keys, List.map_map]
    apply List.map_congr_left
    rintro ⟨version, count⟩ member
    simp [readers, (floor.pins.mem_entries_iff version count).mp member]
  rw [pinnedCount, ← List.sum_eq_foldl, listed]

end VisibilityFloor

namespace Retention

variable {retention : Retention} {held named : List Snapshot} {snapshot : Snapshot}

/-- The readers are as many as the snapshots, each counted once. -/
theorem Accounts.pinnedCount_eq (accounts : retention.Accounts held) :
    retention.floor.pinnedCount = held.toFinset.card := by
  have distinct : retention.floor.pins.keys.Nodup :=
    retention.floor.pins.keys_sorted.imp fun earlier => Nat.ne_of_lt earlier
  have listed : ∀ snapshot ∈ held.toFinset,
      snapshot.version ∈ retention.floor.pins.keys.toFinset := by
    intro snapshot member
    have read : 0 < retention.floor.readers snapshot.version := by
      rw [accounts.readers]
      exact Finset.card_pos.mpr ⟨snapshot, mem_family.mpr ⟨List.mem_toFinset.mp member, rfl⟩⟩
    exact List.mem_toFinset.mpr (VisibilityFloor.mem_keys_of_read read)
  rw [VisibilityFloor.pinnedCount_eq_sum, Finset.card_eq_sum_card_fiberwise listed,
    List.sum_toFinset _ distinct]
  exact congrArg List.sum (List.map_congr_left fun version _ => accounts.readers version)

/-- The snapshots with a pin that are held, all copies of one counted once. -/
def families (held : List Snapshot) : Nat :=
  (held.filterMap fun snapshot => snapshot.pin).dedup.length

/-- Copies of one snapshot are the ones with its pin. -/
theorem families_eq_card (apart : ∀ left ∈ held.filter Snapshot.isPinned,
    ∀ right ∈ held.filter Snapshot.isPinned, left.pin = right.pin → left = right) :
    families held = (held.filter Snapshot.isPinned).toFinset.card := by
  have pins : (held.filterMap fun snapshot => snapshot.pin).map some =
      (held.filter Snapshot.isPinned).map fun snapshot => snapshot.pin := by
    clear apart
    induction held with
    | nil => rfl
    | cons first rest inductionHypothesis =>
        cases own : first.pin <;> simp [Snapshot.isPinned, own, inductionHypothesis]
  have named : (held.filterMap fun snapshot => snapshot.pin).toFinset.image some =
      (held.filter Snapshot.isPinned).toFinset.image fun snapshot => snapshot.pin := by
    ext pin
    simp only [Finset.mem_image, List.mem_toFinset, ← List.mem_map, pins]
  have injective : Set.InjOn (fun snapshot : Snapshot => snapshot.pin)
      (held.filter Snapshot.isPinned).toFinset := by
    intro left leftMember right rightMember same
    exact apart left (List.mem_toFinset.mp leftMember) right (List.mem_toFinset.mp rightMember) same
  rw [← Finset.card_image_of_injOn injective, ← named,
    Finset.card_image_of_injective _ (Option.some_injective PinId), List.card_toFinset, families]

theorem Accounts.pinnedCount_eq_families
    (accounts : retention.Accounts (held.filter Snapshot.isPinned)) :
    retention.floor.pinnedCount = families held := by
  rw [accounts.pinnedCount_eq, families_eq_card accounts.shared]

/-- What happens to pins while no copy of a snapshot is made. -/
structure Keeps (before after : Retention) : Prop where
  counted : before.floor.Counted → after.floor.Counted
  shared : ∀ pin count, 1 < count → after.holders.find? pin = some count →
    ∃ more, count ≤ more ∧ before.holders.find? pin = some more

theorem Keeps.refl (retention : Retention) : retention.Keeps retention :=
  ⟨id, fun _ count _ found => ⟨count, Nat.le_refl count, found⟩⟩

theorem Keeps.trans {first middle last : Retention} (earlier : first.Keeps middle)
    (later : middle.Keeps last) : first.Keeps last where
  counted := later.counted ∘ earlier.counted
  shared pin count several found := by
    obtain ⟨between, fewer, foundBetween⟩ := later.shared pin count several found
    obtain ⟨more, most, foundBefore⟩ :=
      earlier.shared pin between (Nat.lt_of_lt_of_le several fewer) foundBetween
    exact ⟨more, Nat.le_trans fewer most, foundBefore⟩

theorem keeps_acquire (retention : Retention) (version : VersionStamp) :
    retention.Keeps (retention.acquire version).2 where
  counted counted := counted.pin version
  shared pin count several found := by
    rw [find?_holders_acquire] at found
    split at found
    · obtain rfl := Option.some.inj found
      exact absurd several (Nat.lt_irrefl 1)
    · exact ⟨count, Nat.le_refl count, found⟩

/-- The holders of a pin after a copy was dropped. -/
theorem find?_holders_release (retention : Retention) (snapshot : Snapshot) (pin : PinId) :
    (retention.release snapshot).holders.find? pin =
      if snapshot.pin = some pin then
        ((retention.holders.find? pin).filter fun count => 1 < count).map (· - 1)
      else retention.holders.find? pin := by
  unfold release
  cases own : snapshot.pin with
  | none => simp
  | some held =>
      simp only [Option.some.injEq]
      cases found : retention.holders.find? held with
      | none =>
          by_cases same : held = pin
          · simp [← same, found]
          · simp [same]
      | some count =>
          by_cases last : count ≤ 1 <;> by_cases same : held = pin
          · simp [← same, found, last, Option.filter, Nat.not_lt.mpr last]
          · simp [last, same, Ne.symm same]
          · simp [← same, found, last, Option.filter, Nat.lt_of_not_le last]
          · simp [last, same, Ne.symm same]

theorem keeps_release (retention : Retention) (snapshot : Snapshot) :
    retention.Keeps (retention.release snapshot) where
  counted counted := by
    unfold release
    split
    · exact counted
    · split
      · exact counted
      · split
        · exact counted.unpin _
        · exact counted
  shared pin count several found := by
    rw [find?_holders_release] at found
    split at found
    · obtain ⟨more, kept, rfl⟩ := Option.map_eq_some_iff.mp found
      obtain ⟨foundBefore, _⟩ := Option.filter_eq_some_iff.mp kept
      exact ⟨more, Nat.sub_le more 1, foundBefore⟩
    · exact ⟨count, Nat.le_refl count, found⟩

theorem counted_share (counted : retention.floor.Counted) (snapshot : Snapshot) :
    (retention.share snapshot).floor.Counted := by
  rw [floor_share]
  exact counted

/-- A pin with several holders is held by copies among the named ones only. -/
def SharedAmong (retention : Retention) (named : List Snapshot) : Prop :=
  ∀ pin count, 1 < count → retention.holders.find? pin = some count →
    count ≤ named.countP fun snapshot => decide (snapshot.pin = some pin)

theorem sharedAmong_empty : empty.SharedAmong [] := by
  simp [SharedAmong, empty]

theorem SharedAmong.perm {other : List Snapshot} (shared : retention.SharedAmong named)
    (same : named.Perm other) : retention.SharedAmong other := by
  intro pin count several found
  rw [← same.countP_eq]
  exact shared pin count several found

theorem SharedAmong.keeps {after : Retention} (shared : retention.SharedAmong named)
    (keeps : retention.Keeps after) : after.SharedAmong named := by
  intro pin count several found
  obtain ⟨more, fewer, foundBefore⟩ := keeps.shared pin count several found
  exact Nat.le_trans fewer (shared pin more (Nat.lt_of_lt_of_le several fewer) foundBefore)

theorem SharedAmong.cons (shared : retention.SharedAmong named) (snapshot : Snapshot) :
    retention.SharedAmong (snapshot :: named) := by
  intro pin count several found
  exact Nat.le_trans (shared pin count several found)
    ((List.sublist_cons_self snapshot named).countP_le)

/-- A copy of a named snapshot is one more of its holders. -/
theorem SharedAmong.share (shared : retention.SharedAmong named) (member : snapshot ∈ named) :
    (retention.share snapshot).SharedAmong (snapshot :: named) := by
  intro pin count several found
  unfold Retention.share at found
  split at found
  · exact shared.cons snapshot pin count several found
  · rename_i own pinned
    split at found
    · exact shared.cons snapshot pin count several found
    · rename_i copies held
      by_cases same : pin = own
      · subst same
        obtain rfl : copies + 1 = count := by simpa using found
        rw [List.countP_cons_of_pos (by simp [pinned])]
        have named : 0 < named.countP fun snapshot => decide (snapshot.pin = some pin) :=
          List.countP_pos_iff.mpr ⟨snapshot, member, by simp [pinned]⟩
        by_cases alone : copies ≤ 1
        · omega
        · have counted := shared pin copies (Nat.lt_of_not_le alone) held
          omega
      · simp only [OrderedMap.find?_insert, if_neg same] at found
        exact shared.cons snapshot pin count several found

theorem SharedAmong.release (shared : retention.SharedAmong (snapshot :: named)) :
    (retention.release snapshot).SharedAmong named := by
  intro pin count several found
  rw [find?_holders_release] at found
  by_cases own : snapshot.pin = some pin
  · rw [if_pos own] at found
    obtain ⟨more, kept, rfl⟩ := Option.map_eq_some_iff.mp found
    obtain ⟨foundBefore, _⟩ := Option.filter_eq_some_iff.mp kept
    have counted := shared pin more (by omega) foundBefore
    rw [List.countP_cons_of_pos (by simpa using own)] at counted
    omega
  · rw [if_neg own] at found
    have counted := shared pin count several found
    rwa [List.countP_cons_of_neg (by simpa using own)] at counted

/-- A copy of a snapshot that is not among the named ones is the only one. -/
theorem SharedAmong.count_le_one {others : List Snapshot}
    (shared : retention.SharedAmong named) (accounts : retention.Accounts (named ++ others))
    (member : snapshot ∈ others) : (named ++ others).count snapshot ≤ 1 := by
  by_contra several
  obtain ⟨pin, own, _⟩ := accounts.pinned snapshot (List.mem_append_right named member)
  have held := accounts.holders snapshot (List.mem_append_right named member) pin own
  have counted := shared pin _ (Nat.lt_of_not_le several) held
  have copies : named.countP (fun other => decide (other.pin = some pin)) =
      named.count snapshot := by
    apply List.countP_congr
    intro other among
    have identical : other.pin = some pin ↔ other = snapshot := by
      constructor
      · intro same
        exact accounts.shared other (List.mem_append_left _ among) snapshot
          (List.mem_append_right _ member) (same.trans own.symm)
      · rintro rfl
        exact own
    simp [identical]
  have there : 0 < others.count snapshot := List.count_pos_iff.mpr member
  rw [copies, List.count_append] at counted
  omega

/-- Beside the families of the named snapshots each other one has a pin of its own. -/
theorem SharedAmong.pinnedCount_eq {others : List Snapshot}
    (shared : retention.SharedAmong named) (accounts : retention.Accounts (named ++ others)) :
    retention.floor.pinnedCount = families named + others.length := by
  have once : ∀ snapshot ∈ others, named.count snapshot + others.count snapshot ≤ 1 := by
    intro snapshot member
    rw [← List.count_append]
    exact shared.count_le_one accounts member
  have distinct : others.Nodup := by
    apply List.nodup_iff_count_le_one.mpr
    intro snapshot
    by_cases member : snapshot ∈ others
    · exact Nat.le_trans (Nat.le_add_left _ _) (once snapshot member)
    · rw [List.count_eq_zero.mpr member]
      exact Nat.zero_le 1
  have apart : Disjoint named.toFinset others.toFinset := by
    rw [Finset.disjoint_left]
    intro snapshot inNamed inOthers
    have first := List.count_pos_iff.mpr (List.mem_toFinset.mp inNamed)
    have second := List.count_pos_iff.mpr (List.mem_toFinset.mp inOthers)
    have both := once snapshot (List.mem_toFinset.mp inOthers)
    omega
  have pinned : named.filter Snapshot.isPinned = named := by
    apply List.filter_eq_self.mpr
    intro snapshot member
    obtain ⟨pin, own, _⟩ := accounts.pinned snapshot (List.mem_append_left _ member)
    simp [Snapshot.isPinned, own]
  have families : families named = named.toFinset.card := by
    have single : ∀ left ∈ named.filter Snapshot.isPinned,
        ∀ right ∈ named.filter Snapshot.isPinned, left.pin = right.pin → left = right := by
      rw [pinned]
      intro left leftMember right rightMember
      exact accounts.shared left (List.mem_append_left _ leftMember) right
        (List.mem_append_left _ rightMember)
    rw [families_eq_card single, pinned]
  rw [accounts.pinnedCount_eq, List.toFinset_append, Finset.card_union_of_disjoint apart, families,
    List.toFinset_card_of_nodup distinct]

end Retention

end SnapshotQuery
