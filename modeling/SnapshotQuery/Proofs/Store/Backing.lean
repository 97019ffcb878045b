import SnapshotQuery.Proofs.Store.Growth

/-!
# What a store keeps for its readers

A store backs the snapshots that readers hold if its pins agree with the copies
that have one and every pinned version can be read.  So a collection takes
nothing away from a reader.
-/

namespace SnapshotQuery.Store

/-- A write touches neither the pins nor the horizon. -/
theorem Wrote.kept {store after : Store} {script : Script} {report : WriteReport}
    (wrote : store.Wrote script after report) :
    after.retention = store.retention ∧ after.horizon = store.horizon := by
  cases wrote <;> exact ⟨rfl, rfl⟩

/-- The pins agree with the copies that are held, and what is pinned can be read. -/
structure Backs (store : Store) (held : List Snapshot) : Prop where
  accounts : store.retention.Accounts (held.filter Snapshot.isPinned)
  retained : ∀ snapshot ∈ held, snapshot.isPinned = true → store.Retained snapshot.version

variable {store : Store} {held other : List Snapshot} {snapshot : Snapshot}

theorem backs_new (schema : TableSchema) : (Store.new schema).Backs [] :=
  ⟨Retention.accounts_empty, by simp⟩

theorem Backs.perm (backs : store.Backs held) (same : held.Perm other) : store.Backs other where
  accounts := backs.accounts.perm (same.filter _)
  retained snapshot member := backs.retained snapshot (same.mem_iff.mpr member)

theorem backs_cons_iff (unpinned : snapshot.isPinned = false) :
    store.Backs (snapshot :: held) ↔ store.Backs held := by
  have same : (snapshot :: held).filter Snapshot.isPinned = held.filter Snapshot.isPinned :=
    List.filter_cons_of_neg (by simp [unpinned])
  constructor
  · intro backs
    exact ⟨same ▸ backs.accounts, fun other old => backs.retained other (.tail _ old)⟩
  · intro backs
    refine ⟨same.symm ▸ backs.accounts, ?_⟩
    intro other member pinned
    rcases List.mem_cons.mp member with rfl | old
    · exact absurd pinned (by simp [unpinned])
    · exact backs.retained other old pinned

theorem Backs.wrote (backs : store.Backs held) {after : Store} {script : Script}
    {report : WriteReport} (wrote : store.Wrote script after report) : after.Backs held := by
  obtain ⟨retention, horizon⟩ := wrote.kept
  refine ⟨retention ▸ backs.accounts, ?_⟩
  intro snapshot member pinned
  obtain ⟨above, below⟩ := backs.retained snapshot member pinned
  exact ⟨horizon ▸ above, Nat.le_trans below wrote.precedes.current_le⟩

/-- A pinned version is not below the floor of a collection. -/
theorem Backs.collect (backs : store.Backs held) {collected : Store} {report : GcReport}
    (collecting : store.collect = .ok (collected, report)) : collected.Backs held := by
  obtain ⟨_, reclaimed⟩ := (store.collect_eq_ok_iff collected report).mp collecting
  obtain ⟨rfl, rfl⟩ := Prod.mk.inj reclaimed
  refine ⟨backs.accounts, ?_⟩
  intro snapshot member pinned
  obtain ⟨above, below⟩ := backs.retained snapshot member pinned
  have among : snapshot ∈ held.filter Snapshot.isPinned := List.mem_filter.mpr ⟨member, pinned⟩
  exact ⟨Nat.max_le.mpr ⟨above, backs.accounts.collectionFloor_le among _⟩, below⟩

theorem Backs.openSnapshot (backs : store.Backs held) {version : Option VersionStamp}
    {opened : Store} (opening : store.openSnapshot version = .ok (snapshot, opened)) :
    opened.Backs (snapshot :: held) := by
  obtain ⟨_, retained, acquired⟩ := (store.openSnapshot_eq_ok_iff version _ _).mp opening
  obtain ⟨rfl, rfl⟩ := Prod.mk.inj acquired
  refine ⟨backs.accounts.acquire _, ?_⟩
  intro other member pinned
  rcases List.mem_cons.mp member with rfl | old
  · exact retained
  · exact backs.retained other old pinned

/-- A copy of a snapshot that is held shares its pin, if it has one. -/
theorem Backs.share (backs : store.Backs held) (member : snapshot ∈ held) :
    Backs { store with retention := store.retention.share snapshot } (snapshot :: held) := by
  constructor
  · cases pinned : snapshot.isPinned with
    | true =>
        rw [List.filter_cons_of_pos pinned]
        exact backs.accounts.share (List.mem_filter.mpr ⟨member, pinned⟩)
    | false =>
        have free : snapshot.pin = none := by simpa [Snapshot.isPinned] using pinned
        rw [Retention.share, free]
        exact ((backs_cons_iff pinned).mpr backs).accounts
  · intro other among pinned
    rcases List.mem_cons.mp among with rfl | old
    · exact backs.retained other member pinned
    · exact backs.retained other old pinned

theorem Backs.release (backs : store.Backs (snapshot :: held)) :
    (store.release snapshot).Backs held := by
  have accounts := backs.accounts
  constructor
  · simp only [Store.release]
    cases pinned : snapshot.isPinned with
    | true =>
        rw [List.filter_cons_of_pos pinned] at accounts
        have released := accounts.release List.mem_cons_self
        rwa [List.erase_cons_head] at released
    | false =>
        have free : snapshot.pin = none := by simpa [Snapshot.isPinned] using pinned
        rw [Retention.release, free]
        exact ((backs_cons_iff pinned).mp backs).accounts
  · exact fun other old => backs.retained other (List.mem_cons_of_mem _ old)

end SnapshotQuery.Store
