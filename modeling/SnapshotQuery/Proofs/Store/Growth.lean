import SnapshotQuery.Proofs.Retention.Accounts
import SnapshotQuery.Proofs.Store.Changes

/-!
# Growth of a store

While a store is used its current version only grows, and as long as it stays
the rows at it stay too.  A store poisoned once remains so.
-/

namespace SnapshotQuery.Store

/-- The published version is the current one, which can be read. -/
structure Coherent (store : Store) : Prop where
  published : store.published = store.authority.current
  horizon_le : store.horizon ≤ store.authority.current

theorem coherent_new (schema : TableSchema) : (Store.new schema).Coherent :=
  ⟨rfl, Nat.le_refl _⟩

/-- What the use of a store keeps. -/
structure Precedes (before after : Store) : Prop where
  schema : after.schema = before.schema
  coherent : before.Coherent → after.Coherent
  current_le : before.authority.current ≤ after.authority.current
  unpoisoned : after.poisoned = false → before.poisoned = false
  documents : after.authority.current = before.authority.current →
    ∀ row, after.documentAt? row after.authority.current =
      before.documentAt? row before.authority.current

theorem Precedes.refl (store : Store) : store.Precedes store :=
  ⟨rfl, id, Nat.le_refl _, id, fun _ _ => rfl⟩

theorem Precedes.trans {first middle last : Store} (earlier : first.Precedes middle)
    (later : middle.Precedes last) : first.Precedes last where
  schema := later.schema.trans earlier.schema
  coherent := later.coherent ∘ earlier.coherent
  current_le := Nat.le_trans earlier.current_le later.current_le
  unpoisoned := earlier.unpoisoned ∘ later.unpoisoned
  documents := by
    intro same row
    -- The version in the middle lies between two equal ones.
    have middleSame : middle.authority.current = first.authority.current :=
      Nat.le_antisymm (same ▸ later.current_le) earlier.current_le
    rw [later.documents (same.trans middleSame.symm) row, earlier.documents middleSame row]

theorem precedes_retention (store : Store) (retention : Retention) :
    store.Precedes { store with retention } :=
  ⟨rfl, fun coherent => ⟨coherent.published, coherent.horizon_le⟩, Nat.le_refl _, id,
    fun _ _ => rfl⟩

theorem precedes_release (store : Store) (snapshot : Snapshot) :
    store.Precedes (store.release snapshot) :=
  store.precedes_retention _

theorem precedes_openSnapshot {store opened : Store} {version : Option VersionStamp}
    {snapshot : Snapshot} (opening : store.openSnapshot version = .ok (snapshot, opened)) :
    store.Precedes opened := by
  obtain ⟨_, _, same⟩ := (store.openSnapshot_eq_ok_iff version snapshot opened).mp opening
  obtain ⟨_, rfl⟩ := Prod.mk.inj same
  exact store.precedes_retention _

theorem Wrote.precedes {store after : Store} {script : Script} {report : WriteReport}
    (wrote : store.Wrote script after report) : store.Precedes after := by
  cases wrote with
  | refused _ => exact .refl _
  | panicked sound _ =>
      exact ⟨rfl, fun coherent => ⟨coherent.published, coherent.horizon_le⟩, Nat.le_refl _,
        fun _ => sound, fun _ _ => rfl⟩
  | failed _ _ => exact .refl _
  | aborted _ _ _ => exact .refl _
  | unchanged _ _ _ _ => exact .refl _
  | committed sound _ _ _ =>
      refine ⟨rfl, ?_, Nat.le_succ _, fun _ => sound, ?_⟩
      · intro coherent
        exact ⟨rfl, Nat.le_succ_of_le coherent.horizon_le⟩
      · intro same
        exact absurd same (Nat.succ_ne_self _)

theorem precedes_write (store : Store) (script : Script) :
    store.Precedes (store.write script).1 :=
  (store.wrote_write script).precedes

theorem precedes_collect {store collected : Store} {report : GcReport}
    (collecting : store.collect = .ok (collected, report)) : store.Precedes collected := by
  obtain ⟨_, reclaimed⟩ := (store.collect_eq_ok_iff collected report).mp collecting
  obtain ⟨rfl, rfl⟩ := Prod.mk.inj reclaimed
  have floor_le := store.retention.floor.collectionFloor_le_current store.authority.current
  refine ⟨rfl, ?_, Nat.le_refl _, id, ?_⟩
  · intro coherent
    exact ⟨coherent.published, Nat.max_le.mpr ⟨coherent.horizon_le, floor_le⟩⟩
  · intro _ row
    exact store.documentAt?_reclaim row floor_le

/-- Rows of a valid predicate that are still all of them if their version is the current one. -/
structure Computed (store : Store) (predicate : Predicate) (rows : RowSet) : Prop where
  valid : predicate.check store.schema = .ok ()
  version_le : rows.version ≤ store.authority.current
  rows : rows.version = store.authority.current →
    rows.rows = store.rowsMatching predicate rows.version

theorem computed_of_evaluate {store : Store} {snapshot : Snapshot} {predicate : Predicate}
    {rows : RowSet} (evaluated : store.evaluate snapshot predicate = .ok rows) :
    store.Computed predicate rows := by
  obtain ⟨valid, _, retained, rfl⟩ :=
    (store.evaluate_eq_ok_iff snapshot predicate rows).mp evaluated
  exact ⟨valid, retained.2, fun _ => rfl⟩

theorem Computed.precedes {before after : Store} {predicate : Predicate} {rows : RowSet}
    (computed : before.Computed predicate rows) (grown : before.Precedes after) :
    after.Computed predicate rows := by
  refine ⟨grown.schema ▸ computed.valid, Nat.le_trans computed.version_le grown.current_le, ?_⟩
  intro current
  have same : after.authority.current = before.authority.current :=
    Nat.le_antisymm (current ▸ computed.version_le) grown.current_le
  rw [computed.rows (current.trans same)]
  apply rowsMatching_congr
  intro row
  rw [current, grown.documents same row, same]

/-- Rows of the current version are what is found again. -/
theorem Computed.evaluate {store : Store} {predicate : Predicate} {rows : RowSet}
    (computed : store.Computed predicate rows) (current : rows.version = store.authority.current)
    (sound : store.poisoned = false) (retained : store.Retained rows.version) {snapshot : Snapshot}
    (same : snapshot.version = rows.version) : store.evaluate snapshot predicate = .ok rows := by
  rw [evaluate_eq_ok_iff, same, ← computed.rows current]
  exact ⟨computed.valid, sound, retained, rfl⟩

end SnapshotQuery.Store
