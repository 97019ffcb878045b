import SnapshotQuery.Proofs.Store.Backing

/-!
# The later states of a store

Writes, collections and changes of the pins lead from one state of a store to a
later one.  A version that can still be read later has the documents it had
before, and a lock that is poisoned was poisoned by a write that panicked.
-/

namespace SnapshotQuery.Store

/-- The states of a store that its use leads to. -/
inductive Descends (first : Store) : Store → Prop
  | start : Descends first first
  | wrote {store} (earlier : Descends first store) (script : Script) :
      Descends first (store.write script).1
  | collected {store after report} (earlier : Descends first store)
      (collecting : store.collect = .ok (after, report)) : Descends first after
  /-- A snapshot is opened, copied or dropped. -/
  | held {store} (earlier : Descends first store) (retention : Retention) :
      Descends first { store with retention }

variable {first middle last : Store}

theorem Descends.trans (earlier : first.Descends middle) (later : middle.Descends last) :
    first.Descends last := by
  induction later with
  | start => exact earlier
  | wrote _ script inductionHypothesis => exact inductionHypothesis.wrote script
  | collected _ collecting inductionHypothesis => exact inductionHypothesis.collected collecting
  | held _ retention inductionHypothesis => exact inductionHypothesis.held retention

theorem Descends.precedes (descends : first.Descends last) : first.Precedes last := by
  induction descends with
  | start => exact .refl first
  | wrote _ script inductionHypothesis => exact inductionHypothesis.trans (precedes_write _ script)
  | collected _ collecting inductionHypothesis =>
      exact inductionHypothesis.trans (precedes_collect collecting)
  | held _ retention inductionHypothesis =>
      exact inductionHypothesis.trans (precedes_retention _ retention)

theorem Descends.horizon_le (descends : first.Descends last) : first.horizon ≤ last.horizon := by
  induction descends with
  | start => exact Nat.le_refl _
  | @wrote store earlier script inductionHypothesis =>
      exact (store.wrote_write script).kept.2 ▸ inductionHypothesis
  | @collected store after report earlier collecting inductionHypothesis =>
      obtain ⟨_, reclaimed⟩ := (store.collect_eq_ok_iff after report).mp collecting
      obtain rfl : after = _ := congrArg Prod.fst reclaimed
      exact Nat.le_trans inductionHypothesis (Nat.le_max_left _ _)
  | held _ _ inductionHypothesis => exact inductionHypothesis

/-- A write leaves the documents of all versions there are. -/
theorem Wrote.documents {store after : Store} {script : Script} {report : WriteReport}
    (wrote : store.Wrote script after report) {version : VersionStamp}
    (known : version ≤ store.authority.current) (row : RowId) :
    after.documentAt? row version = store.documentAt? row version := by
  cases wrote with
  | refused _ | panicked _ _ | failed _ _ | aborted _ _ _ | unchanged _ _ _ _ => rfl
  | committed _ _ _ _ => exact store.documentAt?_afterCommit _ row known

theorem Wrote.poisoned {store after : Store} {script : Script} {report : WriteReport}
    (wrote : store.Wrote script after report) (poisoned : after.poisoned = true) :
    store.poisoned = true ∨ ∃ message, report.commit = .panicked message := by
  cases wrote with
  | panicked _ _ => exact .inr ⟨_, rfl⟩
  | refused _ | failed _ _ | aborted _ _ _ | unchanged _ _ _ _ | committed _ _ _ _ =>
      exact .inl poisoned

/-- A version that was there and can still be read has the documents it had. -/
theorem Descends.documents (descends : first.Descends last) {version : VersionStamp}
    (known : version ≤ first.authority.current) (kept : last.horizon ≤ version) (row : RowId) :
    last.documentAt? row version = first.documentAt? row version := by
  induction descends with
  | start => rfl
  | @wrote store earlier script inductionHypothesis =>
      have wrote := store.wrote_write script
      rw [wrote.documents (Nat.le_trans known earlier.precedes.current_le)]
      exact inductionHypothesis (wrote.kept.2 ▸ kept)
  | @collected store after report earlier collecting inductionHypothesis =>
      obtain ⟨_, reclaimed⟩ := (store.collect_eq_ok_iff after report).mp collecting
      obtain rfl : after = _ := congrArg Prod.fst reclaimed
      obtain ⟨retained, above⟩ := Nat.max_le.mp kept
      rw [documentAt?_reclaim _ _ above, inductionHypothesis retained]
  | held _ _ inductionHypothesis => exact inductionHypothesis kept

/-- Only a write that panics poisons the lock. -/
theorem Descends.exists_panicked (descends : first.Descends last)
    (sound : first.poisoned = false) (poisoned : last.poisoned = true) :
    ∃ store script message, first.Descends store ∧
      (store.write script).2.commit = .panicked message ∧
        (store.write script).1.Descends last := by
  induction descends with
  | start => exact absurd (sound.symm.trans poisoned) Bool.false_ne_true
  | @wrote store earlier script inductionHypothesis =>
      rcases (store.wrote_write script).poisoned poisoned with before | ⟨message, panicked⟩
      · obtain ⟨middle, cause, message, reached, panicked, later⟩ := inductionHypothesis before
        exact ⟨middle, cause, message, reached, panicked, later.wrote script⟩
      · exact ⟨store, script, message, earlier, panicked, .start⟩
  | @collected store after report earlier collecting inductionHypothesis =>
      obtain ⟨unpoisoned, reclaimed⟩ := (store.collect_eq_ok_iff after report).mp collecting
      obtain rfl : after = _ := congrArg Prod.fst reclaimed
      exact absurd (unpoisoned.symm.trans poisoned) Bool.false_ne_true
  | held _ retention inductionHypothesis =>
      obtain ⟨middle, cause, message, reached, panicked, later⟩ := inductionHypothesis poisoned
      exact ⟨middle, cause, message, reached, panicked, later.held retention⟩

/-- Each of the rows has a document at their version, as long as that can be read. -/
structure Complete (store : Store) (rows : RowSet) : Prop where
  known : rows.version ≤ store.authority.current
  documents : store.horizon ≤ rows.version →
    ∀ row ∈ rows.rows, (store.documentAt? row rows.version).isSome = true

/-- A pinned snapshot of their version keeps the rows complete. -/
structure Shows (store : Store) (rows : RowSet) (snapshot : Snapshot) : Prop where
  pinned : snapshot.isPinned = true
  version : snapshot.version = rows.version
  complete : store.Complete rows

variable {rows : RowSet} {snapshot : Snapshot}

theorem Complete.descends (complete : first.Complete rows) (descends : first.Descends last) :
    last.Complete rows where
  known := Nat.le_trans complete.known descends.precedes.current_le
  documents kept row member := by
    rw [descends.documents complete.known kept]
    exact complete.documents (Nat.le_trans descends.horizon_le kept) row member

theorem Shows.descends (shows : first.Shows rows snapshot) (descends : first.Descends last) :
    last.Shows rows snapshot :=
  ⟨shows.pinned, shows.version, shows.complete.descends descends⟩

/-- The rows a predicate holds of at a version have documents. -/
theorem complete_rowsMatching (store : Store) (predicate : Predicate) {version : VersionStamp}
    (known : version ≤ store.authority.current) :
    store.Complete ⟨version, store.rowsMatching predicate version⟩ where
  known := known
  documents _ row member := by
    obtain ⟨⟨found, document⟩, among, rfl⟩ := List.mem_map.mp member
    have there := (store.mem_rowsAt found document version).mp (List.mem_filter.mp among).1
    simp only [there, Option.isSome_some]

end SnapshotQuery.Store
