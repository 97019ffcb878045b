import SnapshotQuery.Proofs.Store.Reads

/-!
# Why a store refuses

A call about versions that are retained is refused only because the lock is
poisoned.  Every other refusal is the fault of the caller: a predicate that does
not fit, or rows that do not belong to their version.
-/

namespace SnapshotQuery.Store

variable {store : Store}

/-- A call that only needs the lock. -/
theorem lock_eq (store : Store) :
    store.lock = if store.poisoned then .error .lockPoisoned else .ok () :=
  rfl

theorem openSnapshot_of_retained {version : Option VersionStamp}
    (retained : store.Retained (version.getD store.authority.current)) :
    store.openSnapshot version =
      if store.poisoned then .error .lockPoisoned
      else .ok ((store.retention.acquire (version.getD store.authority.current)).1,
        { store with
          retention := (store.retention.acquire (version.getD store.authority.current)).2 }) := by
  simp only [openSnapshot, lock_eq, (store.checkRetained_eq_ok_iff _).mpr retained]
  cases store.poisoned <;> rfl

theorem evaluate_of_invalid {predicate : Predicate} {fault : PredicateFault}
    (invalid : predicate.check store.schema = .error fault) (snapshot : Snapshot) :
    store.evaluate snapshot predicate =
      .error (.invalidPredicate (fault.reason store.schema.name)) := by
  simp only [evaluate, invalid]

theorem evaluate_of_retained {snapshot : Snapshot} {predicate : Predicate}
    (valid : predicate.check store.schema = .ok ())
    (retained : store.Retained snapshot.version) :
    store.evaluate snapshot predicate =
      if store.poisoned then .error .lockPoisoned
      else .ok ⟨snapshot.version, store.rowsMatching predicate snapshot.version⟩ := by
  simp only [evaluate, valid, lock_eq, (store.checkRetained_eq_ok_iff _).mpr retained]
  cases store.poisoned <;> rfl

theorem importRows_of_retained {rows : RowSet} {target : VersionStamp}
    (ordered : rows.version ≤ target) (source : store.Retained rows.version)
    (retained : store.Retained target) :
    store.importRows rows rows.version target =
      if store.poisoned then .error .lockPoisoned
      else .ok ⟨target, rows.rows.filter fun row => (store.documentAt? row target).isSome⟩ := by
  have fits : ¬(rows.version ≠ rows.version ∨ target < rows.version) := by
    rw [not_or, not_ne_iff]
    exact ⟨rfl, Nat.not_lt.mpr ordered⟩
  simp only [importRows, if_neg fits, lock_eq, (store.checkRetained_eq_ok_iff _).mpr source,
    (store.checkRetained_eq_ok_iff _).mpr retained]
  cases store.poisoned <;> rfl

theorem readRow_of_retained {snapshot : Snapshot} (retained : store.Retained snapshot.version)
    (row : RowId) :
    store.readRow snapshot row =
      if store.poisoned then .error .lockPoisoned
      else .ok (store.documentAt? row snapshot.version) := by
  simp only [readRow, lock_eq, (store.checkRetained_eq_ok_iff _).mpr retained]
  cases store.poisoned <;> rfl

end SnapshotQuery.Store
