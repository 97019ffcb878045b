import SnapshotQuery.Proofs.OrderedMap
import SnapshotQuery.Store.Basic

/-!
# What reads of a store return

A read succeeds exactly if the lock is not poisoned and the version is retained,
and its answer depends only on the documents that exist at the version.
-/

namespace SnapshotQuery.Store

theorem lock_eq_ok_iff (store : Store) : store.lock = .ok () ↔ store.poisoned = false := by
  cases poisoned : store.poisoned <;> simp [lock, poisoned]

/-- The version can be read. -/
def Retained (store : Store) (version : VersionStamp) : Prop :=
  store.horizon ≤ version ∧ version ≤ store.authority.current

theorem checkRetained_eq_ok_iff (store : Store) (version : VersionStamp) :
    store.checkRetained version = .ok () ↔ store.Retained version := by
  by_cases outside : version < store.horizon ∨ store.authority.current < version
  · simp only [checkRetained, Retained, if_pos outside, reduceCtorEq, false_iff, not_and_or,
      Nat.not_le]
    exact outside
  · simp only [checkRetained, Retained, if_neg outside, true_iff]
    exact ⟨Nat.le_of_not_lt (outside ∘ .inl), Nat.le_of_not_lt (outside ∘ .inr)⟩

/-- The rows a predicate holds of at a version, in row order. -/
def rowsMatching (store : Store) (predicate : Predicate) (version : VersionStamp) : List RowId :=
  ((store.rowsAt version).filter fun row => predicate.holds row.2).map (·.1)

theorem evaluate_eq_ok_iff (store : Store) (snapshot : Snapshot) (predicate : Predicate)
    (rows : RowSet) :
    store.evaluate snapshot predicate = .ok rows ↔
      predicate.check store.schema = .ok () ∧ store.poisoned = false ∧
        store.Retained snapshot.version ∧
          rows = ⟨snapshot.version, store.rowsMatching predicate snapshot.version⟩ := by
  unfold evaluate
  cases predicate.check store.schema with
  | error fault => simp
  | ok =>
      simp only [true_and]
      rw [← lock_eq_ok_iff, ← checkRetained_eq_ok_iff]
      cases store.lock with
      | error refusal => simp [bind, Except.bind]
      | ok =>
          cases store.checkRetained snapshot.version with
          | error refusal => simp [bind, Except.bind]
          | ok => simp [bind, Except.bind, pure, Except.pure, rowsMatching, eq_comm]

theorem readRow_eq_ok_iff (store : Store) (snapshot : Snapshot) (row : RowId)
    (document : Option Value) :
    store.readRow snapshot row = .ok document ↔
      store.poisoned = false ∧ store.Retained snapshot.version ∧
        document = store.documentAt? row snapshot.version := by
  unfold readRow
  rw [← lock_eq_ok_iff, ← checkRetained_eq_ok_iff]
  cases store.lock with
  | error refusal => simp [bind, Except.bind]
  | ok =>
      cases store.checkRetained snapshot.version with
      | error refusal => simp [bind, Except.bind]
      | ok => simp [bind, Except.bind, pure, Except.pure, eq_comm]

theorem openSnapshot_eq_ok_iff (store : Store) (version : Option VersionStamp)
    (snapshot : Snapshot) (opened : Store) :
    store.openSnapshot version = .ok (snapshot, opened) ↔
      store.poisoned = false ∧ store.Retained (version.getD store.authority.current) ∧
        (snapshot, opened) =
          ((store.retention.acquire (version.getD store.authority.current)).1,
            { store with
              retention :=
                (store.retention.acquire (version.getD store.authority.current)).2 }) := by
  simp only [openSnapshot]
  generalize version.getD store.authority.current = chosen
  rw [← lock_eq_ok_iff, ← checkRetained_eq_ok_iff]
  cases store.lock with
  | error refusal => simp [bind, Except.bind]
  | ok =>
      cases store.checkRetained chosen with
      | error refusal => simp [bind, Except.bind]
      | ok => simp [bind, Except.bind, pure, Except.pure, eq_comm]

theorem mem_rowsAt (store : Store) (row : RowId) (document : Value) (version : VersionStamp) :
    (row, document) ∈ store.rowsAt version ↔ store.documentAt? row version = some document := by
  simp only [rowsAt, List.mem_filterMap, documentAt?, Option.bind_eq_some_iff,
    Option.map_eq_some_iff, Prod.mk.injEq]
  constructor
  · rintro ⟨⟨held, chain⟩, member, seen, found, rfl, rfl⟩
    exact ⟨chain, (store.rows.mem_entries_iff held chain).mp member, found⟩
  · rintro ⟨chain, found, seen⟩
    exact ⟨(row, chain), (store.rows.mem_entries_iff row chain).mpr found, document, seen, rfl, rfl⟩

theorem rowsAt_sorted (store : Store) (version : VersionStamp) :
    (store.rowsAt version).Pairwise fun left right => left.1 < right.1 := by
  apply store.rows.sorted.filterMap
  intro left right ordered leftSeen leftOf rightSeen rightOf
  obtain ⟨leftDocument, _, rfl⟩ := Option.map_eq_some_iff.mp leftOf
  obtain ⟨rightDocument, _, rfl⟩ := Option.map_eq_some_iff.mp rightOf
  exact ordered

theorem rowsMatching_sorted (store : Store) (predicate : Predicate) (version : VersionStamp) :
    (store.rowsMatching predicate version).Pairwise fun left right => left < right :=
  List.pairwise_map.mpr ((store.rowsAt_sorted version).filter _)

/-- The rows that exist at a version, as a map. -/
def tableAt (store : Store) (version : VersionStamp) : OrderedMap RowId Value :=
  ⟨store.rowsAt version, store.rowsAt_sorted version⟩

@[simp]
theorem find?_tableAt (store : Store) (row : RowId) (version : VersionStamp) :
    (store.tableAt version).find? row = store.documentAt? row version := by
  apply Option.ext
  intro document
  rw [← OrderedMap.mem_entries_iff]
  exact store.mem_rowsAt row document version

/-- The documents at a version determine the rows at it, their order included. -/
theorem rowsAt_congr {left right : Store} {version : VersionStamp}
    (same : ∀ row, left.documentAt? row version = right.documentAt? row version) :
    left.rowsAt version = right.rowsAt version := by
  have found : ∀ row, (left.tableAt version).find? row = (right.tableAt version).find? row := by
    intro row
    rw [find?_tableAt, find?_tableAt, same row]
  exact OrderedMap.entries_congr found

theorem rowsMatching_congr {left right : Store} {version : VersionStamp}
    (same : ∀ row, left.documentAt? row version = right.documentAt? row version)
    (predicate : Predicate) :
    left.rowsMatching predicate version = right.rowsMatching predicate version := by
  rw [rowsMatching, rowsMatching, rowsAt_congr same]

end SnapshotQuery.Store
