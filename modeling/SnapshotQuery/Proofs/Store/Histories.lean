import SnapshotQuery.Proofs.Store.Staging

/-!
# Histories after a commit

A commit appends each staged change to the history of its row and leaves all
other rows alone.  So the histories stay in order: no row comes back once it is
deleted, and what is deleted for all readers is dropped by a collection.
-/

namespace SnapshotQuery

namespace Store

variable {store : Store} {transaction : Transaction} {version : VersionStamp}

@[simp]
theorem committedAt_versionOf (version : VersionStamp) (change : Option Value) :
    (versionOf version change).committedAt = version := by
  cases change <;> rfl

@[simp]
theorem isTombstone_versionOf (version : VersionStamp) (change : Option Value) :
    (versionOf version change).isTombstone = change.isNone := by
  cases change <;> rfl

/-- A change is what readers see from its version on. -/
theorem documentAt?_push_versionOf (chain : VersionChain) (change : Option Value)
    {committed : VersionStamp} (seen : committed ≤ version) :
    (chain.push (versionOf committed change)).documentAt? version = change := by
  cases change <;>
    simp [VersionChain.documentAt?, VersionChain.visible?, versionOf, seen, Option.filter,
      RowVersion.isTombstone, RowVersion.document?]

/-- Each row gets the change that is entered for it. -/
theorem find?_foldl_apply {changes : List (RowId × Option Value)}
    (sorted : changes.Pairwise fun left right => left.1 < right.1)
    (rows : OrderedMap RowId VersionChain) (row : RowId) :
    (changes.foldl (apply version) rows).find? row =
      match changes.lookup row with
      | some change => some (((rows.find? row).getD .empty).push (versionOf version change))
      | none => rows.find? row := by
  induction changes generalizing rows with
  | nil => rfl
  | cons first rest inductionHypothesis =>
      obtain ⟨least, restSorted⟩ := List.pairwise_cons.mp sorted
      rw [List.foldl_cons, inductionHypothesis restSorted, OrderedMap.lookup_cons]
      by_cases here : row = first.1
      · have absent : rest.lookup row = none := by
          cases later : rest.lookup row with
          | none => rfl
          | some change =>
              have member : (row, change) ∈ rest :=
                (OrderedMap.mem_entries_iff ⟨rest, restSorted⟩ row change).mpr later
              exact absurd (least _ member) (by simp [here])
        rw [absent]
        simp [apply, here]
      · cases rest.lookup row <;> simp [apply, here]

theorem find?_rows_afterCommit (store : Store) (transaction : Transaction) (row : RowId) :
    (store.afterCommit transaction).rows.find? row =
      match transaction.staged.find? row with
      | some change =>
          some (((store.rows.find? row).getD .empty).push
            (versionOf store.authority.nextVersion change))
      | none => store.rows.find? row :=
  find?_foldl_apply transaction.staged.sorted store.rows row

/-- From its version on, readers see what a commit staged over what there was. -/
theorem documentAt?_afterCommit_of_le (row : RowId)
    (later : store.authority.nextVersion ≤ version) :
    (store.afterCommit transaction).documentAt? row version =
      match transaction.staged.find? row with
      | some change => change
      | none => store.documentAt? row version := by
  simp only [documentAt?, find?_rows_afterCommit]
  cases transaction.staged.find? row with
  | none => rfl
  | some change => exact documentAt?_push_versionOf _ change later

theorem WellFormed.documentAt?_of_le (wellFormed : store.WellFormed) (row : RowId)
    (later : store.authority.current ≤ version) :
    store.documentAt? row version = store.documentAt? row store.authority.current := by
  unfold documentAt?
  cases found : store.rows.find? row with
  | none => rfl
  | some chain =>
      exact VersionChain.documentAt?_of_committed (wellFormed.ordered row chain found).committed
        later

/-- The version after a commit shows the rows as the transaction saw them at its end. -/
theorem WellFormed.documentAt?_next (wellFormed : store.WellFormed)
    (base : transaction.store = store) (row : RowId) :
    (store.afterCommit transaction).documentAt? row store.authority.nextVersion =
      transaction.documentOf? row := by
  have unchanged := wellFormed.documentAt?_of_le row (Nat.le_succ store.authority.current)
  subst base
  rw [documentAt?_afterCommit_of_le row (Nat.le_refl _)]
  unfold Transaction.documentOf?
  cases transaction.staged.find? row with
  | none => exact unchanged
  | some change => rfl

/-- The history a staged change is appended to can take it. -/
theorem WellFormed.ordered_push (wellFormed : store.WellFormed) (base : transaction.store = store)
    (staging : transaction.Staging) {row : RowId} {change : Option Value}
    (staged : transaction.staged.find? row = some change) :
    (((store.rows.find? row).getD .empty).push
      (versionOf store.authority.nextVersion change)).Ordered store.authority.nextVersion := by
  subst base
  cases found : transaction.store.rows.find? row with
  | none =>
      have new : transaction.store.nextRow ≤ row := by
        by_contra known
        have there := staging.replaced row change staged (Nat.lt_of_not_le known)
        simp [documentAt?, found] at there
      obtain ⟨-, given⟩ := staging.added row change staged new
      have living :
          (versionOf transaction.store.authority.nextVersion change).isTombstone = false := by
        simpa using given
      simpa using VersionChain.ordered_push_empty living
  | some chain =>
      have ordered := wellFormed.ordered row chain found
      have there := staging.replaced row change staged (wellFormed.known row chain found)
      have living : (chain.documentAt? transaction.store.authority.current).isSome = true := by
        simpa [documentAt?, found, Transaction.base] using there
      have later : transaction.store.authority.current <
          (versionOf transaction.store.authority.nextVersion change).committedAt := by
        simp [CommitAuthority.current, CommitAuthority.nextVersion, VersionStamp.next]
      simpa using ordered.push later (VersionChain.latest?_living ordered.committed living)

theorem wellFormed_new (schema : TableSchema) : (Store.new schema).WellFormed where
  toCoherent := coherent_new schema
  known row chain found := by simp [Store.new] at found
  ordered row chain found := by simp [Store.new] at found

theorem WellFormed.afterCommit (wellFormed : store.WellFormed) (base : transaction.store = store)
    (staging : transaction.Staging) : (store.afterCommit transaction).WellFormed where
  published := rfl
  horizon_le := Nat.le_succ_of_le wellFormed.horizon_le
  known row chain found := by
    have grown : store.nextRow ≤ transaction.nextRow := base ▸ staging.nextRow_le
    rw [find?_rows_afterCommit] at found
    cases staged : transaction.staged.find? row with
    | none =>
        rw [staged] at found
        exact Nat.lt_of_lt_of_le (wellFormed.known row chain found) grown
    | some change =>
        by_cases known : row < store.nextRow
        · exact Nat.lt_of_lt_of_le known grown
        · exact (staging.added row change staged (base ▸ Nat.le_of_not_lt known)).1
  ordered row chain found := by
    rw [find?_rows_afterCommit] at found
    cases staged : transaction.staged.find? row with
    | none =>
        rw [staged] at found
        exact (wellFormed.ordered row chain found).mono (Nat.le_succ _)
    | some change =>
        rw [staged] at found
        obtain rfl := Option.some.inj found
        exact wellFormed.ordered_push base staging staged

/-- A history that is left by a collection is an older one that was pruned. -/
theorem exists_of_find?_reclaim {floor : VersionStamp} {row : RowId} {chain : VersionChain}
    (found : (store.reclaim floor).1.rows.find? row = some chain) :
    ∃ old, store.rows.find? row = some old ∧ chain = old.pruneBelow floor ∧
      chain.isDeadAt floor = false := by
  simp only [Store.reclaim, OrderedMap.find?_filter, OrderedMap.find?_mapItems,
    Option.filter_eq_some_iff, Option.map_eq_some_iff] at found
  obtain ⟨⟨old, held, rfl⟩, living⟩ := found
  exact ⟨old, held, rfl, by simpa using living⟩

theorem WellFormed.reclaim (wellFormed : store.WellFormed) {floor : VersionStamp}
    (known : floor ≤ store.authority.current) : (store.reclaim floor).1.WellFormed := by
  refine ⟨⟨wellFormed.published, Nat.max_le.mpr ⟨wellFormed.horizon_le, known⟩⟩, ?_, ?_⟩
  · intro row chain found
    obtain ⟨old, held, _, _⟩ := exists_of_find?_reclaim found
    exact wellFormed.known row old held
  · intro row chain found
    obtain ⟨old, held, rfl, living⟩ := exists_of_find?_reclaim found
    exact (wellFormed.ordered row old held).pruneBelow living

theorem WellFormed.retention (wellFormed : store.WellFormed) (retention : Retention) :
    ({ store with retention } : Store).WellFormed :=
  { wellFormed with }

theorem WellFormed.wrote (wellFormed : store.WellFormed) {script : Script} {after : Store}
    {report : WriteReport} (wrote : store.Wrote script after report) : after.WellFormed := by
  cases wrote with
  | refused _ => exact wellFormed
  | panicked _ _ => exact { wellFormed with }
  | failed _ _ => exact wellFormed
  | aborted _ _ _ => exact wellFormed
  | unchanged _ _ _ _ => exact wellFormed
  | committed _ ran _ _ =>
      have staged := Transaction.staging_run wellFormed script.keepGoing script.calls
      rw [ran] at staged
      exact wellFormed.afterCommit staged.1 staged.2

theorem WellFormed.collect (wellFormed : store.WellFormed) {after : Store} {report : GcReport}
    (collecting : store.collect = .ok (after, report)) : after.WellFormed := by
  obtain ⟨_, reclaimed⟩ := (store.collect_eq_ok_iff after report).mp collecting
  obtain ⟨rfl, rfl⟩ := Prod.mk.inj reclaimed
  exact wellFormed.reclaim (store.retention.floor.collectionFloor_le_current _)

end Store

end SnapshotQuery
