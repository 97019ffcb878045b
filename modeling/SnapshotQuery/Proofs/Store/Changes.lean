import SnapshotQuery.Proofs.Store.Reads
import SnapshotQuery.Proofs.Version.Visibility
import SnapshotQuery.Store.Collection
import SnapshotQuery.Store.Transaction

/-!
# What changes a store

Only a commit and a collection change the rows of a store.  A commit leaves all
documents of the versions there are as they were, and a collection those of the
versions from its floor on.
-/

namespace SnapshotQuery.Store

/-- The store with the changes of a transaction under the next version. -/
def afterCommit (store : Store) (transaction : Transaction) : Store :=
  { store with
    authority := ⟨store.authority.nextVersion⟩
    rows := transaction.staged.entries.foldl (apply store.authority.nextVersion) store.rows
    nextRow := transaction.nextRow
    published := store.authority.nextVersion }

/-- The version a commit carries is always the one that is due. -/
theorem commit_eq (store : Store) (transaction : Transaction) :
    store.commit transaction =
      if transaction.staged.isEmpty then (store, .unchanged store.authority.current)
      else (store.afterCommit transaction,
        .committed store.authority.nextVersion transaction.staged.size) := by
  simp only [commit, CommitAuthority.markCommitted, if_true]
  rfl

/-- How a script ends on a store, and the store it leaves. -/
inductive Wrote (store : Store) (script : Script) : Store → WriteReport → Prop
  | refused (poisoned : store.poisoned = true) :
      Wrote store script store ⟨[], .failed .lockPoisoned⟩
  | panicked {transaction answers message} (sound : store.poisoned = false)
      (ran : Transaction.run script.keepGoing script.calls (Transaction.start store) =
        (transaction, answers, .panicked message)) :
      Wrote store script { store with poisoned := true } ⟨answers, .panicked message⟩
  | failed {transaction answers error} (sound : store.poisoned = false)
      (ran : Transaction.run script.keepGoing script.calls (Transaction.start store) =
        (transaction, answers, .failed error)) :
      Wrote store script store ⟨answers, .failed error⟩
  | aborted {transaction answers error} (sound : store.poisoned = false)
      (ran : Transaction.run script.keepGoing script.calls (Transaction.start store) =
        (transaction, answers, .finished))
      (given : script.abort = some error) :
      Wrote store script store ⟨answers, .failed error⟩
  | unchanged {transaction answers} (sound : store.poisoned = false)
      (ran : Transaction.run script.keepGoing script.calls (Transaction.start store) =
        (transaction, answers, .finished))
      (given : script.abort = none) (nothing : transaction.staged.isEmpty = true) :
      Wrote store script store ⟨answers, .unchanged store.authority.current⟩
  | committed {transaction answers} (sound : store.poisoned = false)
      (ran : Transaction.run script.keepGoing script.calls (Transaction.start store) =
        (transaction, answers, .finished))
      (given : script.abort = none) (something : transaction.staged.isEmpty = false) :
      Wrote store script (store.afterCommit transaction)
        ⟨answers, .committed store.authority.nextVersion transaction.staged.size⟩

theorem wrote_write (store : Store) (script : Script) :
    store.Wrote script (store.write script).1 (store.write script).2 := by
  cases poisoned : store.poisoned with
  | true =>
      simp only [write, lock, poisoned, if_true]
      exact .refused poisoned
  | false =>
      rcases ran : Transaction.run script.keepGoing script.calls (Transaction.start store) with
        ⟨transaction, answers, ending⟩
      cases ending with
      | panicked message =>
          simp only [write, lock, poisoned, Bool.false_eq_true, if_false, ran]
          exact .panicked poisoned ran
      | failed error =>
          simp only [write, lock, poisoned, Bool.false_eq_true, if_false, ran]
          exact .failed poisoned ran
      | finished =>
          cases given : script.abort with
          | some error =>
              simp only [write, lock, poisoned, Bool.false_eq_true, if_false, ran, given]
              exact .aborted poisoned ran given
          | none =>
              simp only [write, lock, poisoned, Bool.false_eq_true, if_false, ran, given, commit_eq]
              cases nothing : transaction.staged.isEmpty with
              | true =>
                  rw [if_pos rfl]
                  exact .unchanged poisoned ran given nothing
              | false =>
                  rw [if_neg Bool.false_ne_true]
                  exact .committed poisoned ran given nothing

theorem collect_eq_ok_iff (store after : Store) (report : GcReport) :
    store.collect = .ok (after, report) ↔
      store.poisoned = false ∧ (after, report) =
        store.reclaim (store.retention.floor.collectionFloor store.authority.current) := by
  unfold collect
  rw [← lock_eq_ok_iff]
  cases store.lock with
  | error refusal => simp [bind, Except.bind]
  | ok => simp [bind, Except.bind, pure, Except.pure, eq_comm]

/-- Appending changes of a version leaves what earlier readers see. -/
theorem find?_foldl_apply_documentAt? (changes : List (RowId × Option Value))
    (rows : OrderedMap RowId VersionChain) {version stamp : VersionStamp}
    (earlier : stamp < version) (row : RowId) :
    (((changes.foldl (apply version) rows).find? row).bind fun chain => chain.documentAt? stamp) =
      (rows.find? row).bind fun chain => chain.documentAt? stamp := by
  induction changes generalizing rows with
  | nil => rfl
  | cons change rest inductionHypothesis =>
      rw [List.foldl_cons, inductionHypothesis]
      simp only [apply, OrderedMap.find?_insert]
      by_cases here : row = change.1
      · have later : stamp < (versionOf version change.2).committedAt := by
          cases change.2 <;> exact earlier
        rw [if_pos here, Option.bind_some, VersionChain.documentAt?_push_of_lt _ later, ← here]
        cases rows.find? row <;> rfl
      · rw [if_neg here]

theorem documentAt?_afterCommit (store : Store) (transaction : Transaction) (row : RowId)
    {version : VersionStamp} (known : version ≤ store.authority.current) :
    (store.afterCommit transaction).documentAt? row version = store.documentAt? row version :=
  find?_foldl_apply_documentAt? transaction.staged.entries store.rows (Nat.lt_succ_of_le known) row

theorem documentAt?_reclaim (store : Store) (row : RowId) {floor version : VersionStamp}
    (above : floor ≤ version) :
    (store.reclaim floor).1.documentAt? row version = store.documentAt? row version := by
  simp only [documentAt?, reclaim, OrderedMap.find?_filter, OrderedMap.find?_mapItems]
  cases store.rows.find? row with
  | none => rfl
  | some chain =>
      have kept := chain.documentAt?_pruneBelow above
      cases dead : (chain.pruneBelow floor).isDeadAt floor with
      | false => simp [Option.filter, dead, kept]
      | true =>
          have gone := VersionChain.documentAt?_of_isDeadAt dead version
          simp [Option.filter, dead, ← kept, gone]

end SnapshotQuery.Store
