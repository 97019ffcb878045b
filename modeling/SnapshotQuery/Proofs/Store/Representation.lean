import SnapshotQuery.Proofs.Store.Client

/-!
# What a store looks like after any calls

Whatever a client has called, the current version counts the commits, every row
has an id that was given out and a history in order, and what is pinned is
retained.  So a commit always finds its version due and its row ready for it.
-/

namespace SnapshotQuery

namespace Store

variable {store : Store} {transaction : Transaction}

/-- Each history accepts what a commit appends to it, after the changes entered before. -/
def Appends (store : Store) (transaction : Transaction) : Prop :=
  ∀ earlier change later, transaction.staged.entries = earlier ++ change :: later →
    (((earlier.foldl (apply store.authority.nextVersion) store.rows).find? change.1).getD
      .empty).Accepts (versionOf store.authority.nextVersion change.2)

/-- A row is changed once in a transaction, so its history is the one before the commit. -/
theorem WellFormed.appends (wellFormed : store.WellFormed) (transaction : Transaction) :
    store.Appends transaction := by
  intro earlier change later split
  have sorted := transaction.staged.sorted
  rw [split] at sorted
  obtain ⟨earlierSorted, -, before⟩ := List.pairwise_append.mp sorted
  have absent : earlier.lookup change.1 = none := by
    cases found : earlier.lookup change.1 with
    | none => rfl
    | some other =>
        have member : (change.1, other) ∈ earlier :=
          (OrderedMap.mem_entries_iff ⟨earlier, earlierSorted⟩ change.1 other).mpr found
        exact absurd (before _ member change List.mem_cons_self) (Nat.lt_irrefl _)
  rw [find?_foldl_apply earlierSorted, absent]
  cases held : store.rows.find? change.1 with
  | none => exact nofun
  | some chain =>
      apply (wellFormed.ordered change.1 chain held).accepts
      rw [committedAt_versionOf]
      exact Nat.le_succ store.authority.current

theorem commit_ne_failed (store : Store) (transaction : Transaction) (error : StoreError) :
    (store.commit transaction).2 ≠ .failed error := by
  rw [commit_eq]
  split <;> exact nofun

end Store

namespace Client

variable {client : Client}

/-- Only a commit moves on to the next version, and it says so. -/
theorem current_call (client : Client) (call : ClientCall) :
    (client.call call).1.store.authority.current =
      client.store.authority.current + (client.call call).2.isCommit.toNat := by
  have called := client.called_call call
  generalize client.call call = made at called
  obtain ⟨next, answer⟩ := made
  cases called with
  | wrote wrote => cases wrote <;> rfl
  | collected collecting =>
      obtain ⟨_, reclaimed⟩ := (client.store.collect_eq_ok_iff _ _).mp collecting
      obtain ⟨rfl, _⟩ := Prod.mk.inj reclaimed
      rfl
  | pinned quiet _ => simp [quiet]

theorem current_run (calls : List ClientCall) (client : Client) :
    (run calls client).1.store.authority.current =
      client.store.authority.current + (run calls client).2.countP ClientAnswer.isCommit := by
  induction calls generalizing client with
  | nil => rfl
  | cons call rest inductionHypothesis =>
      simp only [run]
      rw [inductionHypothesis, current_call, List.countP_cons]
      cases (client.call call).2.isCommit with
      | true => simp [Nat.add_assoc, Nat.add_comm, Nat.add_left_comm]
      | false => rfl

/-- The books of pins name the versions of the snapshots that are kept. -/
theorem Sound.readers_pos_iff (sound : client.Sound) (version : VersionStamp) :
    0 < client.store.retention.floor.readers version ↔
      ∃ snapshot ∈ client.snapshots, snapshot.isPinned = true ∧ snapshot.version = version := by
  rw [sound.backs.accounts.readers, Finset.card_pos]
  constructor
  · rintro ⟨snapshot, member⟩
    obtain ⟨among, same⟩ := Retention.mem_family.mp member
    obtain ⟨held, pinned⟩ := List.mem_filter.mp among
    exact ⟨snapshot, held, pinned, same⟩
  · rintro ⟨snapshot, held, pinned, same⟩
    exact ⟨snapshot, Retention.mem_family.mpr ⟨List.mem_filter.mpr ⟨held, pinned⟩, same⟩⟩

/-- The books of pins name versions that can be read. -/
theorem Sound.retained_of_readers (sound : client.Sound) {version : VersionStamp}
    (read : 0 < client.store.retention.floor.readers version) :
    client.store.Retained version := by
  obtain ⟨snapshot, held, pinned, rfl⟩ := (sound.readers_pos_iff version).mp read
  exact sound.backs.retained snapshot held pinned

/-- The representation invariant of a store, after any calls on an empty one. -/
theorem representation (schema : TableSchema) (calls : List ClientCall) :
    let store := (run calls (new schema)).1.store
    store.published = store.authority.current ∧
      store.published = (run calls (new schema)).2.countP ClientAnswer.isCommit ∧
      (∀ row chain, store.rows.find? row = some chain →
        row < store.nextRow ∧ chain.Ordered store.authority.current) ∧
      (∀ version, 0 < store.retention.floor.readers version →
        store.horizon ≤ version ∧ version ≤ store.authority.current) ∧
      (∀ transaction, store.Appends transaction) ∧
      ∀ transaction error, (store.commit transaction).2 ≠ .failed error := by
  intro store
  have sound : (run calls (new schema)).1.Sound := sound_after schema calls
  have wellFormed := sound.wellFormed
  refine ⟨wellFormed.published, ?_, ?_, ?_, wellFormed.appends, store.commit_ne_failed⟩
  · have counted := current_run calls (new schema)
    rw [wellFormed.published, counted]
    exact Nat.zero_add _
  · exact fun row chain held => ⟨wellFormed.known row chain held, wellFormed.ordered row chain held⟩
  · exact fun version => sound.retained_of_readers

end Client

end SnapshotQuery
