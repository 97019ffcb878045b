import SnapshotQuery.Proofs.Retention.Census
import SnapshotQuery.Proofs.Store.Representation
import SnapshotQuery.Proofs.Store.Thinning
import SnapshotQuery.Proofs.Version.Pruning

/-!
# What a collection leaves behind

A collection drops all that no reader from its floor on could see, and accounts
for every version it drops.  So another one right after it finds nothing to do,
and where nothing is pinned just the current version of each row is left.
-/

namespace SnapshotQuery

namespace Store

variable {store : Store} {floor : VersionStamp}

/-- The number of versions that are kept, over all rows. -/
def versionCount (store : Store) : Nat := (store.rows.values.map VersionChain.size).sum

/-- All that the store holds is for readers from the floor up to the current version. -/
structure Compact (store : Store) (floor : VersionStamp) : Prop where
  single : ∀ row chain, store.rows.find? row = some chain →
    chain.versions.countP (fun version => version.committedAt ≤ floor) ≤ 1
  resolved : ∀ row chain, store.rows.find? row = some chain → ∀ version ∈ chain.versions,
    ∃ stamp, floor ≤ stamp ∧ stamp ≤ store.authority.current ∧
      chain.resolve? stamp = some version
  shown : ∀ row chain, store.rows.find? row = some chain →
    ∃ stamp, floor ≤ stamp ∧ stamp ≤ store.authority.current ∧
      (store.documentAt? row stamp).isSome = true

theorem WellFormed.compact_reclaim (wellFormed : store.WellFormed)
    (known : floor ≤ store.authority.current) : (store.reclaim floor).1.Compact floor := by
  have trimmed : ∀ row chain, (store.reclaim floor).1.rows.find? row = some chain →
      chain.Trimmed floor := by
    intro row chain found
    obtain ⟨old, -, rfl, -⟩ := exists_of_find?_reclaim found
    exact old.trimmed_pruneBelow floor
  have ordered := (wellFormed.reclaim known).ordered
  refine ⟨fun row chain found => (trimmed row chain found).countP_le_one, ?_, ?_⟩
  · intro row chain found version member
    exact (ordered row chain found).exists_resolve? (trimmed row chain found) known member
  · intro row chain found
    obtain ⟨stamp, above, below, living⟩ :=
      (ordered row chain found).exists_documentAt? (trimmed row chain found) known
    exact ⟨stamp, above, below, by rwa [documentAt?, found]⟩

/-- Every version of a chain is kept, or pruned, or dropped as the last one of its row. -/
theorem sum_size_eq (chains : List VersionChain) (floor : VersionStamp) :
    (chains.map VersionChain.size).sum =
      (((chains.map fun chain => chain.pruneBelow floor).filter fun chain =>
          !chain.isDeadAt floor).map VersionChain.size).sum +
        (chains.map fun chain => chain.prunedCount floor).sum +
        (chains.map fun chain => chain.pruneBelow floor).countP fun chain =>
          chain.isDeadAt floor := by
  induction chains with
  | nil => rfl
  | cons chain rest inductionHypothesis =>
      have split := chain.size_pruneBelow_add_prunedCount floor
      simp only [List.map_cons, List.sum_cons, List.filter_cons, List.countP_cons]
      cases dead : (chain.pruneBelow floor).isDeadAt floor with
      | false =>
          simp only [Bool.not_false, if_true, List.map_cons, List.sum_cons, Bool.false_eq_true,
            if_false]
          omega
      | true =>
          have one := VersionChain.size_of_isDeadAt dead
          simp only [Bool.not_true, Bool.false_eq_true, if_false, if_true]
          omega

theorem values_reclaim (store : Store) (floor : VersionStamp) :
    (store.reclaim floor).1.rows.values =
      (store.rows.values.map fun chain => chain.pruneBelow floor).filter fun chain =>
        !chain.isDeadAt floor := by
  rw [← OrderedMap.values_mapItems]
  exact OrderedMap.values_filter _ _

/-- The report of a collection accounts for the versions that are gone. -/
theorem versionCount_reclaim (store : Store) (floor : VersionStamp) :
    store.versionCount = (store.reclaim floor).1.versionCount +
      (store.reclaim floor).2.reclaimedVersions + (store.reclaim floor).2.droppedRows := by
  let pruned := store.rows.values.map fun chain => chain.pruneBelow floor
  have reclaimed : (store.reclaim floor).2.reclaimedVersions =
      (store.rows.values.map fun chain => chain.prunedCount floor).sum := by
    rw [List.sum_eq_foldl, List.foldl_map]
    rfl
  -- The report has the difference of two sizes, and the dead rows are what makes it.
  have dropped : (store.reclaim floor).2.droppedRows =
      pruned.countP fun chain => chain.isDeadAt floor := by
    have sizes : (store.reclaim floor).2.droppedRows =
        pruned.length - (pruned.filter fun chain => !chain.isDeadAt floor).length := by
      rw [← values_reclaim, ← OrderedMap.size_eq_length_values, List.length_map,
        ← OrderedMap.size_eq_length_values]
      simp [reclaim, OrderedMap.size, OrderedMap.mapItems]
    have parts := pruned.length_eq_length_filter_add fun chain => chain.isDeadAt floor
    rw [sizes, parts, Nat.add_sub_cancel, List.countP_eq_length_filter]
  rw [reclaimed, dropped, versionCount, versionCount, values_reclaim]
  exact sum_size_eq store.rows.values floor

/-- There is nothing to reclaim where every history is trimmed and no row is dead. -/
theorem reclaim_of_trimmed (trimmed : ∀ row chain, store.rows.find? row = some chain →
      chain.Trimmed floor ∧ chain.isDeadAt floor = false)
    (above : floor ≤ store.horizon) : store.reclaim floor = (store, ⟨0, 0, store.horizon⟩) := by
  have each : ∀ entry ∈ store.rows.entries,
      entry.2.Trimmed floor ∧ entry.2.isDeadAt floor = false := by
    rintro ⟨row, chain⟩ member
    exact trimmed row chain ((store.rows.mem_entries_iff row chain).mp member)
  have whole : store.rows.mapItems (fun chain => chain.pruneBelow floor) = store.rows := by
    apply OrderedMap.eq_of_entries
    refine (List.map_congr_left fun entry member => ?_).trans (List.map_id _)
    exact Prod.ext rfl (each entry member).1.pruneBelow_eq
  have kept : (store.rows.filter fun _ chain => !chain.isDeadAt floor) = store.rows := by
    apply OrderedMap.eq_of_entries
    apply List.filter_eq_self.mpr
    intro entry member
    simp only [(each entry member).2, Bool.not_false]
  have none : (store.rows.values.map fun chain => chain.prunedCount floor).sum = 0 := by
    apply List.sum_eq_zero
    intro count listed
    obtain ⟨chain, held, rfl⟩ := List.mem_map.mp listed
    obtain ⟨entry, member, rfl⟩ := List.mem_map.mp held
    exact (each entry member).1.prunedCount_eq
  rw [List.sum_eq_foldl, List.foldl_map] at none
  simp only [reclaim, whole, kept, Nat.max_eq_left above, Nat.sub_self]
  rw [none]

/-- The same collection once more does nothing. -/
theorem reclaim_reclaim (store : Store) (floor : VersionStamp) :
    (store.reclaim floor).1.reclaim floor =
      ((store.reclaim floor).1, ⟨0, 0, (store.reclaim floor).1.horizon⟩) := by
  apply reclaim_of_trimmed
  · intro row chain found
    obtain ⟨old, -, rfl, living⟩ := exists_of_find?_reclaim found
    exact ⟨old.trimmed_pruneBelow floor, living⟩
  · exact Nat.le_max_right _ _

theorem Compact.size_eq_one (compact : store.Compact store.authority.current)
    (wellFormed : store.WellFormed) {row : RowId} {chain : VersionChain}
    (found : store.rows.find? row = some chain) : chain.size = 1 := by
  have ordered := wellFormed.ordered row chain found
  have every : chain.versions.countP (fun version =>
      version.committedAt ≤ store.authority.current) = chain.versions.length := by
    rw [List.countP_eq_length]
    simpa using ordered.committed
  have atMost : chain.versions.length ≤ 1 := every ▸ compact.single row chain found
  exact Nat.le_antisymm atMost (List.length_pos_iff.mpr ordered.nonempty)

theorem Compact.liveRows_eq (compact : store.Compact store.authority.current)
    (sound : store.poisoned = false) : store.liveRows = .ok store.rows.size := by
  have every : (store.rowsAt store.authority.current).length = store.rows.size := by
    refine List.filterMap_length_eq_length.mpr ?_
    rintro ⟨row, chain⟩ member
    have found := (store.rows.mem_entries_iff row chain).mp member
    obtain ⟨stamp, above, below, shown⟩ := compact.shown row chain found
    obtain rfl := Nat.le_antisymm below above
    simpa [documentAt?, found] using shown
  rw [liveRows, store.lock_eq_ok_iff.mpr sound, every]
  rfl

theorem liveRows_reclaim (known : floor ≤ store.authority.current) :
    (store.reclaim floor).1.liveRows = store.liveRows := by
  have rows : (store.reclaim floor).1.rowsAt store.authority.current =
      store.rowsAt store.authority.current :=
    rowsAt_congr fun row => store.documentAt?_reclaim row known
  unfold liveRows
  rw [← rows]
  rfl

end Store

namespace Client

variable {client : Client}

/-- Every version that the books name has a reader. -/
def Counted (client : Client) : Prop := client.store.retention.floor.Counted

theorem Counted.call (counted : client.Counted) (call : ClientCall) :
    (client.call call).1.Counted := by
  unfold Counted at counted ⊢
  cases call with
  | write script =>
      rw [Client.call, (client.store.wrote_write script).kept.1]
      exact counted
  | collect =>
      simp only [Client.call, Client.collect]
      split
      · rename_i collected report collecting
        obtain ⟨_, reclaimed⟩ := (client.store.collect_eq_ok_iff collected report).mp collecting
        obtain rfl : collected = _ := congrArg Prod.fst reclaimed
        exact counted
      · exact counted
  | openSnapshot version =>
      simp only [Client.call, Client.openSnapshot]
      split
      · rename_i snapshot opened opening
        obtain ⟨_, _, acquired⟩ := (client.store.openSnapshot_eq_ok_iff version _ _).mp opening
        obtain rfl : opened = _ := congrArg Prod.snd acquired
        exact counted.pin _
      · exact counted
  | copy place =>
      simp only [Client.call]
      split
      · exact Retention.counted_share counted _
      · exact counted
  | drop place =>
      simp only [Client.call]
      split
      · exact (Retention.keeps_release _ _).counted counted
      · exact counted
  | evaluate place predicate | readRow place row =>
      simp only [Client.call]
      split <;> exact counted
  | unpinned _ | importRows _ _ _ | liveRows | currentVersion => exact counted

theorem counted_after (schema : TableSchema) (calls : List ClientCall) :
    (after schema calls).Counted :=
  after_keeps VisibilityFloor.counted_empty (fun _ call counted => counted.call call) calls

theorem Sound.isPinned_of_pinnedSnapshots (sound : client.Sound)
    (none : client.store.pinnedSnapshots = 0) {snapshot : Snapshot}
    (held : snapshot ∈ client.snapshots) : snapshot.isPinned = false := by
  have empty := sound.backs.accounts.pinnedCount_eq.symm.trans none
  rw [Finset.card_eq_zero, List.toFinset_eq_empty_iff, List.filter_eq_nil_iff] at empty
  exact Bool.eq_false_iff.mpr (empty snapshot held)

/-- A collection goes to the oldest pinned version, or to the current one if that is older. -/
theorem Sound.isLeast_collectionFloor (sound : client.Sound) (counted : client.Counted) :
    IsLeast {version | version = client.store.authority.current ∨
        ∃ snapshot ∈ client.snapshots, snapshot.isPinned = true ∧ snapshot.version = version}
      (client.store.retention.floor.collectionFloor client.store.authority.current) := by
  simp only [← sound.readers_pos_iff]
  exact counted.isLeast_collectionFloor _

/-- Collections are complete, and they account for all that they drop.  Unless a transaction has
panicked, the horizon of a collection is the oldest version that is pinned or current, and not below
the old one.  Every version that is kept is seen by some reader from the horizon to the current
version, no row has two versions up to the horizon or is gone for all these readers, and they see
what they saw before.  The versions there were are those that are kept, those that are reported as
reclaimed and one for each row that is dropped.  Another collection does nothing, and where nothing
is pinned the rows that are kept are the live ones, with one version each. -/
theorem collection_complete (schema : TableSchema) (calls : List ClientCall)
    (calm : ∀ answer ∈ (run calls (new schema)).2, answer.isPanic = false) :
    let client := after schema calls
    let store := client.store
    ∃ floor collected report,
      store.collect = .ok (collected, report) ∧
      IsLeast {version | version = store.authority.current ∨
        ∃ snapshot ∈ client.snapshots, snapshot.isPinned = true ∧ snapshot.version = version}
        floor ∧
      store.horizon ≤ floor ∧ collected.horizon = floor ∧ report.horizon = floor ∧
      collected.Compact floor ∧
      (∀ row version, floor ≤ version →
        collected.documentAt? row version = store.documentAt? row version) ∧
      store.versionCount =
        collected.versionCount + report.reclaimedVersions + report.droppedRows ∧
      collected.collect = .ok (collected, ⟨0, 0, floor⟩) ∧
      (store.pinnedSnapshots = 0 →
        store.liveRows = .ok collected.rows.size ∧ collected.liveRows = .ok collected.rows.size ∧
          ∀ row chain, collected.rows.find? row = some chain → chain.size = 1) := by
  intro client store
  have sound : client.Sound := sound_after schema calls
  have free : store.poisoned = false := (poisoned_after_iff schema calls).mpr calm
  let floor := store.retention.floor.collectionFloor store.authority.current
  have least := sound.isLeast_collectionFloor (counted_after schema calls)
  have known : floor ≤ store.authority.current := least.2 (.inl rfl)
  have above : store.horizon ≤ floor := by
    rcases least.1 with current | ⟨snapshot, held, pinned, version⟩
    · exact Nat.le_trans sound.wellFormed.horizon_le (Nat.le_of_eq current.symm)
    · exact Nat.le_trans (sound.backs.retained snapshot held pinned).1 (Nat.le_of_eq version)
  have raised : (store.reclaim floor).1.horizon = floor := Nat.max_eq_right above
  have compact := sound.wellFormed.compact_reclaim known
  refine ⟨floor, (store.reclaim floor).1, (store.reclaim floor).2,
    (store.collect_eq_ok_iff _ _).mpr ⟨free, rfl⟩, least, above, raised, raised, compact,
    fun row version later => store.documentAt?_reclaim row later,
    store.versionCount_reclaim floor, ?_, ?_⟩
  · have again := store.reclaim_reclaim floor
    rw [raised] at again
    exact (Store.collect_eq_ok_iff _ _ _).mpr ⟨free, again.symm⟩
  · intro none
    have current : floor = store.authority.current := by
      rcases least.1 with current | ⟨snapshot, held, pinned, _⟩
      · exact current
      · rw [sound.isPinned_of_pinnedSnapshots none held] at pinned
        exact absurd pinned Bool.false_ne_true
    have newest : (store.reclaim floor).1.Compact (store.reclaim floor).1.authority.current :=
      current ▸ compact
    have live := newest.liveRows_eq free
    exact ⟨(Store.liveRows_reclaim known).symm.trans live, live,
      fun row chain found => newest.size_eq_one (sound.wellFormed.reclaim known) found⟩

/-- Of two rows one is deleted and the other one replaced, and the snapshot that was opened in
between is dropped. -/
theorem collection_complete_of_deleted :
    let calls : List ClientCall := [.write (Simulation.refill 2),
      .write ⟨[.delete 2], false, none⟩, .openSnapshot none, .drop 0,
      .write ⟨[.update 1 (Simulation.document 7)], false, none⟩]
    let store := (after Simulation.schema calls).store
    store.versionCount = 4 ∧ ∃ collected, store.collect = .ok (collected, ⟨2, 1, 3⟩) ∧
      collected.versionCount = 1 ∧ collected.collect = .ok (collected, ⟨0, 0, 3⟩) ∧
      collected.liveRows = .ok 1 := by
  intro calls store
  have calm : ∀ answer ∈ (run calls (new Simulation.schema)).2, answer.isPanic = false :=
    (poisoned_after_iff _ _).mp rfl
  obtain ⟨floor, collected, report, collecting, -, -, -, horizon, -, -, counted, again, live⟩ :=
    collection_complete Simulation.schema calls calm
  obtain ⟨were, are, -⟩ := live rfl
  have reported : store.collect.map Prod.snd = .ok ⟨2, 1, 3⟩ := rfl
  obtain rfl : report = ⟨2, 1, 3⟩ := by
    rw [collecting] at reported
    exact Except.ok.inj reported
  obtain rfl : 3 = floor := horizon
  have before : store.versionCount = 4 := rfl
  have sum : 4 = collected.versionCount + 2 + 1 := before.symm.trans counted
  have rows : store.liveRows = .ok 1 := rfl
  exact ⟨before, collected, collecting, by omega, again, are.trans (were.symm.trans rows)⟩

/-- After a panic nothing is collected, though a version has been superseded. -/
theorem not_collected_after_panic :
    let calls : List ClientCall := [.write (Simulation.refill 1), .write (Simulation.refill 1),
      .write ⟨[.panic "boom"], false, none⟩]
    let client := after Simulation.schema calls
    client.snapshots = [] ∧ client.store.horizon = 0 ∧ client.store.authority.current = 2 ∧
      client.store.collect = .error .lockPoisoned :=
  ⟨rfl, rfl, rfl, rfl⟩

end Client

end SnapshotQuery
