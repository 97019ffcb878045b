import SnapshotQuery.Version.Chain

/-!
# What readers of a chain see

A reader does not see versions committed after it, and pruning changes nothing
for readers at or above the floor.
-/

namespace SnapshotQuery.VersionChain

@[simp]
theorem resolve?_push (chain : VersionChain) (version : RowVersion) (stamp : VersionStamp) :
    (chain.push version).resolve? stamp =
      if version.committedAt ≤ stamp then some version else chain.resolve? stamp := by
  by_cases seen : version.committedAt ≤ stamp <;> simp [resolve?, push, seen]

theorem documentAt?_isSome_of_resolve? {chain : VersionChain} {version : RowVersion}
    {stamp : VersionStamp} (resolved : chain.resolve? stamp = some version)
    (living : version.isTombstone = false) : (chain.documentAt? stamp).isSome = true := by
  obtain ⟨payload, committedAt⟩ := version
  cases payload with
  | document document =>
      simp [documentAt?, visible?, resolved, Option.filter, RowVersion.isTombstone,
        RowVersion.document?]
  | tombstone => exact absurd living (by simp [RowVersion.isTombstone])

/-- A later version is not seen. -/
theorem documentAt?_push_of_lt (chain : VersionChain) {version : RowVersion}
    {stamp : VersionStamp} (later : stamp < version.committedAt) :
    (chain.push version).documentAt? stamp = chain.documentAt? stamp := by
  simp [documentAt?, visible?, Nat.not_le.mpr later]

/-- What is dropped from the front is older than a version every reader sees. -/
theorem resolve?_pruneBelow (chain : VersionChain) {floor stamp : VersionStamp}
    (above : floor ≤ stamp) : (chain.pruneBelow floor).resolve? stamp = chain.resolve? stamp := by
  obtain ⟨versions⟩ := chain
  simp only [pruneBelow, resolve?]
  induction versions with
  | nil => rfl
  | cons oldest rest inductionHypothesis =>
      unfold superseded
      split
      · rename_i newer
        obtain ⟨version, member, below⟩ := List.any_eq_true.mp newer
        have found : (rest.reverse.find? fun version => version.committedAt ≤ stamp).isSome := by
          apply List.find?_isSome.mpr
          have seen : version.committedAt ≤ stamp := Nat.le_trans (of_decide_eq_true below) above
          exact ⟨version, List.mem_reverse.mpr member, decide_eq_true seen⟩
        rw [List.drop_succ_cons, inductionHypothesis, List.reverse_cons, List.find?_append,
          Option.or_of_isSome found]
      · rfl

theorem visible?_pruneBelow (chain : VersionChain) {floor stamp : VersionStamp}
    (above : floor ≤ stamp) : (chain.pruneBelow floor).visible? stamp = chain.visible? stamp := by
  rw [visible?, visible?, chain.resolve?_pruneBelow above]

theorem documentAt?_pruneBelow (chain : VersionChain) {floor stamp : VersionStamp}
    (above : floor ≤ stamp) :
    (chain.pruneBelow floor).documentAt? stamp = chain.documentAt? stamp := by
  rw [documentAt?, documentAt?, chain.visible?_pruneBelow above]

/-- A chain that is a tombstone shows nothing to anyone. -/
theorem visible?_of_isDeadAt {chain : VersionChain} {floor : VersionStamp}
    (dead : chain.isDeadAt floor = true) (stamp : VersionStamp) : chain.visible? stamp = none := by
  obtain ⟨versions⟩ := chain
  simp only [isDeadAt] at dead
  split at dead
  · rename_i only
    have buried : only.isTombstone = true := (Bool.and_eq_true_iff.mp dead).1
    by_cases seen : only.committedAt ≤ stamp <;>
      simp [visible?, resolve?, List.find?, seen, buried]
  · exact absurd dead Bool.false_ne_true

theorem documentAt?_of_isDeadAt {chain : VersionChain} {floor : VersionStamp}
    (dead : chain.isDeadAt floor = true) (stamp : VersionStamp) :
    chain.documentAt? stamp = none := by
  rw [documentAt?, visible?_of_isDeadAt dead stamp, Option.bind_none]

end SnapshotQuery.VersionChain
