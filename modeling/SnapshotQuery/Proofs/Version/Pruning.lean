import SnapshotQuery.Proofs.Version.Order

/-!
# What pruning keeps

At most one version at or below the floor is kept, and it is the first.  So
pruning at the same floor again drops nothing, and in a history in order every
version that is kept is seen by some reader from the floor on.

In whatever order the versions of a chain are, pruning takes a front of it away
that no reader from the floor on sees, and leaves the latest version.
-/

namespace SnapshotQuery.VersionChain

/-- At most the first version is at or below the floor. -/
def Trimmed (chain : VersionChain) (floor : VersionStamp) : Prop :=
  ∀ version ∈ chain.versions.tail, floor < version.committedAt

variable {chain : VersionChain} {version : RowVersion} {current floor stamp : VersionStamp}

theorem trimmed_pruneBelow (chain : VersionChain) (floor : VersionStamp) :
    (chain.pruneBelow floor).Trimmed floor := by
  obtain ⟨versions⟩ := chain
  simp only [Trimmed, pruneBelow]
  induction versions with
  | nil => simp [superseded]
  | cons oldest rest inductionHypothesis =>
      unfold superseded
      split
      · rw [List.drop_succ_cons]
        exact inductionHypothesis
      · rename_i newest
        simpa using newest

theorem Trimmed.prunedCount_eq (trimmed : chain.Trimmed floor) : chain.prunedCount floor = 0 := by
  obtain ⟨versions⟩ := chain
  cases versions with
  | nil => rfl
  | cons oldest rest =>
      have newest : (rest.any fun version => version.committedAt ≤ floor) = false := by
        simpa [Trimmed] using trimmed
      simp [prunedCount, superseded, newest]

/-- Nothing is pruned from what was pruned already. -/
theorem Trimmed.pruneBelow_eq (trimmed : chain.Trimmed floor) : chain.pruneBelow floor = chain := by
  have none : superseded floor chain.versions = 0 := trimmed.prunedCount_eq
  rw [pruneBelow, none, List.drop_zero]

theorem Trimmed.countP_le_one (trimmed : chain.Trimmed floor) :
    chain.versions.countP (fun version => version.committedAt ≤ floor) ≤ 1 := by
  obtain ⟨versions⟩ := chain
  cases versions with
  | nil => simp
  | cons oldest rest =>
      have above : rest.countP (fun version => version.committedAt ≤ floor) = 0 := by
        rw [List.countP_eq_zero]
        intro version member
        simpa using trimmed version member
      rw [List.countP_cons, above]
      split <;> simp

/-- A reader sees the version that is committed for it when all newer ones are later. -/
theorem resolve?_of_mem
    (increasing : chain.versions.Pairwise fun older newer => older.committedAt < newer.committedAt)
    (member : version ∈ chain.versions) (seen : version.committedAt ≤ stamp)
    (newer : ∀ other ∈ chain.versions, version.committedAt < other.committedAt →
      stamp < other.committedAt) : chain.resolve? stamp = some version := by
  obtain ⟨earlier, later, split⟩ := List.append_of_mem member
  rw [split] at increasing newer
  obtain ⟨-, fromHere, -⟩ := List.pairwise_append.mp increasing
  have unseen : later.reverse.find? (fun other => other.committedAt ≤ stamp) = none := by
    rw [List.find?_eq_none]
    intro other among
    have after : other ∈ later := List.mem_reverse.mp among
    have follows := (List.pairwise_cons.mp fromHere).1 other after
    have beyond := newer other (by simp [after]) follows
    simpa using beyond
  simp [resolve?, split, unseen, seen]

/-- Each version of a trimmed history is what a reader from the floor on sees. -/
theorem Ordered.exists_resolve? (ordered : chain.Ordered current) (trimmed : chain.Trimmed floor)
    (known : floor ≤ current) (member : version ∈ chain.versions) :
    ∃ stamp, floor ≤ stamp ∧ stamp ≤ current ∧ chain.resolve? stamp = some version := by
  refine ⟨max floor version.committedAt, Nat.le_max_left _ _,
    Nat.max_le.mpr ⟨known, ordered.committed version member⟩,
    resolve?_of_mem ordered.increasing member (Nat.le_max_right _ _) ?_⟩
  intro other among newer
  refine Nat.max_lt.mpr ⟨trimmed other ?_, newer⟩
  have increasing := ordered.increasing
  -- The first version is the oldest, so one that is newer than another comes after it.
  rcases whole : chain.versions with _ | ⟨oldest, rest⟩
  · simp [whole] at among
  · rw [whole] at among member increasing
    rcases List.mem_cons.mp among with rfl | later
    · rcases List.mem_cons.mp member with rfl | after
      · exact absurd newer (Nat.lt_irrefl _)
      · have older := (List.pairwise_cons.mp increasing).1 version after
        exact absurd newer (Nat.lt_asymm older)
    · exact later

/-- A row with a trimmed history exists for some reader from the floor on. -/
theorem Ordered.exists_documentAt? (ordered : chain.Ordered current)
    (trimmed : chain.Trimmed floor) (known : floor ≤ current) :
    ∃ stamp, floor ≤ stamp ∧ stamp ≤ current ∧ (chain.documentAt? stamp).isSome = true := by
  obtain ⟨stamp, above, below, resolved⟩ :=
    ordered.exists_resolve? trimmed known (List.head_mem ordered.nonempty)
  have living := ordered.first _ (List.head?_eq_some_head ordered.nonempty)
  exact ⟨stamp, above, below, documentAt?_isSome_of_resolve? resolved living⟩

/-- A row is dropped with the one version that is left of it. -/
theorem size_of_isDeadAt (dead : chain.isDeadAt floor = true) : chain.size = 1 := by
  obtain ⟨versions⟩ := chain
  simp only [isDeadAt] at dead
  split at dead
  · rfl
  · exact absurd dead Bool.false_ne_true

theorem latest?_pruneBelow (chain : VersionChain) (floor : VersionStamp) :
    (chain.pruneBelow floor).latest? = chain.latest? := by
  by_cases none : chain.versions = []
  · simp [pruneBelow, latest?, none]
  · have some : superseded floor chain.versions < chain.versions.length := superseded_lt floor none
    rw [latest?, pruneBelow, List.getLast?_drop, if_neg (Nat.not_le.mpr some), latest?]

/-- What is dropped at a floor is dropped at a higher one too. -/
theorem pruneBelow_pruneBelow (chain : VersionChain) {floor higher : VersionStamp}
    (above : floor ≤ higher) :
    (chain.pruneBelow floor).pruneBelow higher = chain.pruneBelow higher := by
  obtain ⟨versions⟩ := chain
  simp only [pruneBelow, mk.injEq]
  induction versions with
  | nil => rfl
  | cons oldest rest inductionHypothesis =>
      by_cases newer : (rest.any fun version => version.committedAt ≤ floor) = true
      · obtain ⟨version, member, below⟩ := List.any_eq_true.mp newer
        have seen : version.committedAt ≤ higher := Nat.le_trans (of_decide_eq_true below) above
        -- The oldest version is dropped at both floors, and the rest is as the induction says.
        have newerThere : (rest.any fun version => version.committedAt ≤ higher) = true :=
          List.any_eq_true.mpr ⟨version, member, decide_eq_true seen⟩
        simpa only [superseded, if_pos newer, if_pos newerThere, List.drop_succ_cons] using
          inductionHypothesis
      · have kept : superseded floor (oldest :: rest) = 0 := if_neg newer
        rw [kept, List.drop_zero]

/-- Of a trimmed chain that ends at or below the floor one version is left. -/
theorem Trimmed.isDeadAt_iff (trimmed : chain.Trimmed floor) :
    chain.isDeadAt floor = true ↔
      ∃ last ∈ chain.latest?, last.isTombstone = true ∧ last.committedAt ≤ floor := by
  obtain ⟨versions⟩ := chain
  cases versions with
  | nil => simp [isDeadAt, latest?]
  | cons oldest rest =>
      cases rest with
      | nil => simp [isDeadAt, latest?]
      | cons next others =>
          constructor
          · intro dead
            exact absurd dead Bool.false_ne_true
          · rintro ⟨last, final, -, below⟩
            have later : last ∈ next :: others := by
              rw [latest?, List.getLast?_cons_cons] at final
              exact List.mem_of_getLast? final
            exact absurd below (Nat.not_le.mpr (trimmed last later))

/-- Pruning drops versions from the front of a chain and never the latest one, nobody from the
floor on sees a difference, and a row is dead after it exactly if it ends with a tombstone at or
below the floor. -/
theorem pruning_unnoticed (chain : VersionChain) (floor : VersionStamp) :
    (∀ stamp, floor ≤ stamp →
      (chain.pruneBelow floor).visible? stamp = chain.visible? stamp) ∧
    (∃ dropped, chain.versions = dropped ++ (chain.pruneBelow floor).versions ∧
      dropped.length = chain.prunedCount floor) ∧
    (chain.pruneBelow floor).latest? = chain.latest? ∧
    (chain.pruneBelow floor).pruneBelow floor = chain.pruneBelow floor ∧
    (chain.pruneBelow floor).prunedCount floor = 0 ∧
    (∀ higher, floor ≤ higher →
      (chain.pruneBelow floor).pruneBelow higher = chain.pruneBelow higher) ∧
    ((chain.pruneBelow floor).isDeadAt floor = true ↔
      ∃ last ∈ chain.latest?, last.isTombstone = true ∧ last.committedAt ≤ floor) ∧
    ((chain.pruneBelow floor).isDeadAt floor = true →
      ∀ stamp, floor ≤ stamp → chain.visible? stamp = none) := by
  have trimmed : (chain.pruneBelow floor).Trimmed floor := chain.trimmed_pruneBelow floor
  have latest := chain.latest?_pruneBelow floor
  refine ⟨fun stamp above => chain.visible?_pruneBelow above, ?_, latest, trimmed.pruneBelow_eq,
    trimmed.prunedCount_eq, fun higher above => chain.pruneBelow_pruneBelow above, ?_, ?_⟩
  · refine ⟨chain.versions.take (chain.prunedCount floor), ?_, ?_⟩
    · exact (List.take_append_drop (chain.prunedCount floor) chain.versions).symm
    · exact List.length_take_of_le (superseded_le floor chain.versions)
  · rw [trimmed.isDeadAt_iff, latest]
  · intro dead stamp above
    rw [← chain.visible?_pruneBelow above]
    exact visible?_of_isDeadAt dead stamp

/-- A deleted row whose versions are out of order, two of them with one stamp. -/
theorem pruning_unnoticed_of_deleted :
    let chain : VersionChain := ⟨[⟨.document (.nat 1), 5⟩, ⟨.document (.nat 2), 3⟩,
      ⟨.document (.nat 3), 3⟩, ⟨.tombstone, 2⟩]⟩
    chain.prunedCount 3 = 3 ∧ (chain.pruneBelow 3).visible? 5 = chain.visible? 5 ∧
      (chain.pruneBelow 3).pruneBelow 4 = chain.pruneBelow 4 ∧
      (chain.pruneBelow 3).isDeadAt 3 = true ∧ chain.visible? 4 = none := by
  intro chain
  obtain ⟨same, -, -, -, -, higher, deadIff, unseen⟩ := pruning_unnoticed chain 3
  have dead : (chain.pruneBelow 3).isDeadAt 3 = true :=
    deadIff.mpr ⟨⟨.tombstone, 2⟩, rfl, rfl, by decide⟩
  exact ⟨rfl, same 5 (by decide), higher 4 (by decide), dead, unseen dead 4 (by decide)⟩

end SnapshotQuery.VersionChain
