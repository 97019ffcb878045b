import Mathlib.Data.List.Basic
import Mathlib.Data.List.TakeDrop
import SnapshotQuery.Proofs.Version.Visibility

/-!
# Order of a history

Commits append to a chain in strictly increasing order, and nothing follows a
tombstone.  Appending to a living row keeps this, and so does pruning at a floor,
unless all that is left is a tombstone, and then the row is dropped.
-/

namespace SnapshotQuery.VersionChain

/-- A history that commits up to a version can have left. -/
structure Ordered (chain : VersionChain) (current : VersionStamp) : Prop where
  nonempty : chain.versions ≠ []
  increasing : chain.versions.Pairwise fun older newer => older.committedAt < newer.committedAt
  committed : ∀ version ∈ chain.versions, version.committedAt ≤ current
  first : ∀ version ∈ chain.versions.head?, version.isTombstone = false
  buried : ∀ version ∈ chain.versions.dropLast, version.isTombstone = false

/-- A version may be appended that is not older than the latest one. -/
def Accepts (chain : VersionChain) (version : RowVersion) : Prop :=
  ∀ last ∈ chain.latest?, last.committedAt ≤ version.committedAt

variable {chain : VersionChain} {version : RowVersion} {current floor stamp : VersionStamp}

theorem Ordered.mono (ordered : chain.Ordered current) (later : current ≤ stamp) :
    chain.Ordered stamp :=
  { ordered with
    committed := fun version member => Nat.le_trans (ordered.committed version member) later }

theorem mem_versions_of_latest? (last : chain.latest? = some version) :
    version ∈ chain.versions :=
  List.mem_of_getLast? last

theorem Ordered.accepts (ordered : chain.Ordered current) (later : current ≤ version.committedAt) :
    chain.Accepts version := by
  intro last found
  exact Nat.le_trans (ordered.committed last (mem_versions_of_latest? found)) later

/-- From the current version on, a reader sees the latest version. -/
theorem resolve?_of_committed
    (committed : ∀ version ∈ chain.versions, version.committedAt ≤ stamp) :
    chain.resolve? stamp = chain.latest? := by
  rcases List.eq_nil_or_concat chain.versions with none | ⟨earlier, last, split⟩
  · simp [resolve?, latest?, none]
  · have seen : last.committedAt ≤ stamp := committed last (by simp [split])
    simp [resolve?, latest?, split, seen]

theorem documentAt?_of_committed
    (committed : ∀ version ∈ chain.versions, version.committedAt ≤ current)
    (later : current ≤ stamp) : chain.documentAt? stamp = chain.documentAt? current := by
  have known : ∀ version ∈ chain.versions, version.committedAt ≤ stamp :=
    fun version member => Nat.le_trans (committed version member) later
  simp only [documentAt?, visible?, resolve?_of_committed committed, resolve?_of_committed known]

/-- The latest version of a row that exists is no tombstone. -/
theorem latest?_living (committed : ∀ version ∈ chain.versions, version.committedAt ≤ current)
    (living : (chain.documentAt? current).isSome = true) :
    ∀ last ∈ chain.latest?, last.isTombstone = false := by
  intro last found
  rw [documentAt?, visible?, resolve?_of_committed committed, Option.mem_def.mp found] at living
  cases tombstone : last.isTombstone with
  | false => rfl
  | true => simp [Option.filter, tombstone] at living

theorem ordered_push_empty (living : version.isTombstone = false) :
    (empty.push version).Ordered version.committedAt := by
  constructor <;> simp [push, empty, living]

/-- A version may follow any other one but a tombstone. -/
theorem Ordered.push (ordered : chain.Ordered current) (later : current < version.committedAt)
    (living : ∀ last ∈ chain.latest?, last.isTombstone = false) :
    (chain.push version).Ordered version.committedAt := by
  have older : ∀ earlier ∈ chain.versions, earlier.committedAt < version.committedAt :=
    fun earlier member => Nat.lt_of_le_of_lt (ordered.committed earlier member) later
  refine ⟨by simp [VersionChain.push], ?_, ?_, ?_, ?_⟩
  · apply List.pairwise_append.mpr
    refine ⟨ordered.increasing, List.pairwise_singleton _ _, ?_⟩
    intro earlier member last here
    rw [List.mem_singleton.mp here]
    exact older earlier member
  · intro other member
    rcases List.mem_append.mp member with earlier | last
    · exact Nat.le_of_lt (older other earlier)
    · exact List.mem_singleton.mp last ▸ Nat.le_refl _
  · intro other first
    rw [VersionChain.push, List.head?_append_of_ne_nil _ ordered.nonempty] at first
    exact ordered.first other first
  · intro other member
    rw [VersionChain.push, List.dropLast_concat] at member
    by_cases last : other ∈ chain.versions.dropLast
    · exact ordered.buried other last
    · apply living
      rw [← List.dropLast_append_getLast ordered.nonempty] at member
      rcases List.mem_append.mp member with earlier | final
      · exact absurd earlier last
      · rw [List.mem_singleton.mp final]
        exact List.getLast?_eq_some_getLast ordered.nonempty

/-- What pruning keeps begins where it began, or with a version at or below the floor. -/
theorem head_pruneBelow (chain : VersionChain) (floor : VersionStamp) :
    chain.pruneBelow floor = chain ∨
      ∀ version ∈ (chain.pruneBelow floor).versions.head?, version.committedAt ≤ floor := by
  obtain ⟨versions⟩ := chain
  simp only [pruneBelow]
  induction versions with
  | nil => exact .inl rfl
  | cons oldest rest inductionHypothesis =>
      unfold superseded
      split
      · rename_i newer
        rw [List.drop_succ_cons]
        refine .inr ?_
        rcases inductionHypothesis with whole | below
        · -- Nothing of the rest is pruned, so only its first version can be at or below the floor.
          have kept : rest.drop (superseded floor rest) = rest := congrArg versions whole
          rw [kept]
          cases rest with
          | nil => simp
          | cons second others =>
              intro version first
              obtain rfl : second = version := Option.some.inj first
              by_cases below : second.committedAt ≤ floor
              · exact below
              · have newest : (others.any fun version => version.committedAt ≤ floor) = true := by
                  simpa [below] using newer
                have counted := congrArg List.length kept
                simp [superseded, newest] at counted
                omega
        · exact below
      · exact .inl rfl

theorem superseded_lt (floor : VersionStamp) {versions : List RowVersion}
    (nonempty : versions ≠ []) :
    superseded floor versions < versions.length := by
  induction versions with
  | nil => exact absurd rfl nonempty
  | cons oldest rest inductionHypothesis =>
      unfold superseded
      split
      · rename_i newer
        have further : rest ≠ [] := by
          rintro rfl
          simp at newer
        simpa using inductionHypothesis further
      · simp

/-- Pruning leaves an ordered history, unless the row is dead. -/
theorem Ordered.pruneBelow (ordered : chain.Ordered current)
    (living : (chain.pruneBelow floor).isDeadAt floor = false) :
    (chain.pruneBelow floor).Ordered current := by
  have head := head_pruneBelow chain floor
  have sublist : (chain.pruneBelow floor).versions.Sublist chain.versions := List.drop_sublist _ _
  have buried : ∀ version ∈ (chain.pruneBelow floor).versions.dropLast,
      version.isTombstone = false := by
    intro version member
    rw [VersionChain.pruneBelow, List.dropLast_drop_eq_drop_dropLast] at member
    exact ordered.buried version (List.mem_of_mem_drop member)
  refine ⟨?_, ordered.increasing.sublist sublist, ?_, ?_, buried⟩
  · simpa [VersionChain.pruneBelow] using superseded_lt floor ordered.nonempty
  · exact fun version member => ordered.committed version (sublist.mem member)
  · rcases head with whole | below
    · rw [whole]
      exact ordered.first
    · intro version first
      have seen : version.committedAt ≤ floor := below version first
      rw [isDeadAt] at living
      generalize (chain.pruneBelow floor).versions = versions at first buried living
      cases versions with
      | nil => cases first
      | cons head rest =>
          obtain rfl := Option.some.inj first
          cases rest with
          | nil => simpa [seen] using living
          | cons next others => exact buried head (by simp)

end SnapshotQuery.VersionChain
