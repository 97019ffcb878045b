import SnapshotQuery.Proofs.Store.Atomicity
import SnapshotQuery.Proofs.Store.Descent
import SnapshotQuery.Proofs.Store.RowIds
import SnapshotQuery.Proofs.Store.Thinning

/-!
# Rows brought over to later versions

A row that is deleted never comes back.  So what exists of some rows at a later
version can be found from what existed of them at any version in between.
-/

namespace SnapshotQuery

namespace Store

variable {store : Store} {rows : RowSet} {source target first middle last : VersionStamp}

/-- Every row of the set exists at the version of the set. -/
def Living (store : Store) (rows : RowSet) : Prop :=
  ∀ row ∈ rows.rows, (store.documentAt? row rows.version).isSome = true

instance (store : Store) (rows : RowSet) : Decidable (store.Living rows) :=
  inferInstanceAs (Decidable (∀ row ∈ rows.rows, _ = true))

/-- The rows of a set that exist at a version, in the order of the set. -/
def survivors (store : Store) (rows : RowSet) (version : VersionStamp) : RowSet :=
  ⟨version, rows.rows.filter fun row => (store.documentAt? row version).isSome⟩

theorem survivors_self (living : store.Living rows) : store.survivors rows rows.version = rows := by
  have whole : (rows.rows.filter fun row => (store.documentAt? row rows.version).isSome) =
      rows.rows := List.filter_eq_self.mpr living
  rw [survivors, whole]

/-- A row that exists at two versions exists at those in between. -/
theorem WellFormed.living_between (wellFormed : store.WellFormed) {row : RowId}
    (begun : (store.documentAt? row first).isSome = true)
    (living : (store.documentAt? row last).isSome = true)
    (after : first ≤ middle) (before : middle ≤ last) :
    (store.documentAt? row middle).isSome = true := by
  simp only [documentAt?] at begun living ⊢
  cases held : store.rows.find? row with
  | none => simp [held] at living
  | some chain =>
      rw [held, Option.bind_some] at begun living
      obtain ⟨entry, among, early⟩ := VersionChain.exists_entry_of_documentAt? begun
      rw [Option.bind_some]
      exact (wellFormed.ordered row chain held).documentAt?_isSome living among
        (Nat.le_trans early after) before

/-- What exists of rows later is what exists then of those that existed in between. -/
theorem WellFormed.survivors_survivors (wellFormed : store.WellFormed)
    (living : store.Living rows) (after : rows.version ≤ middle) (before : middle ≤ last) :
    store.survivors (store.survivors rows middle) last = store.survivors rows last := by
  have same : ∀ row ∈ rows.rows, ((store.documentAt? row last).isSome &&
      (store.documentAt? row middle).isSome) = (store.documentAt? row last).isSome := by
    intro row member
    cases later : (store.documentAt? row last).isSome with
    | false => rfl
    | true => simp [wellFormed.living_between (living row member) later after before]
  simp only [survivors, List.filter_filter, List.filter_congr same]

theorem WellFormed.size_survivors_le (wellFormed : store.WellFormed)
    (living : store.Living rows) (after : rows.version ≤ middle) (before : middle ≤ last) :
    (store.survivors rows last).size ≤ (store.survivors rows middle).size := by
  rw [← wellFormed.survivors_survivors living after before]
  exact List.length_filter_le _ _

theorem checkRetained_of_outside (outside : ¬ store.Retained middle) :
    store.checkRetained middle =
      .error (.snapshotUnavailable middle store.horizon store.authority.current) := by
  have refused : middle < store.horizon ∨ store.authority.current < middle := by
    simpa only [Retained, not_and_or, Nat.not_le] using outside
  simp only [checkRetained, if_pos refused]

theorem importRows_of_sound (sound : store.poisoned = false) (above : store.horizon ≤ rows.version)
    (forward : rows.version ≤ target) (known : target ≤ store.authority.current) :
    store.importRows rows rows.version target = .ok (store.survivors rows target) := by
  rw [importRows_of_retained forward ⟨above, Nat.le_trans forward known⟩
    ⟨Nat.le_trans above forward, known⟩, sound]
  rfl

/-- Rows that fit their tags are brought over if both versions can be read. -/
theorem importRows_of_fit (sound : store.poisoned = false) (tagged : rows.version = source)
    (forward : source ≤ target) :
    store.horizon ≤ source ∧ target ≤ store.authority.current ∧
        store.importRows rows source target = .ok (store.survivors rows target) ∨
      (source < store.horizon ∨ store.authority.current < target) ∧
        ∃ requested ∈ [source, target], store.importRows rows source target =
          .error (.snapshotUnavailable requested store.horizon store.authority.current) := by
  have fits : ¬(rows.version ≠ source ∨ target < source) := by
    rw [not_or, not_ne_iff]
    exact ⟨tagged, Nat.not_lt.mpr forward⟩
  have free := store.lock_eq_ok_iff.mpr sound
  by_cases first : store.Retained source
  · by_cases last : store.Retained target
    · subst tagged
      exact .inl ⟨first.1, last.2, importRows_of_sound sound first.1 forward last.2⟩
    · have beyond : store.authority.current < target := by
        by_contra known
        exact last ⟨Nat.le_trans first.1 forward, Nat.le_of_not_lt known⟩
      refine .inr ⟨.inr beyond, target, by simp, ?_⟩
      simp only [importRows, if_neg fits, free, (store.checkRetained_eq_ok_iff _).mpr first,
        checkRetained_of_outside last]
      rfl
  · have outside : source < store.horizon ∨ store.authority.current < target := by
      by_contra inside
      obtain ⟨above, below⟩ := not_or.mp inside
      exact first ⟨Nat.le_of_not_lt above, Nat.le_trans forward (Nat.le_of_not_lt below)⟩
    refine .inr ⟨outside, source, by simp, ?_⟩
    simp only [importRows, if_neg fits, free, checkRetained_of_outside first]
    rfl

/-- Only the tags of the rows make an import divergent. -/
theorem importRows_divergent_iff (store : Store) (rows : RowSet) (source target : VersionStamp) :
    (∃ left right, store.importRows rows source target = .error (.divergentHistory left right)) ↔
      rows.version ≠ source ∨ target < source := by
  constructor
  · rintro ⟨left, right, refused⟩
    by_contra fits
    rw [not_or, not_ne_iff] at fits
    obtain ⟨tagged, backward⟩ := fits
    have forward := Nat.le_of_not_lt backward
    cases poisoned : store.poisoned with
    | true =>
        rw [importRows_of_poisoned poisoned tagged forward] at refused
        cases refused
    | false =>
        rcases importRows_of_fit poisoned tagged forward with
          ⟨-, -, done⟩ | ⟨-, requested, -, done⟩
        · rw [done] at refused
          cases refused
        · rw [done] at refused
          cases refused
  · intro unfit
    exact ⟨source, target, by simp only [importRows, if_pos unfit]⟩

theorem importRows_unavailable_iff (sound : store.poisoned = false)
    (tagged : rows.version = source) (forward : source ≤ target) :
    (∃ requested ∈ [source, target], store.importRows rows source target =
        .error (.snapshotUnavailable requested store.horizon store.authority.current)) ↔
      source < store.horizon ∨ store.authority.current < target := by
  rcases importRows_of_fit sound tagged forward with ⟨above, below, done⟩ | ⟨outside, refused⟩
  · rw [done]
    simp [Nat.not_lt.mpr above, Nat.not_lt.mpr below]
  · exact iff_of_true refused outside

/-- The rows of a result exist at their version for as long as it can be read. -/
theorem Descends.living {later : Store} (descends : store.Descends later) {snapshot : Snapshot}
    {predicate : Predicate} (evaluated : store.evaluate snapshot predicate = .ok rows)
    (kept : later.horizon ≤ rows.version) : later.Retained rows.version ∧ later.Living rows := by
  obtain ⟨_, _, retained, rfl⟩ := (store.evaluate_eq_ok_iff snapshot predicate rows).mp evaluated
  have complete := (store.complete_rowsMatching predicate retained.2).descends descends
  exact ⟨⟨kept, complete.known⟩, complete.documents kept⟩

end Store

namespace Client

variable {client : Client}

theorem descends_call (client : Client) (call : ClientCall) :
    client.store.Descends (client.call call).1.store := by
  have called := client.called_call call
  generalize made : client.call call = result at called ⊢
  obtain ⟨next, answer⟩ := result
  cases called with
  | @wrote script store report _ =>
      have same : (client.store.write script).1 = store :=
        congrArg (fun made => made.1.store) made
      exact same ▸ .wrote .start script
  | collected collecting => exact .collected .start collecting
  | pinned _ _ => exact .held .start _

theorem descends_run (calls : List ClientCall) (client : Client) :
    client.store.Descends (run calls client).1.store := by
  induction calls generalizing client with
  | nil => exact .start
  | cons call rest inductionHypothesis =>
      exact (client.descends_call call).trans (inductionHypothesis _)

theorem descends_after (schema : TableSchema) (earlier later : List ClientCall) :
    (after schema earlier).store.Descends (after schema (earlier ++ later)).store := by
  rw [after, after, run_append]
  exact descends_run later _

/-- Bringing rows over composes.  The rows of a result exist at their version, whenever they were
found, as long as that version can be read.  Unless a transaction has panicked, an import of rows
that exist at their version keeps exactly those that exist at the target, an import to the same
version keeps them all, going through a version in between makes no difference, and fewer rows are
left the later the target is.  An import is divergent exactly if the rows have another tag or the
target is the older version, and of the others exactly those are refused that reach below the
horizon or beyond the current version. -/
theorem imports_compose (schema : TableSchema) (calls : List ClientCall) :
    let store := (after schema calls).store
    let calm := ∀ answer ∈ (run calls (new schema)).2, answer.isPanic = false
    (∀ earlier later snapshot predicate rows, calls = earlier ++ later →
        (after schema earlier).store.evaluate snapshot predicate = .ok rows →
        store.horizon ≤ rows.version →
        rows.version ≤ store.authority.current ∧ store.Living rows) ∧
      (calm → ∀ (rows : RowSet) (middle last : VersionStamp), store.Living rows →
        store.horizon ≤ rows.version → rows.version ≤ middle → middle ≤ last →
        last ≤ store.authority.current →
          store.importRows rows rows.version last = .ok (store.survivors rows last) ∧
          store.importRows rows rows.version rows.version = .ok rows ∧
          (∃ between, store.importRows rows rows.version middle = .ok between ∧
            store.importRows between middle last = .ok (store.survivors rows last) ∧
            (store.survivors rows last).size ≤ between.size ∧ between.size ≤ rows.size)) ∧
      ∀ (rows : RowSet) (source target : VersionStamp),
        ((∃ left right,
            store.importRows rows source target = .error (.divergentHistory left right)) ↔
          rows.version ≠ source ∨ target < source) ∧
        (calm → rows.version = source → source ≤ target →
          ((∃ requested ∈ [source, target], store.importRows rows source target =
              .error (.snapshotUnavailable requested store.horizon store.authority.current)) ↔
            source < store.horizon ∨ store.authority.current < target)) := by
  intro store calm
  have wellFormed : store.WellFormed := (sound_after schema calls).wellFormed
  have free : calm → store.poisoned = false := (poisoned_after_iff schema calls).mpr
  refine ⟨?_, ?_, ?_⟩
  · rintro earlier later snapshot predicate rows rfl evaluated kept
    obtain ⟨retained, living⟩ := (descends_after schema earlier later).living evaluated kept
    exact ⟨retained.2, living⟩
  · intro quiet rows middle last living above after before known
    have sound := free quiet
    have imported : ∀ target, rows.version ≤ target → target ≤ store.authority.current →
        store.importRows rows rows.version target = .ok (store.survivors rows target) :=
      fun target forward below => Store.importRows_of_sound sound above forward below
    refine ⟨imported last (Nat.le_trans after before) known, ?_, store.survivors rows middle,
      imported middle after (Nat.le_trans before known), ?_,
      wellFormed.size_survivors_le living after before, List.length_filter_le _ _⟩
    · have here := imported rows.version (Nat.le_refl _)
        (Nat.le_trans after (Nat.le_trans before known))
      rwa [Store.survivors_self living] at here
    · have onward : store.importRows (store.survivors rows middle) middle last =
          .ok (store.survivors (store.survivors rows middle) last) :=
        Store.importRows_of_sound sound (Nat.le_trans above after) before known
      rwa [wellFormed.survivors_survivors living after before] at onward
  · intro rows source target
    exact ⟨store.importRows_divergent_iff rows source target, fun quiet tagged forward =>
      Store.importRows_unavailable_iff (free quiet) tagged forward⟩

/-- Of three rows one is deleted first, and then the others with all rows there are; a snapshot
keeps all versions readable. -/
theorem imports_compose_of_deleted :
    let calls : List ClientCall := [.write (Simulation.refill 3), .openSnapshot none,
      .write ⟨[.delete 2], false, none⟩, .write ⟨[.clear], false, none⟩, .collect]
    let store := (after Simulation.schema calls).store
    let rows : RowSet := ⟨1, [1, 2, 3]⟩
    store.Living rows ∧ store.importRows rows 1 2 = .ok ⟨2, [1, 3]⟩ ∧
      store.importRows ⟨2, [1, 3]⟩ 2 3 = .ok ⟨3, []⟩ ∧ store.importRows rows 1 3 = .ok ⟨3, []⟩ := by
  intro calls store rows
  have calm : ∀ answer ∈ (run calls (new Simulation.schema)).2, answer.isPanic = false :=
    (poisoned_after_iff _ _).mp rfl
  have living : store.Living rows := by decide
  have gone : store.survivors rows 3 = ⟨3, []⟩ := rfl
  obtain ⟨_, composes, _⟩ := imports_compose Simulation.schema calls
  obtain ⟨whole, _, between, first, onward, _⟩ := composes calm rows 2 3 living
    (by decide) (by decide) (by decide) (by decide)
  have left : store.importRows rows 1 2 = .ok ⟨2, [1, 3]⟩ := rfl
  obtain rfl : between = ⟨2, [1, 3]⟩ := Except.ok.inj (first.symm.trans left)
  exact ⟨living, left, gone ▸ onward, gone ▸ whole⟩

/-- After a panic not even rows of the current version can be brought over to it. -/
theorem not_imported_after_panic :
    let calls : List ClientCall := [.write (Simulation.refill 1), .openSnapshot none,
      .write ⟨[.panic "boom"], false, none⟩]
    let store := (after Simulation.schema calls).store
    let rows : RowSet := ⟨1, [1]⟩
    store.horizon ≤ 1 ∧ store.authority.current = 1 ∧ store.Living rows ∧
      store.importRows rows 1 1 = .error .lockPoisoned := by
  intro calls store rows
  have living : store.Living rows := by decide
  exact ⟨Nat.zero_le 1, rfl, living, rfl⟩

end Client

end SnapshotQuery
