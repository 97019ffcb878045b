import SnapshotQuery.Proofs.Retention.Census
import SnapshotQuery.Proofs.Store.Client
import SnapshotQuery.Proofs.Store.Refusals
import SnapshotQuery.Simulation

/-!
# Transactions that come to nothing

A transaction that fails, or stages nothing, leaves no trace: the calls around it
have the answers they have without it.  After a panic the store stands still:
whatever needs the lock is refused, and only the pins of snapshots still move.
-/

namespace SnapshotQuery

/-- What the calls of a transaction have staged, and how it ends. -/
def Script.outcome (script : Script) (store : Store) :
    OrderedMap RowId (Option Value) × Ending :=
  match Transaction.run script.keepGoing script.calls (Transaction.start store), script.abort with
  | (transaction, _, .finished), some error => (transaction.staged, .failed error)
  | (transaction, _, ending), _ => (transaction.staged, ending)

/-- The transaction gives up, or has nothing to commit. -/
inductive Script.Withdraws (script : Script) (store : Store) : Prop
  | failed {error} (ended : (script.outcome store).2 = .failed error)
  | unchanged (ended : (script.outcome store).2 = .finished)
      (nothing : (script.outcome store).1.isEmpty = true)

namespace Store

variable {store after : Store} {script : Script} {report : WriteReport}

/-- A transaction that is withdrawn leaves the store as it was. -/
theorem Wrote.withdrawn (wrote : store.Wrote script after report)
    (withdraws : script.Withdraws store) : after = store := by
  cases wrote with
  | refused _ => rfl
  | failed _ _ => rfl
  | aborted _ _ _ => rfl
  | unchanged _ _ _ _ => rfl
  | panicked _ ran =>
      cases withdraws with
      | failed ended => simp [Script.outcome, ran] at ended
      | unchanged ended _ => simp [Script.outcome, ran] at ended
  | committed _ ran given something =>
      cases withdraws with
      | failed ended => simp [Script.outcome, ran, given] at ended
      | unchanged _ nothing => simp [Script.outcome, ran, given, something] at nothing

/-- A transaction that panics only poisons the lock. -/
theorem Wrote.halted (wrote : store.Wrote script after report) {message : String}
    (panics : (script.outcome store).2 = .panicked message) :
    after = { store with poisoned := true } := by
  cases wrote with
  | refused poisoned => rw [← poisoned]
  | panicked _ _ => rfl
  | failed _ ran => simp [Script.outcome, ran] at panics
  | aborted _ ran given => simp [Script.outcome, ran, given] at panics
  | unchanged _ ran given _ => simp [Script.outcome, ran, given] at panics
  | committed _ ran given _ => simp [Script.outcome, ran, given] at panics

section Poisoned

variable (poisoned : store.poisoned = true)

include poisoned

theorem lock_of_poisoned : store.lock = .error .lockPoisoned := by
  rw [lock_eq, if_pos poisoned]

theorem write_of_poisoned (script : Script) :
    store.write script = (store, ⟨[], .failed .lockPoisoned⟩) := by
  simp only [write, lock_of_poisoned poisoned]

theorem collect_of_poisoned : store.collect = .error .lockPoisoned := by
  simp only [collect, lock_of_poisoned poisoned]
  rfl

theorem liveRows_of_poisoned : store.liveRows = .error .lockPoisoned := by
  simp only [liveRows, lock_of_poisoned poisoned]
  rfl

theorem openSnapshot_of_poisoned (version : Option VersionStamp) :
    store.openSnapshot version = .error .lockPoisoned := by
  simp only [openSnapshot, lock_of_poisoned poisoned]
  rfl

theorem evaluate_of_poisoned (snapshot : Snapshot) {predicate : Predicate}
    (valid : predicate.check store.schema = .ok ()) :
    store.evaluate snapshot predicate = .error .lockPoisoned := by
  simp only [evaluate, valid, lock_of_poisoned poisoned]
  rfl

theorem importRows_of_poisoned {set : RowSet} {source target : VersionStamp}
    (tagged : set.version = source) (forward : source ≤ target) :
    store.importRows set source target = .error .lockPoisoned := by
  have fits : ¬(set.version ≠ source ∨ target < source) := by
    rw [not_or, not_ne_iff]
    exact ⟨tagged, Nat.not_lt.mpr forward⟩
  simp only [importRows, if_neg fits, lock_of_poisoned poisoned]
  rfl

theorem readRow_of_poisoned (snapshot : Snapshot) (row : RowId) :
    store.readRow snapshot row = .error .lockPoisoned := by
  simp only [readRow, lock_of_poisoned poisoned]
  rfl

end Poisoned

end Store

namespace Client

variable {client : Client} {store : Store}

/-- The pins are those of the snapshots that are kept. -/
theorem Sound.pinnedSnapshots_eq (sound : client.Sound) :
    client.store.pinnedSnapshots = Retention.families client.snapshots :=
  sound.backs.accounts.pinnedCount_eq_families

/-- A client of a store that stands still since a panic: it is refused whatever needs the lock,
and can drop the snapshots it has. -/
structure Halted (store : Store) (client : Client) : Prop where
  /-- Nothing but the pins differs from the store at the panic. -/
  unchanged : client.store =
    { store with retention := client.store.retention, poisoned := true }
  pinned : client.store.pinnedSnapshots = Retention.families client.snapshots
  current : client.call .currentVersion = (client, .version store.currentVersion)
  dropped : ∀ place snapshot, client.snapshots[place]? = some snapshot →
    (client.call (.drop place)).1.snapshots =
        client.snapshots.set place (.unpinned snapshot.version) ∧
      (client.call (.drop place)).2 = .done
  write : ∀ script,
    client.call (.write script) = (client, .wrote ⟨[], .failed .lockPoisoned⟩)
  collect : client.call .collect = (client, .collected (.error .lockPoisoned))
  liveRows : client.call .liveRows = (client, .count (.error .lockPoisoned))
  openSnapshot : ∀ version,
    (client.call (.openSnapshot version)).2 = .opened (.error .lockPoisoned)
  evaluate : ∀ place snapshot predicate, client.snapshots[place]? = some snapshot →
    predicate.check store.schema = .ok () →
      client.call (.evaluate place predicate) = (client, .rows (.error .lockPoisoned))
  importRows : ∀ (rows : RowSet) target, rows.version ≤ target →
    client.call (.importRows rows rows.version target) =
      (client, .rows (.error .lockPoisoned))
  readRow : ∀ place snapshot row, client.snapshots[place]? = some snapshot →
    client.call (.readRow place row) = (client, .document (.error .lockPoisoned))

theorem halted_of_unchanged (sound : client.Sound) (unchanged : client.store =
    { store with retention := client.store.retention, poisoned := true }) :
    client.Halted store := by
  have poisoned : client.store.poisoned = true := by rw [unchanged]
  have schema : client.store.schema = store.schema := by rw [unchanged]
  have published : client.store.currentVersion = store.currentVersion := by
    rw [Store.currentVersion, unchanged]
    rfl
  refine ⟨unchanged, sound.pinnedSnapshots_eq, ?_, ?_, ?_, ?_, ?_, ?_, ?_, ?_, ?_⟩
  · simp only [Client.call, published]
  · intro place snapshot here
    simp [Client.call, here, Client.drop]
  · intro script
    simp only [Client.call, Store.write_of_poisoned poisoned]
  · simp only [Client.call, Client.collect, Store.collect_of_poisoned poisoned]
  · simp only [Client.call, Store.liveRows_of_poisoned poisoned]
  · intro version
    simp only [Client.call, Client.openSnapshot, Store.openSnapshot_of_poisoned poisoned]
  · intro place snapshot predicate here valid
    simp only [Client.call, here, Store.evaluate_of_poisoned poisoned snapshot (schema ▸ valid)]
  · intro rows target forward
    simp only [Client.call, Store.importRows_of_poisoned poisoned rfl forward]
  · intro place snapshot row here
    simp only [Client.call, here, Store.readRow_of_poisoned poisoned]

/-- Calls change nothing but the pins of a poisoned store. -/
theorem unchanged_call (unchanged : client.store =
    { store with retention := client.store.retention, poisoned := true }) (call : ClientCall) :
    (client.call call).1.store =
      { store with retention := (client.call call).1.store.retention, poisoned := true } := by
  have poisoned : client.store.poisoned = true := by rw [unchanged]
  have called := client.called_call call
  generalize client.call call = made at called ⊢
  obtain ⟨next, answer⟩ := made
  cases called with
  | @wrote script after report wrote =>
      have same := client.store.write_of_poisoned poisoned script
      cases wrote with
      | refused _ => exact unchanged
      | panicked sound _ | failed sound _ | aborted sound _ _ | unchanged sound _ _ _
      | committed sound _ _ _ => exact absurd (poisoned.symm.trans sound) nofun
  | collected collecting =>
      obtain ⟨sound, _⟩ := (client.store.collect_eq_ok_iff _ _).mp collecting
      exact absurd (poisoned.symm.trans sound) nofun
  | pinned _ _ =>
      simp only
      rw [unchanged]

theorem halted_run (calls : List ClientCall) (sound : client.Sound) (unchanged : client.store =
    { store with retention := client.store.retention, poisoned := true }) :
    (run calls client).1.Halted store := by
  induction calls generalizing client with
  | nil => exact halted_of_unchanged sound unchanged
  | cons call rest inductionHypothesis =>
      exact inductionHypothesis (sound.call call) (unchanged_call unchanged call)

/-- Transactions are atomic.  One that is withdrawn can be left out of a run: the client ends as
without it, and all other calls have the answers they have without it.  One that panics changes
nothing but the lock, and from then on no call changes or shows anything of the rows. -/
theorem transactions_atomic (schema : TableSchema) (earlier later : List ClientCall)
    (script : Script) :
    let before := after schema earlier
    let written := run (earlier ++ .write script :: later) (new schema)
    (script.Withdraws before.store →
      ∃ answers, written.2 = (run earlier (new schema)).2 ++
          .wrote (before.store.write script).2 :: answers ∧
        run (earlier ++ later) (new schema) =
          (written.1, (run earlier (new schema)).2 ++ answers)) ∧
      ∀ message, (script.outcome before.store).2 = .panicked message →
        (before.call (.write script)).1 =
            { before with store := { before.store with poisoned := true } } ∧
          written.1.Halted before.store := by
  intro before written
  have wrote := before.store.wrote_write script
  have split : written = ((run later (before.call (.write script)).1).1,
      (run earlier (new schema)).2 ++ .wrote (before.store.write script).2 ::
        (run later (before.call (.write script)).1).2) :=
    run_append earlier (.write script :: later) (new schema)
  refine ⟨?_, ?_⟩
  · intro withdraws
    have same : (before.call (.write script)).1 = before := by
      simp only [Client.call, wrote.withdrawn withdraws]
    rw [same] at split
    refine ⟨(run later before).2, ?_, ?_⟩
    · rw [split]
    · rw [split]
      exact run_append earlier later (new schema)
  · intro message panics
    have halted : (before.call (.write script)).1 =
        { before with store := { before.store with poisoned := true } } := by
      simp only [Client.call, wrote.halted panics]
    refine ⟨halted, ?_⟩
    have sound : (before.call (.write script)).1.Sound := (sound_after schema earlier).call _
    rw [split]
    apply halted_run later sound
    rw [halted]

/-- A refill that is given up is left out of a run, and one that panics halts the store. -/
theorem transactions_atomic_of_refills :
    let filled : List ClientCall := [.write (Simulation.refill 1), .openSnapshot none]
    let further : List ClientCall := [.write (Simulation.refill 2), .liveRows, .drop 0]
    let abandoned : Script :=
      { Simulation.refill 2 with abort := some (.internal "given up") }
    let broken : Script := ⟨[.clear, .panic "boom"], false, none⟩
    (run (filled ++ .write abandoned :: further) (new Simulation.schema)).1 =
        (run (filled ++ further) (new Simulation.schema)).1 ∧
      (run (filled ++ .write broken :: further) (new Simulation.schema)).1.Halted
        (after Simulation.schema filled).store := by
  intro filled further abandoned broken
  have givenUp : abandoned.Withdraws (after Simulation.schema filled).store := .failed rfl
  obtain ⟨removable, _⟩ := transactions_atomic Simulation.schema filled further abandoned
  obtain ⟨_, halts⟩ := transactions_atomic Simulation.schema filled further broken
  obtain ⟨answers, _, same⟩ := removable givenUp
  exact ⟨(congrArg Prod.fst same).symm, (halts "boom" rfl).2⟩

end Client

end SnapshotQuery
