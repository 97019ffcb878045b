import SnapshotQuery.Proofs.Service.Evaluation
import SnapshotQuery.Proofs.Store.Thinning

/-!
# Rows that are brought over without a loss

Only the numbers of rows are compared when a stale result is brought over.  No row
is ever added, so where the numbers agree all rows were kept in their order.
Otherwise the retry policy decides as if nothing had been brought over.
-/

namespace SnapshotQuery

namespace Store

variable {store : Store} {rows : RowSet}

/-- A snapshot of the current version shows all rows that were kept. -/
theorem Keeps.readRow (keeps : store.Keeps rows) (sound : store.poisoned = false)
    (coherent : store.Coherent) {held : Snapshot} (version : held.version = store.currentVersion)
    {row : RowId} (member : row ∈ rows.rows) :
    ∃ document, store.readRow held row = .ok (some document) := by
  obtain ⟨document, found⟩ := Option.isSome_iff_exists.mp (keeps row member)
  refine ⟨document, (store.readRow_eq_ok_iff held row _).mpr ⟨sound, ?_, ?_⟩⟩
  · rw [version]
    exact coherent.retained_current
  · rw [version, found]

end Store

namespace Service

variable {service : Service} {rows : RowSet}

theorem gentle_of_alone (alone : ∀ method, service.faults method = []) :
    Gentle service.faults where
  calm fault waits := by simp [alone] at waits
  made fault waits := by simp [alone] at waits
  alone method _ := alone method

variable {policy : RetryPolicy} {attempts : Nat} {cancelled : Bool}

/-- A stale result is rederived exactly if none of its rows is lost. -/
theorem rederived_iff_keeps (gentle : Gentle service.faults)
    (sound : service.store.poisoned = false) (coherent : service.store.Coherent)
    (retained : service.store.Retained rows.version)
    (stale : rows.version ≠ service.store.currentVersion) :
    (∃ view, (service.reconcile .rederive rows policy attempts cancelled).2 = .rederived view) ↔
      service.store.Keeps rows := by
  constructor
  · rintro ⟨view, made⟩
    by_contra lost
    rw [reconcile_unresolvable gentle sound coherent retained stale fun _ => lost] at made
    have none : (Reconciliation.rederived view).view? = none :=
      made ▸ view?_onMismatch policy rows.version service.store.currentVersion attempts cancelled
    exact absurd none (Option.some_ne_none view)
  · intro keeps
    exact ⟨_, congrArg Prod.snd (reconcile_kept gentle sound coherent retained stale keeps)⟩

theorem reconcile_rederive_of_lost (gentle : Gentle service.faults)
    (sound : service.store.poisoned = false) (coherent : service.store.Coherent)
    (retained : service.store.Retained rows.version)
    (stale : rows.version ≠ service.store.currentVersion) (lost : ¬ service.store.Keeps rows) :
    service.reconcile .rederive rows policy attempts cancelled =
      service.reconcile .strict rows policy attempts cancelled :=
  (reconcile_unresolvable gentle sound coherent retained stale fun _ => lost).trans
    (reconcile_unresolvable gentle sound coherent retained stale fun _ => lost).symm

/-- Rederivation is lossless.  Unless a transaction has panicked, rows of the current version
converge unchanged in either mode.  Rows of an older version that a snapshot pins are rederived
exactly if each of them exists at the current version.  The view then has the current version and
the same rows in the same order, each with a document.  The policy has no say in either, and where
a row is lost the answer is that of the strict mode. -/
theorem rederivation_lossless (schema : TableSchema) (calls : List ClientCall)
    (calm : ∀ answer ∈ (Client.run calls (Client.new schema)).2, answer.isPanic = false)
    (service : Service) (reached : service.store = (Client.after schema calls).store)
    (alone : ∀ method, service.faults method = []) (rows : RowSet) :
    let current := service.store.currentVersion
    let pinned := ∃ snapshot ∈ (Client.after schema calls).snapshots,
      snapshot.isPinned = true ∧ snapshot.version = rows.version
    (rows.version = current → ∃ decided held, held.version = current ∧ held.isPinned = true ∧
        ∀ mode policy attempts cancelled, service.reconcile mode rows policy attempts cancelled =
          (decided, .converged ⟨held, rows⟩)) ∧
      (rows.version ≠ current → pinned →
        (∀ policy attempts cancelled,
          ((∃ view, (service.reconcile .rederive rows policy attempts cancelled).2 =
              .rederived view) ↔ service.store.Keeps rows) ∧
            (¬ service.store.Keeps rows →
              service.reconcile .rederive rows policy attempts cancelled =
                service.reconcile .strict rows policy attempts cancelled)) ∧
          (service.store.Keeps rows →
            ∃ decided held, held.version = current ∧ held.isPinned = true ∧
              (∀ row ∈ rows.rows, ∃ document,
                decided.store.readRow held row = .ok (some document)) ∧
              ∀ policy attempts cancelled,
                service.reconcile .rederive rows policy attempts cancelled =
                  (decided, .rederived ⟨held, ⟨current, rows.rows⟩⟩))) := by
  intro current pinned
  have sound := Client.sound_after schema calls
  have free : service.store.poisoned = false :=
    reached ▸ (Client.poisoned_after_iff schema calls).mpr calm
  have gentle := gentle_of_alone alone
  have coherent : service.store.Coherent := reached ▸ sound.wellFormed.toCoherent
  refine ⟨?_, ?_⟩
  · intro fresh
    exact ⟨_, _, fresh, rfl, fun mode _ _ _ => reconcile_current gentle free coherent fresh mode⟩
  · rintro stale ⟨snapshot, held, isPinned, version⟩
    have retained : service.store.Retained rows.version := by
      rw [reached, ← version]
      exact sound.backs.retained snapshot held isPinned
    refine ⟨?_, ?_⟩
    · intro policy attempts cancelled
      exact ⟨rederived_iff_keeps gentle free coherent retained stale,
        reconcile_rederive_of_lost gentle free coherent retained stale⟩
    · intro keeps
      refine ⟨_, _, rfl, rfl, ?_, fun _ _ _ =>
        reconcile_kept gentle free coherent retained stale keeps⟩
      intro row member
      have kept : (service.pinning current).store.Keeps rows := keeps
      exact kept.readRow free ⟨coherent.published, coherent.horizon_le⟩ rfl member

/-- One of two rows is deleted, and then the other one alone can be brought over. -/
theorem rederivation_lossless_of_deleted :
    let calls : List ClientCall := [.write (Simulation.refill 2), .openSnapshot none,
      .write ⟨[.delete 2], false, none⟩]
    let service : Service := { Service.new Simulation.schema with
      store := (Client.after Simulation.schema calls).store }
    (∃ decided held, service.reconcile .rederive ⟨1, [1]⟩ .indefinite 1 false =
        (decided, .rederived ⟨held, ⟨2, [1]⟩⟩)) ∧
      service.reconcile .rederive ⟨1, [1, 2]⟩ .indefinite 1 false =
        service.reconcile .strict ⟨1, [1, 2]⟩ .indefinite 1 false ∧
      ∃ decided held, service.reconcile .strict ⟨2, [1]⟩ .indefinite 1 false =
        (decided, .converged ⟨held, ⟨2, [1]⟩⟩) := by
  intro calls service
  have calm : ∀ answer ∈ (Client.run calls (Client.new Simulation.schema)).2,
      answer.isPanic = false := (Client.poisoned_after_iff _ _).mp rfl
  have lossless := rederivation_lossless Simulation.schema calls calm service rfl fun _ => rfl
  have pinned : ∃ snapshot ∈ (Client.after Simulation.schema calls).snapshots,
      snapshot.isPinned = true ∧ snapshot.version = 1 := ⟨⟨1, some 0⟩, .head _, rfl, rfl⟩
  refine ⟨?_, ?_, ?_⟩
  · have keeps : service.store.Keeps ⟨1, [1]⟩ := by
      rintro row (_ | ⟨_, ⟨⟩⟩)
      rfl
    obtain ⟨decided, held, -, -, -, rederived⟩ :=
      ((lossless ⟨1, [1]⟩).2 (by decide) pinned).2 keeps
    exact ⟨decided, held, rederived _ _ _⟩
  · have lost : ¬ service.store.Keeps ⟨1, [1, 2]⟩ := fun keeps =>
      absurd (keeps 2 (.tail _ (.head _))) Bool.false_ne_true
    exact (((lossless ⟨1, [1, 2]⟩).2 (by decide) pinned).1 _ _ _).2 lost
  · obtain ⟨decided, held, -, -, converged⟩ := (lossless ⟨2, [1]⟩).1 rfl
    exact ⟨decided, held, converged _ _ _ _⟩

/-- After a panic not even rows of the current version converge. -/
theorem not_converged_after_panic :
    let calls : List ClientCall := [.write (Simulation.refill 1), .openSnapshot none]
    let service : Service := { Service.new Simulation.schema with
      store := (Client.after Simulation.schema
        (calls ++ [.write ⟨[.panic "boom"], false, none⟩])).store }
    (Client.after Simulation.schema calls).store.evaluate ⟨1, some 0⟩ Predicate.all =
        .ok ⟨1, [1]⟩ ∧
      service.store.currentVersion = 1 ∧
      service.reconcile .strict ⟨1, [1]⟩ .indefinite 1 false =
        (service, .giveUp (.store .lockPoisoned)) :=
  ⟨rfl, rfl, rfl⟩

end Service

end SnapshotQuery
