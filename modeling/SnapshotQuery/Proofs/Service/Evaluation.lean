import SnapshotQuery.Proofs.Service.Answers
import SnapshotQuery.Proofs.Service.Exchange
import SnapshotQuery.Proofs.Store.Refusals

/-!
# Attempts and decisions that nothing disturbs

If others only act before an evaluation, and without a panic, an attempt returns
rows of the version that was current when its worker began, and keeps them
retained.  The decision about them then depends on the versions and the rows alone.
-/

namespace SnapshotQuery

def Action.isPanic : Action → Bool
  | panic _ => true
  | _ => false

/-- None of the actions is a panic. -/
def Calm (actions : List Action) : Prop := ∀ action ∈ actions, action.isPanic = false

/-- Others act only before an evaluation, which then is made. -/
structure Gentle (faults : Method → List Fault) : Prop where
  calm : ∀ fault ∈ faults .evaluate, Calm fault.before
  made : ∀ fault ∈ faults .evaluate, fault.error = .none
  alone : ∀ method, method ≠ .evaluate → faults method = []

theorem Gentle.mono {before after : Method → List Fault} (gentle : Gentle before)
    (fewer : ∀ method, after method ⊆ before method) : Gentle after where
  calm fault waits := gentle.calm fault (fewer .evaluate waits)
  made fault waits := gentle.made fault (fewer .evaluate waits)
  alone method other := List.eq_nil_of_subset_nil (gentle.alone method other ▸ fewer method)

/-- The result is rows of the version, which the snapshot keeps retained. -/
def Genuine (version : VersionStamp) (result : Except QueryError RowSet)
    (snapshot : Option Snapshot) : Prop :=
  ∃ rows held, result = .ok rows ∧ rows.version = version ∧ snapshot = some held ∧
    held.version = version ∧ held.isPinned = true

/-- Every row of the set still exists at the current version. -/
def Store.Keeps (store : Store) (rows : RowSet) : Prop :=
  ∀ row ∈ rows.rows, (store.documentAt? row store.currentVersion).isSome = true

/-- What exists of the rows at the current version. -/
def Store.kept (store : Store) (rows : RowSet) : RowSet :=
  ⟨store.currentVersion, rows.rows.filter fun row =>
    (store.documentAt? row store.currentVersion).isSome⟩

theorem Store.size_kept_iff {store : Store} {rows : RowSet} :
    (store.kept rows).size = rows.size ↔ store.Keeps rows :=
  List.length_filter_eq_length_iff

theorem Store.Keeps.kept_eq {store : Store} {rows : RowSet} (keeps : store.Keeps rows) :
    store.kept rows = ⟨store.currentVersion, rows.rows⟩ :=
  congrArg (RowSet.mk _) (List.filter_eq_self.mpr keeps)

theorem Store.Coherent.retained_current {store : Store} (coherent : store.Coherent) :
    store.Retained store.currentVersion := by
  have published : store.currentVersion = store.authority.current := coherent.published
  rw [published]
  exact ⟨coherent.horizon_le, Nat.le_refl _⟩

namespace RetryPolicy

variable {policy : RetryPolicy} {attempts : Nat}

theorem onMismatch_allowed (allowed : ∀ limit ∈ policy.maxRetries?, attempts - 1 < limit)
    (snapshot origin : VersionStamp) :
    policy.onMismatch snapshot origin attempts false = .retry snapshot origin := by
  rw [onMismatch, (policy.decide_eq_retry_iff (attempts - 1) false).mpr ⟨rfl, allowed⟩]

theorem onMismatch_spent {limit : Nat} (budget : policy.maxRetries? = some limit)
    (spent : limit ≤ attempts - 1) (snapshot origin : VersionStamp) :
    policy.onMismatch snapshot origin attempts false =
      .giveUp (.unreachableVersion attempts snapshot origin) := by
  have exhausted : policy.decide (attempts - 1) false = .giveUp := by
    cases decided : policy.decide (attempts - 1) false with
    | giveUp => rfl
    | retry =>
        have allowed := ((policy.decide_eq_retry_iff _ _).mp decided).2 limit budget
        omega
  rw [onMismatch, exhausted]

end RetryPolicy

namespace Service

variable {service : Service}

section Evaluation

theorem act_of_calm (service : Service) {action : Action} (calm : action.isPanic = false) :
    (service.act action).2 = none := by
  cases action with
  | panic message => exact absurd calm nofun
  | reportedWrite script attempt =>
      simp only [act]
      split <;> rfl
  | write | collect | cancel | setToken | close => rfl

theorem actAll_of_calm (service : Service) {actions : List Action} (calm : Calm actions) :
    (service.actAll actions).2 = none := by
  induction actions generalizing service with
  | nil => rfl
  | cons action rest inductionHypothesis =>
      have acted := service.act_of_calm (calm action List.mem_cons_self)
      simp only [actAll]
      generalize service.act action = result at acted
      obtain ⟨moment, panic⟩ := result
      obtain rfl : panic = none := acted
      exact inductionHypothesis moment fun other member =>
        calm other (List.mem_cons_of_mem _ member)

theorem runHook_of_calm {attempt : Attempt} (calm : ∀ hook ∈ attempt.hook, ∀ run, Calm (hook run))
    (version : VersionStamp) : (service.runHook attempt version).2 = none := by
  unfold runHook
  cases carried : attempt.hook with
  | none => rfl
  | some hook => exact actAll_of_calm _ (calm hook carried _)

/-- The service with a version pinned once more. -/
def pinning (service : Service) (version : VersionStamp) : Service :=
  { service with
    store := { service.store with
      retention := (service.store.retention.acquire version).2 } }.report (.snapshotOpened version)

theorem reachSnapshot_eq (alone : service.faults .openSnapshot = [])
    (sound : service.store.poisoned = false) (version : Option VersionStamp)
    (retained : service.store.Retained (version.getD service.store.authority.current)) :
    service.reachSnapshot version =
      (service.pinning (version.getD service.store.authority.current),
        .ok (service.store.retention.acquire
          (version.getD service.store.authority.current)).1) := by
  have opened := (service.store.openSnapshot_eq_ok_iff version _ _).mpr ⟨sound, retained, rfl⟩
  rw [reachSnapshot, reach, interrupt_alone alone]
  simp only [Fault.none, openSnapshot, opened]
  rfl

theorem reachSnapshot_alone (alone : service.faults .openSnapshot = [])
    (sound : service.store.poisoned = false) (version : Option VersionStamp)
    (retained : service.store.Retained (version.getD service.store.authority.current)) :
    ∃ snapshot moment, service.reachSnapshot version = (moment, .ok snapshot) ∧
      snapshot.version = version.getD service.store.authority.current ∧
      snapshot.isPinned = true ∧ moment.cancelled = service.cancelled :=
  ⟨_, _, reachSnapshot_eq alone sound version retained, rfl, rfl, rfl⟩

/-- What comes before an evaluation ends in a call of the store. -/
theorem reachRows_of_gentle (gentle : Gentle service.faults) (snapshot : Snapshot)
    (predicate : Predicate) :
    (service.reachRows snapshot predicate).2 =
      ((service.reachRows snapshot predicate).1.store.evaluate snapshot predicate).mapError
        .refused := by
  unfold reachRows reach interrupt
  cases waiting : service.faults .evaluate with
  | nil => rfl
  | cons fault rest =>
      have first : fault ∈ service.faults .evaluate := waiting ▸ List.mem_cons_self
      have calm := actAll_of_calm ({ service with
        faults := fun other => if other = .evaluate then rest else service.faults other })
        (gentle.calm fault first)
      simp only
      generalize actAll _ fault.before = result at calm
      obtain ⟨moment, panic⟩ := result
      obtain rfl : panic = none := calm
      simp only [gentle.made fault first]

/-- An attempt takes the rows of the version that is current when its worker begins. -/
theorem genuine_evaluateAttempt (gentle : Gentle service.faults)
    (coherent : service.store.Coherent) (backs : service.store.Backs service.holdings)
    {attempt : Attempt} (valid : attempt.predicate.check service.store.schema = .ok ())
    (calm : ∀ hook ∈ attempt.hook, ∀ run, Calm (hook run))
    (unpoisoned : (service.evaluateAttempt attempt).1.store.poisoned = false) :
    Genuine service.store.currentVersion (service.evaluateAttempt attempt).2.result
      (service.evaluateAttempt attempt).2.snapshot := by
  have sound := (service.interlude_evaluateAttempt attempt).store.unpoisoned unpoisoned
  obtain ⟨snapshot, opened, opening, version, pinned, _⟩ :=
    reachSnapshot_alone (gentle.alone .openSnapshot (by decide)) sound none
      ⟨coherent.horizon_le, Nat.le_refl _⟩
  have interlude := service.interlude_reachSnapshot none
  have exchange := service.exchange_reachSnapshot none
  simp only [evaluateAttempt, opening] at unpoisoned interlude exchange ⊢
  have asking := opened.interlude_reachRows snapshot attempt.predicate
  have kept := (exchange.trans ((opened.exchange_reachRows snapshot attempt.predicate).holding
    [snapshot])).backs [] backs
  have answered := reachRows_of_gentle (gentle.mono interlude.faults) snapshot attempt.predicate
  generalize opened.reachRows snapshot attempt.predicate = result at *
  obtain ⟨asked, answer⟩ := result
  have sane : asked.store.poisoned = false := by
    cases answer with
    | error failure =>
        exact ((asked.interlude_release snapshot).then
          (interlude_failOnWorker _ attempt failure)).store.unpoisoned unpoisoned
    | ok rows =>
        have hooked := asked.interlude_runHook attempt rows.version
        have quiet : (asked.runHook attempt rows.version).2 = none := runHook_of_calm calm _
        simp only at unpoisoned
        generalize asked.runHook attempt rows.version = result at hooked quiet unpoisoned
        obtain ⟨last, panic⟩ := result
        obtain rfl : panic = none := quiet
        exact hooked.store.unpoisoned unpoisoned
  have schema : asked.store.schema = service.store.schema := (interlude.then asking).store.schema
  have found := (asked.store.evaluate_eq_ok_iff snapshot attempt.predicate _).mpr
    ⟨schema ▸ valid, sane, kept.retained snapshot (by simp) pinned, rfl⟩
  obtain rfl : answer = .ok _ := answered.trans (congrArg _ found)
  have quiet : (asked.runHook attempt snapshot.version).2 = none := runHook_of_calm calm _
  have current : snapshot.version = service.store.currentVersion :=
    version.trans coherent.published.symm
  simp only
  generalize asked.runHook attempt snapshot.version = result at quiet ⊢
  obtain ⟨last, panic⟩ := result
  obtain rfl : panic = none := quiet
  exact ⟨_, snapshot, rfl, current, rfl, current, pinned⟩

end Evaluation

section Decision

variable {mode : ReconcileMode} {rows : RowSet} {policy : RetryPolicy} {attempts : Nat}
  {cancelled : Bool}

theorem reachVersion_alone (alone : service.faults .currentVersion = []) :
    service.reachVersion = (service, service.store.currentVersion) := by
  simp only [reachVersion, interrupt_alone alone, Fault.none]

/-- Rows of a retained version are handed over with a pin of their own. -/
theorem handOverAs_eq (alone : service.faults .openSnapshot = [])
    (sound : service.store.poisoned = false) (retained : service.store.Retained rows.version)
    (done : View → Reconciliation) :
    service.handOverAs rows rows.version done =
      (service.pinning rows.version,
        done ⟨(service.store.retention.acquire rows.version).1, rows⟩) := by
  have opened := reachSnapshot_eq alone sound (some rows.version) retained
  simp only [handOverAs, handOver, if_true, opened]
  rfl

theorem reachImport_alone (alone : service.faults .importRows = [])
    (sound : service.store.poisoned = false) (coherent : service.store.Coherent)
    (retained : service.store.Retained rows.version) :
    service.reachImport rows rows.version service.store.currentVersion =
      (service, .ok (service.store.kept rows)) := by
  have ordered : rows.version ≤ service.store.currentVersion := by
    rw [Store.currentVersion, coherent.published]
    exact retained.2
  have imported := Store.importRows_of_retained ordered retained coherent.retained_current
  rw [sound] at imported
  rw [reachImport, reach, interrupt_alone alone]
  simp only [Fault.none, imported]
  rfl

/-- Rows of the current version converge, whatever the mode and the policy. -/
theorem reconcile_current (gentle : Gentle service.faults)
    (sound : service.store.poisoned = false) (coherent : service.store.Coherent)
    (current : rows.version = service.store.currentVersion) (mode : ReconcileMode) :
    service.reconcile mode rows policy attempts cancelled =
      (service.pinning rows.version,
        .converged ⟨(service.store.retention.acquire rows.version).1, rows⟩) := by
  have retained : service.store.Retained rows.version := current ▸ coherent.retained_current
  simp only [reconcile, reachVersion_alone (gentle.alone .currentVersion (by decide))]
  rw [if_pos current, ← current]
  exact handOverAs_eq (gentle.alone .openSnapshot (by decide)) sound retained .converged

/-- Rows of an older version that lost none of theirs are brought over, whatever the policy. -/
theorem reconcile_kept (gentle : Gentle service.faults)
    (sound : service.store.poisoned = false) (coherent : service.store.Coherent)
    (retained : service.store.Retained rows.version)
    (stale : rows.version ≠ service.store.currentVersion) (keeps : service.store.Keeps rows) :
    service.reconcile .rederive rows policy attempts cancelled =
      (service.pinning service.store.currentVersion,
        .rederived ⟨(service.store.retention.acquire service.store.currentVersion).1,
          ⟨service.store.currentVersion, rows.rows⟩⟩) := by
  have alone := gentle.alone
  simp only [reconcile, reachVersion_alone (alone .currentVersion (by decide)), if_neg stale,
    reachImport_alone (alone .importRows (by decide)) sound coherent retained,
    if_pos (Store.size_kept_iff.mpr keeps)]
  rw [keeps.kept_eq]
  exact handOverAs_eq (alone .openSnapshot (by decide)) sound coherent.retained_current .rederived

/-- Rows at the current version are handed over, and so are those that lost none of theirs. -/
theorem reconcile_resolvable (gentle : Gentle service.faults)
    (sound : service.store.poisoned = false) (coherent : service.store.Coherent)
    (retained : service.store.Retained rows.version)
    (resolvable : rows.version = service.store.currentVersion ∨
      mode = .rederive ∧ service.store.Keeps rows) :
    ∃ decided outcome view,
      service.reconcile mode rows policy attempts cancelled = (decided, outcome) ∧
      outcome.view? = some view ∧ decided.cancelled = service.cancelled := by
  by_cases fresh : rows.version = service.store.currentVersion
  · exact ⟨_, _, _, reconcile_current gentle sound coherent fresh mode, rfl, rfl⟩
  · obtain ⟨rfl, kept⟩ := resolvable.resolve_left fresh
    exact ⟨_, _, _, reconcile_kept gentle sound coherent retained fresh kept, rfl, rfl⟩

/-- What is neither is left to the policy. -/
theorem reconcile_unresolvable (gentle : Gentle service.faults)
    (sound : service.store.poisoned = false) (coherent : service.store.Coherent)
    (retained : service.store.Retained rows.version)
    (stale : rows.version ≠ service.store.currentVersion)
    (lost : mode = .rederive → ¬ service.store.Keeps rows) :
    service.reconcile mode rows policy attempts cancelled =
      (service,
        policy.onMismatch rows.version service.store.currentVersion attempts cancelled) := by
  have alone := gentle.alone
  simp only [reconcile, reachVersion_alone (alone .currentVersion (by decide)), if_neg stale]
  cases mode with
  | strict => rfl
  | rederive =>
      simp only [reachImport_alone (alone .importRows (by decide)) sound coherent retained,
        if_neg (mt Store.size_kept_iff.mp (lost rfl))]

end Decision

end Service

end SnapshotQuery
