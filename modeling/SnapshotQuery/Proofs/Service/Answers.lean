import SnapshotQuery.Proofs.Service.Calls

/-!
# What calls of the store answer

Faults that only act and refuse leave the answers to the store.  Then an attempt
returns the rows of its predicate, and a view is handed over at the version that
is current when its origin asks.
-/

namespace SnapshotQuery

/-- What a call answers comes from the store, unless it is refused. -/
structure Fault.Truthful (fault : Fault) : Prop where
  version : fault.version = .none
  unpinned : fault.unpinned = .none

/-- A snapshot of the version was opened last. -/
structure Store.Opened (store : Store) (version : VersionStamp) (snapshot : Snapshot) : Prop where
  sound : store.poisoned = false
  retained : store.Retained version
  version : snapshot.version = version

/-- Rows were handed over as a view at their version. -/
structure Store.HandedOver (store : Store) (rows : RowSet) (view : View) : Prop where
  opened : store.Opened view.rows.version view.snapshot
  rows : view.rows = rows

/-- A result was found at, or brought to, a version that was the current one after some store. -/
structure Store.Agreed (earlier store : Store) (mode : ReconcileMode) (rows : RowSet)
    (outcome : Reconciliation) (view : View) : Prop where
  current_le : earlier.authority.current ≤ view.rows.version
  opened : store.Opened view.rows.version view.snapshot
  kept : outcome = .converged view → view.rows = rows
  strict : mode = .strict → outcome = .converged view

namespace Service

/-- All faults that wait are truthful. -/
def Truthful (service : Service) : Prop :=
  ∀ method, ∀ fault ∈ service.faults method, fault.Truthful

variable {service moment : Service}

theorem Interlude.truthful {calls : List Observation} {before after : Service}
    (interlude : Interlude calls before after) (truthful : before.Truthful) : after.Truthful :=
  fun method fault waits => truthful method fault (interlude.faults method waits)

theorem truthful_interrupt (truthful : service.Truthful) (method : Method) :
    (service.interrupt method).2.1.Truthful := by
  unfold interrupt
  cases waiting : service.faults method with
  | nil => exact ⟨rfl, rfl⟩
  | cons fault rest => exact truthful method fault (waiting ▸ List.mem_cons_self)

/-- A call that answers was made, some time after it was asked for. -/
theorem reach_eq_ok {Item : Type} {method : Method}
    {call : Fault → Service → Service × Except StoreError Item} {item : Item}
    (truthful : service.Truthful) (reached : service.reach method call = (moment, .ok item)) :
    ∃ fault asked, fault.Truthful ∧ Interlude [] service asked ∧
      call fault asked = (moment, .ok item) := by
  have interrupted := service.interlude_interrupt method
  have honest := truthful_interrupt truthful method
  unfold reach at reached
  generalize service.interrupt method = result at interrupted honest reached
  obtain ⟨asked, fault, panic⟩ := result
  refine ⟨fault, asked, honest, interrupted, ?_⟩
  cases panic with
  | some message => exact absurd (Prod.mk.inj reached).2 nofun
  | none =>
      simp only at reached
      cases refused : fault.error with
      | some error =>
          simp only [refused] at reached
          exact absurd (Prod.mk.inj reached).2 nofun
      | none =>
          simp only [refused] at reached
          generalize call fault asked = answer at reached
          obtain ⟨later, outcome⟩ := answer
          cases outcome with
          | error error => exact absurd (Prod.mk.inj reached).2 nofun
          | ok found =>
              obtain ⟨rfl, same⟩ := Prod.mk.inj reached
              rw [Except.ok.inj same]

theorem reachVersion_eq (truthful : service.Truthful) :
    service.reachVersion.2 = service.reachVersion.1.store.currentVersion := by
  have honest := truthful_interrupt truthful .currentVersion
  unfold reachVersion
  generalize service.interrupt .currentVersion = result at honest
  obtain ⟨asked, fault, panic⟩ := result
  have untold : fault.version = none := honest.version
  cases refused : fault.error <;> simp only [refused, untold]

theorem opened_of_openSnapshot {target : VersionStamp} {snapshot : Snapshot}
    (opening : service.openSnapshot (some target) = (moment, .ok snapshot)) :
    moment.store.Opened target snapshot := by
  unfold openSnapshot at opening
  cases answer : service.store.openSnapshot (some target) with
  | error refusal =>
      rw [answer] at opening
      exact absurd (Prod.mk.inj opening).2 nofun
  | ok result =>
      obtain ⟨found, store⟩ := result
      rw [answer] at opening
      obtain ⟨rfl, same⟩ := Prod.mk.inj opening
      obtain rfl := Except.ok.inj same
      obtain ⟨sound, retained, acquired⟩ :=
        (service.store.openSnapshot_eq_ok_iff (some target) found store).mp answer
      obtain ⟨rfl, rfl⟩ := Prod.mk.inj acquired
      exact ⟨sound, retained, rfl⟩

theorem opened_of_reachSnapshot (truthful : service.Truthful) {target : VersionStamp}
    {snapshot : Snapshot}
    (reached : service.reachSnapshot (some target) = (moment, .ok snapshot)) :
    moment.store.Opened target snapshot := by
  obtain ⟨fault, asked, honest, _, called⟩ := reach_eq_ok truthful reached
  rw [honest.unpinned] at called
  exact opened_of_openSnapshot called

/-- An attempt that succeeds returns the rows of its predicate. -/
theorem computed_of_evaluateAttempt (truthful : service.Truthful) {attempt : Attempt}
    {outcome : Outcome} {rows : RowSet}
    (evaluated : service.evaluateAttempt attempt = (moment, outcome))
    (result : outcome.result = .ok rows) : moment.store.Computed attempt.predicate rows := by
  have opening := service.interlude_reachSnapshot .none
  unfold evaluateAttempt at evaluated
  generalize service.reachSnapshot .none = opened at opening evaluated
  obtain ⟨opened, snapshot⟩ := opened
  cases snapshot with
  | error failure =>
      cases failure <;> obtain ⟨_, rfl⟩ := Prod.mk.inj evaluated <;> exact absurd result nofun
  | ok snapshot =>
      simp only at evaluated
      cases reached : opened.reachRows snapshot attempt.predicate with
      | mk asked answer =>
          rw [reached] at evaluated
          cases answer with
          | error failure =>
              cases failure <;> obtain ⟨_, rfl⟩ := Prod.mk.inj evaluated <;>
                exact absurd result nofun
          | ok found =>
              obtain ⟨_, between, _, _, called⟩ :=
                reach_eq_ok (opening.truthful truthful) reached
              obtain ⟨rfl, answered⟩ := Prod.mk.inj called
              have computed := Store.computed_of_evaluate answered
              have hooked := between.interlude_runHook attempt found.version
              simp only at evaluated
              generalize between.runHook attempt found.version = run at hooked evaluated
              obtain ⟨later, panic⟩ := run
              cases panic with
              | some message =>
                  obtain ⟨_, rfl⟩ := Prod.mk.inj evaluated
                  exact absurd result nofun
              | none =>
                  obtain ⟨rfl, rfl⟩ := Prod.mk.inj evaluated
                  obtain rfl := Except.ok.inj result
                  exact computed.precedes hooked.store

theorem handedOver_of_handOverAs (truthful : service.Truthful) {rows : RowSet}
    {target : VersionStamp} {done : View → Reconciliation} {outcome : Reconciliation} {view : View}
    (shown : ∀ bound, (done bound).view? = some bound)
    (handed : service.handOverAs rows target done = (moment, outcome))
    (seen : outcome.view? = some view) :
    moment.store.HandedOver rows view ∧ rows.version = target ∧ outcome = done view := by
  simp only [handOverAs, handOver] at handed
  by_cases same : rows.version = target
  · rw [if_pos same] at handed
    cases reached : service.reachSnapshot (some target) with
    | mk later answer =>
        rw [reached] at handed
        cases answer with
        | error failure =>
            obtain ⟨_, rfl⟩ := Prod.mk.inj handed
            exact absurd seen.symm (Option.some_ne_none view)
        | ok snapshot =>
            obtain ⟨rfl, rfl⟩ := Prod.mk.inj handed
            obtain rfl := Option.some.inj ((shown ⟨snapshot, rows⟩).symm.trans seen)
            have opened := opened_of_reachSnapshot truthful reached
            rw [← same] at opened
            exact ⟨⟨opened, rfl⟩, same, rfl⟩
  · rw [if_neg same] at handed
    obtain ⟨_, rfl⟩ := Prod.mk.inj handed
    exact absurd seen.symm (Option.some_ne_none view)

theorem agreed_of_reconcile {mode : ReconcileMode} {rows : RowSet} {policy : RetryPolicy}
    {attempts : Nat} {cancelled : Bool} {outcome : Reconciliation} {view : View}
    (reconciled : service.reconcile mode rows policy attempts cancelled = (moment, outcome))
    (seen : outcome.view? = some view) (truthful : service.Truthful)
    (coherent : service.store.Coherent) :
    service.store.Agreed moment.store mode rows outcome view := by
  have asking := service.interlude_reachVersion
  have answered := reachVersion_eq truthful
  unfold reconcile at reconciled
  generalize service.reachVersion = result at asking answered reconciled
  obtain ⟨asked, current⟩ := result
  have current_le : service.store.authority.current ≤ current := by
    have published : current = asked.store.authority.current :=
      answered.trans (asking.store.coherent coherent).published
    exact published ▸ asking.store.current_le
  have honest := asking.truthful truthful
  have missed : (policy.onMismatch rows.version current attempts cancelled).view? = none := by
    unfold RetryPolicy.onMismatch
    split <;> rfl
  simp only at reconciled
  by_cases same : rows.version = current
  · rw [if_pos same] at reconciled
    obtain ⟨handed, _, rfl⟩ :=
      handedOver_of_handOverAs honest (fun _ => rfl) reconciled seen
    exact ⟨handed.rows ▸ same ▸ current_le, handed.opened, fun _ => handed.rows, fun _ => rfl⟩
  · rw [if_neg same] at reconciled
    cases mode with
    | strict =>
        obtain ⟨_, rfl⟩ := Prod.mk.inj reconciled
        exact absurd (missed.symm.trans seen) nofun
    | rederive =>
        have importing := asked.interlude_reachImport rows rows.version current
        simp only at reconciled
        generalize asked.reachImport rows rows.version current = result at importing reconciled
        obtain ⟨imported, answer⟩ := result
        cases answer with
        | error failure =>
            obtain ⟨_, rfl⟩ := Prod.mk.inj reconciled
            exact absurd seen nofun
        | ok left =>
            simp only at reconciled
            by_cases whole : left.size = rows.size
            · rw [if_pos whole] at reconciled
              obtain ⟨handed, fits, rfl⟩ := handedOver_of_handOverAs
                (importing.truthful honest) (fun _ => rfl) reconciled seen
              exact ⟨handed.rows ▸ fits ▸ current_le, handed.opened, nofun, nofun⟩
            · rw [if_neg whole] at reconciled
              obtain ⟨_, rfl⟩ := Prod.mk.inj reconciled
              exact absurd (missed.symm.trans seen) nofun

section Alone

variable {method : Method}

/-- Without a fault a call is made at once. -/
theorem interrupt_alone (alone : service.faults method = []) :
    service.interrupt method = (service, .none, none) := by
  rw [interrupt, alone]

/-- Calls that change no version of the store change none when nothing comes between. -/
theorem currentVersion_reach {Item : Type} (alone : service.faults method = [])
    {call : Fault → Service → Service × Except StoreError Item}
    (still : (call .none service).1.store.currentVersion = service.store.currentVersion) :
    (service.reach method call).1.store.currentVersion = service.store.currentVersion := by
  rw [reach, interrupt_alone alone]
  exact still

theorem currentVersion_openSnapshot (service : Service) (version : Option VersionStamp) :
    (service.openSnapshot version).1.store.currentVersion = service.store.currentVersion := by
  unfold openSnapshot
  cases opening : service.store.openSnapshot version with
  | error refusal => rfl
  | ok result =>
      obtain ⟨snapshot, store⟩ := result
      obtain ⟨_, _, same⟩ :=
        (service.store.openSnapshot_eq_ok_iff version snapshot store).mp opening
      obtain ⟨_, rfl⟩ := Prod.mk.inj same
      rfl

theorem currentVersion_handOverAs (alone : service.faults .openSnapshot = []) (rows : RowSet)
    (target : VersionStamp) (done : View → Reconciliation) :
    (service.handOverAs rows target done).1.store.currentVersion =
      service.store.currentVersion := by
  have opened : (service.reachSnapshot (some target)).1.store.currentVersion =
      service.store.currentVersion :=
    currentVersion_reach alone (service.currentVersion_openSnapshot _)
  simp only [handOverAs, handOver]
  generalize service.reachSnapshot (some target) = result at opened
  obtain ⟨moment, snapshot⟩ := result
  by_cases same : rows.version = target
  · rw [if_pos same]
    cases snapshot <;> exact opened
  · rw [if_neg same]

/-- Nothing is committed while a result is reconciled and nothing comes between. -/
theorem currentVersion_reconcile (alone : ∀ method, service.faults method = [])
    (mode : ReconcileMode) (rows : RowSet) (policy : RetryPolicy) (attempts : Nat)
    (cancelled : Bool) :
    (service.reconcile mode rows policy attempts cancelled).1.store.currentVersion =
      service.store.currentVersion := by
  have asked : service.reachVersion = (service, service.store.currentVersion) := by
    simp only [reachVersion, interrupt_alone (alone .currentVersion), Fault.none]
  simp only [reconcile, asked]
  split
  · exact currentVersion_handOverAs (alone .openSnapshot) _ _ _
  · cases mode with
    | strict => rfl
    | rederive =>
        have importing := service.interlude_reachImport rows rows.version
          service.store.currentVersion
        have imported : (service.reachImport rows rows.version
            service.store.currentVersion).1.store.currentVersion = service.store.currentVersion :=
          currentVersion_reach (alone .importRows) rfl
        simp only
        generalize service.reachImport rows rows.version service.store.currentVersion = result
          at importing imported
        obtain ⟨moment, left⟩ := result
        have still : moment.faults .openSnapshot = [] :=
          List.eq_nil_of_subset_nil (alone .openSnapshot ▸ importing.faults .openSnapshot)
        cases left with
        | error failure => exact imported
        | ok left =>
            simp only
            split
            · exact (currentVersion_handOverAs still _ _ _).trans imported
            · exact imported

end Alone

end Service

end SnapshotQuery
