import SnapshotQuery.Service.Origin

/-!
# What actions and calls keep

A query reaches the store by calls, and before each of them others may act.  So a
relation of the services before and after that single actions keep is kept by
whatever is made of calls: evaluations, reconciliations and the reading of views.
-/

namespace SnapshotQuery.Service

/-- A relation of the services before and after that is kept when others act before a call. -/
structure KeptByOthers (Link : Service → Service → Prop) : Prop where
  refl : ∀ service, Link service service
  trans : ∀ {first middle last}, Link first middle → Link middle last → Link first last
  act : ∀ service action, Link service (service.act action).1
  taken : ∀ {service : Service} {method fault rest}, service.faults method = fault :: rest →
    Link service { service with
      faults := fun other => if other = method then rest else service.faults other }

/-- A relation that is also kept when hooks are run. -/
structure KeptByActions (Link : Service → Service → Prop) : Prop extends KeptByOthers Link where
  hookRan : ∀ service label run, Link service (service.observe (.hookRan label run))

/-- A relation that is also kept when snapshots are opened. -/
structure KeptByOrigins (Link : Service → Service → Prop) : Prop extends KeptByOthers Link where
  opened : ∀ service version, Link service (service.openSnapshot version).1

/-- A relation that is kept by whatever origins and workers do, also when snapshots are released
and workers panic. -/
structure KeptByCalls (Link : Service → Service → Prop) : Prop extends KeptByActions Link,
    KeptByOrigins Link where
  released : ∀ service snapshot, Link service (service.release snapshot)
  panicked : ∀ service attempt message, Link service (service.panicOnWorker attempt message).1

variable {Link : Service → Service → Prop}

namespace KeptByOthers

variable (kept : KeptByOthers Link) (service : Service)

include kept

theorem actAll (actions : List Action) : Link service (service.actAll actions).1 := by
  induction actions generalizing service with
  | nil => exact kept.refl service
  | cons action rest inductionHypothesis =>
      have acted := kept.act service action
      simp only [Service.actAll]
      generalize service.act action = result at acted
      obtain ⟨moment, panic⟩ := result
      cases panic with
      | none => exact kept.trans acted (inductionHypothesis moment)
      | some message => exact acted

theorem interrupt (method : Method) : Link service (service.interrupt method).1 := by
  unfold Service.interrupt
  cases waiting : service.faults method with
  | nil => exact kept.refl service
  | cons fault rest => exact kept.trans (kept.taken waiting) (kept.actAll _ fault.before)

theorem reach {Item : Type} (method : Method)
    {call : Fault → Service → Service × Except StoreError Item}
    (called : ∀ fault moment, Link moment (call fault moment).1) :
    Link service (service.reach method call).1 := by
  have interrupted := kept.interrupt service method
  unfold Service.reach
  generalize service.interrupt method = result at interrupted
  obtain ⟨moment, fault, panic⟩ := result
  cases panic with
  | some message => exact interrupted
  | none =>
      simp only
      cases fault.error with
      | some error => exact interrupted
      | none => exact kept.trans interrupted (called fault moment)

theorem reachVersion : Link service service.reachVersion.1 := by
  have interrupted := kept.interrupt service .currentVersion
  unfold Service.reachVersion
  generalize service.interrupt .currentVersion = result at interrupted
  obtain ⟨moment, fault, panic⟩ := result
  simp only
  split <;> exact interrupted

theorem reachRows (snapshot : Snapshot) (predicate : Predicate) :
    Link service (service.reachRows snapshot predicate).1 :=
  kept.reach service .evaluate fun _ => kept.refl

theorem reachImport (rows : RowSet) (source target : VersionStamp) :
    Link service (service.reachImport rows source target).1 :=
  kept.reach service .importRows fun _ => kept.refl

theorem viewDocument (snapshot : Snapshot) (row : RowId) :
    Link service (service.viewDocument snapshot row).1 := by
  have read : Link service (service.reachDocument snapshot row).1 :=
    kept.reach service .readRow fun _ => kept.refl
  unfold Service.viewDocument
  generalize service.reachDocument snapshot row = result at read
  obtain ⟨moment, document⟩ := result
  cases document <;> exact read

theorem documentsOf (snapshot : Snapshot) (rows : List RowId) :
    Link service (service.documentsOf snapshot rows).1 := by
  induction rows generalizing service with
  | nil => exact kept.refl service
  | cons row rest inductionHypothesis =>
      have read := kept.viewDocument service snapshot row
      simp only [Service.documentsOf]
      generalize service.viewDocument snapshot row = result at read
      obtain ⟨moment, document⟩ := result
      cases document with
      | error error => exact read
      | ok document =>
          have others := kept.trans read (inductionHypothesis moment)
          simp only
          generalize moment.documentsOf snapshot rest = result at others
          obtain ⟨later, documents⟩ := result
          cases documents <;> exact others

theorem inspect (view : View) : Link service (service.inspect view).1 :=
  kept.documentsOf service view.snapshot view.rows.rows

end KeptByOthers

theorem KeptByActions.runHook (kept : KeptByActions Link) (service : Service) (attempt : Attempt)
    (version : VersionStamp) : Link service (service.runHook attempt version).1 := by
  unfold Service.runHook
  cases attempt.hook with
  | none => exact kept.refl service
  | some hook => exact kept.trans (kept.hookRan service _ _) (kept.actAll _ _)

namespace KeptByOrigins

variable (kept : KeptByOrigins Link) (service : Service)

include kept

theorem reachSnapshot (version : Option VersionStamp) :
    Link service (service.reachSnapshot version).1 := by
  apply kept.reach
  intro fault moment
  cases fault.unpinned with
  | some version => exact kept.refl moment
  | none => exact kept.opened moment version

theorem handOverAs (rows : RowSet) (target : VersionStamp) (done : View → Reconciliation) :
    Link service (service.handOverAs rows target done).1 := by
  have opened := kept.reachSnapshot service (some target)
  simp only [Service.handOverAs, Service.handOver]
  generalize service.reachSnapshot (some target) = result at opened
  obtain ⟨moment, snapshot⟩ := result
  by_cases same : rows.version = target
  · rw [if_pos same]
    cases snapshot <;> exact opened
  · rw [if_neg same]
    exact kept.refl service

theorem reconcile (mode : ReconcileMode) (rows : RowSet) (policy : RetryPolicy) (attempts : Nat)
    (cancelled : Bool) :
    Link service (service.reconcile mode rows policy attempts cancelled).1 := by
  have asked := kept.reachVersion service
  unfold Service.reconcile
  generalize service.reachVersion = result at asked
  obtain ⟨moment, current⟩ := result
  simp only
  split
  · exact kept.trans asked (kept.handOverAs moment _ _ _)
  · cases mode with
    | strict => exact asked
    | rederive =>
        have imported := kept.trans asked (kept.reachImport moment rows rows.version current)
        simp only
        generalize moment.reachImport rows rows.version current = result at imported
        obtain ⟨later, outcome⟩ := result
        cases outcome with
        | error failure => exact imported
        | ok found =>
            simp only
            split
            · exact kept.trans imported (kept.handOverAs later _ _ _)
            · exact imported

end KeptByOrigins

namespace KeptByCalls

variable (kept : KeptByCalls Link) (service : Service)

include kept

theorem failOnWorker (attempt : Attempt) (failure : CallFailure) :
    Link service (service.failOnWorker attempt failure).1 := by
  cases failure with
  | refused error => exact kept.refl service
  | panicked message => exact kept.panicked service attempt message

theorem evaluateAttempt (attempt : Attempt) : Link service (service.evaluateAttempt attempt).1 := by
  have opened := kept.reachSnapshot service none
  unfold Service.evaluateAttempt
  generalize service.reachSnapshot none = result at opened
  obtain ⟨moment, snapshot⟩ := result
  cases snapshot with
  | error failure => exact kept.trans opened (kept.failOnWorker moment attempt failure)
  | ok snapshot =>
      have evaluated := kept.trans opened (kept.reachRows moment snapshot attempt.predicate)
      simp only
      generalize moment.reachRows snapshot attempt.predicate = result at evaluated
      obtain ⟨later, rows⟩ := result
      cases rows with
      | error failure =>
          exact kept.trans (kept.trans evaluated (kept.released later snapshot))
            (kept.failOnWorker _ attempt failure)
      | ok rows =>
          have hooked := kept.trans evaluated (kept.runHook later attempt rows.version)
          simp only
          generalize later.runHook attempt rows.version = result at hooked
          obtain ⟨last, panic⟩ := result
          cases panic with
          | none => exact hooked
          | some message =>
              exact kept.trans (kept.trans hooked (kept.released last snapshot))
                (kept.panicked _ attempt message)

end KeptByCalls

end SnapshotQuery.Service
