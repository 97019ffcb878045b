import SnapshotQuery.Proofs.Service.Interlude
import SnapshotQuery.Proofs.Service.Keeping

/-!
# Store calls of queries

Whatever comes between a query and the store, a call is an interlude: only what
the interposed actions do can be noticed.  The same holds for evaluations,
reconciliations and the inspection of views, which are made of such calls.
-/

namespace SnapshotQuery.Service

theorem interlude_take {service : Service} {method : Method} {fault : Fault} {rest : List Fault}
    (waiting : service.faults method = fault :: rest) :
    Interlude [] service { service with
      faults := fun other => if other = method then rest else service.faults other } := by
  have same := Interlude.refl service
  refine ⟨rfl, rfl, rfl, rfl, rfl, rfl, same.cancelled, same.wakeUps, same.told, ?_, same.store⟩
  intro other
  by_cases here : other = method
  · simp only [here, waiting]
    exact List.subset_cons_self _ _
  · simp only [if_neg here]
    exact List.Subset.refl _

/-- Queries are interludes to each other. -/
theorem Interlude.kept : KeptByCalls (Interlude []) where
  refl := .refl
  trans earlier later := earlier.then later
  act := interlude_act
  hookRan service _ _ := service.interlude_observe rfl
  taken := interlude_take
  opened := interlude_openSnapshot
  released := interlude_release
  panicked service _ _ := service.interlude_report _

variable (service : Service)

theorem interlude_actAll (actions : List Action) :
    Interlude [] service (service.actAll actions).1 :=
  Interlude.kept.actAll service actions

theorem interlude_interrupt (method : Method) :
    Interlude [] service (service.interrupt method).1 :=
  Interlude.kept.interrupt service method

theorem interlude_reachVersion : Interlude [] service service.reachVersion.1 :=
  Interlude.kept.reachVersion service

theorem interlude_reachSnapshot (version : Option VersionStamp) :
    Interlude [] service (service.reachSnapshot version).1 :=
  Interlude.kept.reachSnapshot service version

theorem interlude_reachRows (snapshot : Snapshot) (predicate : Predicate) :
    Interlude [] service (service.reachRows snapshot predicate).1 :=
  Interlude.kept.reachRows service snapshot predicate

theorem interlude_reachImport (rows : RowSet) (source target : VersionStamp) :
    Interlude [] service (service.reachImport rows source target).1 :=
  Interlude.kept.reachImport service rows source target

theorem interlude_reconcile (mode : ReconcileMode) (rows : RowSet) (policy : RetryPolicy)
    (attempts : Nat) (cancelled : Bool) :
    Interlude [] service (service.reconcile mode rows policy attempts cancelled).1 :=
  Interlude.kept.reconcile service mode rows policy attempts cancelled

theorem interlude_inspect (view : View) : Interlude [] service (service.inspect view).1 :=
  Interlude.kept.inspect service view

theorem interlude_failOnWorker (attempt : Attempt) (failure : CallFailure) :
    Interlude [] service (service.failOnWorker attempt failure).1 :=
  Interlude.kept.failOnWorker service attempt failure

theorem interlude_runHook (attempt : Attempt) (version : VersionStamp) :
    Interlude [] service (service.runHook attempt version).1 :=
  Interlude.kept.runHook service attempt version

theorem interlude_evaluateAttempt (attempt : Attempt) :
    Interlude [] service (service.evaluateAttempt attempt).1 :=
  Interlude.kept.evaluateAttempt service attempt

end SnapshotQuery.Service
