import SnapshotQuery.Service.Reconciliation

/-!
# Commands

A session is a script of commands on one service.  Snapshots, row sets, views,
dispatchers, origins and queries go by name in it.
-/

namespace SnapshotQuery

structure QueryScript where
  predicate : Predicate
  policy : Option RetryPolicy
  /-- Without a policy the default of the origin is used, not `indefinite`. -/
  usesDefaultPolicy : Bool
  /-- The actions of each run of the background hook; later runs do nothing. -/
  hook : Option (List (List Action))
  keep : Option String
  onSuccess : List Action
  onError : List Action

inductive Command where
  | write (script : Script)
  | collect
  | schema
  | openSnapshot (name : String) (version : Option VersionStamp)
  | unpinned (name : String) (version : VersionStamp)
  | copySnapshot (source name : String)
  | dropSnapshot (name : String)
  | evaluate (snapshot : String) (predicate : Predicate) (name : Option String)
  | importRows (set : String) (source target : VersionStamp) (name : Option String)
  | enterRows (name : String) (rows : RowSet)
  | readRow (snapshot : String) (row : RowId)
  /-- Replace the faults waiting for a method. -/
  | expectFaults (method : Method) (faults : List Fault)
  | handOver (set : String) (target : VersionStamp) (name : Option String)
  | reconcile (set : String) (mode : ReconcileMode) (policy : RetryPolicy) (attempts : Nat)
      (cancelled : Bool) (name : Option String)
  | showView (name : String)
  | viewDocument (name : String) (index : Nat)
  | dropView (name : String)
  | addDispatcher (name : String) (config : Config) (shared : Option String)
  | close (dispatcher : String)
  | showDispatcher (name : String)
  | addOrigin (name dispatcher : String) (config : Config)
  | dropOrigin (name : String)
  | submit (name origin : String) (query : QueryScript)
  | cancel (query : String)
  | settle
  | poll (origin : String)
  | drive (origin : String) (rounds : Nat)
  | runUntilIdle (origin : String)
  | showOrigin (name : String)

inductive Reply where
  | nothing
  | missing (name : String)
  | flag (flag : Bool)
  | written (report : WriteReport)
  | collected (result : Except StoreError GcReport)
  | schema (schema : TableSchema)
  | opened (result : Except StoreError VersionStamp)
  | rows (result : Except StoreError RowSet)
  | document (result : Except QueryError (Option Value))
  | handedOver (result : Except QueryError ViewReport)
  | reconciled (mode : ReconcileMode) (outcome : Reconciliation) (seen : Option ViewReport)
  | view (seen : Option ViewReport)
  | dispatcher (dispatcher : Dispatcher)
  | dispatcherState (dispatcher : Dispatcher) (busy : List (String × Bool)) (metrics : Metrics)
  /-- A callback panicked, or a pool cannot be built. -/
  | panicked (message : String)
  | origin (settings : OriginSettings) (version : VersionStamp)
  | originState (live : Nat) (queries : List (String × Option RequestState × Bool))
      (metrics : Metrics)
  | submitted (request : RequestId) (live : Nat) (state : Option RequestState)
  | cancelled (first : Option Bool)
  | polled (handled live : Nat)
  | driven (handled : List Nat) (live : Nat)
  | idle (live : Nat)

end SnapshotQuery
