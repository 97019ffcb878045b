import SnapshotQuery.Value.Basic

/-!
# Metrics

Counters of the query service.  They only grow, and dispatchers and contexts
may share one set of them.
-/

namespace SnapshotQuery

/-- The operational counters. -/
structure Metrics where
  submitted : Nat
  attempts : Nat
  retries : Nat
  versionMismatches : Nat
  rederived : Nat
  converged : Nat
  failed : Nat
  cancelled : Nat
  droppedMessages : Nat
deriving DecidableEq, Inhabited

inductive Counter where
  | submitted
  | attempts
  | retries
  | versionMismatches
  | rederived
  | converged
  | failed
  | cancelled
  | droppedMessages
deriving DecidableEq, Inhabited

def Counter.name : Counter → String
  | submitted => "submitted"
  | attempts => "attempts"
  | retries => "retries"
  | versionMismatches => "version_mismatches"
  | rederived => "rederived"
  | converged => "converged"
  | failed => "failed"
  | cancelled => "cancelled"
  | droppedMessages => "dropped_messages"

def Counter.all : List Counter :=
  [submitted, attempts, retries, versionMismatches, rederived, converged, failed, cancelled,
    droppedMessages]

namespace Metrics

def zero : Metrics := ⟨0, 0, 0, 0, 0, 0, 0, 0, 0⟩

def get (metrics : Metrics) : Counter → Nat
  | .submitted => metrics.submitted
  | .attempts => metrics.attempts
  | .retries => metrics.retries
  | .versionMismatches => metrics.versionMismatches
  | .rederived => metrics.rederived
  | .converged => metrics.converged
  | .failed => metrics.failed
  | .cancelled => metrics.cancelled
  | .droppedMessages => metrics.droppedMessages

def increment (metrics : Metrics) : Counter → Metrics
  | .submitted => { metrics with submitted := metrics.submitted + 1 }
  | .attempts => { metrics with attempts := metrics.attempts + 1 }
  | .retries => { metrics with retries := metrics.retries + 1 }
  | .versionMismatches => { metrics with versionMismatches := metrics.versionMismatches + 1 }
  | .rederived => { metrics with rederived := metrics.rederived + 1 }
  | .converged => { metrics with converged := metrics.converged + 1 }
  | .failed => { metrics with failed := metrics.failed + 1 }
  | .cancelled => { metrics with cancelled := metrics.cancelled + 1 }
  | .droppedMessages => { metrics with droppedMessages := metrics.droppedMessages + 1 }

@[simp]
theorem get_increment (metrics : Metrics) (counter other : Counter) :
    (metrics.increment counter).get other =
      metrics.get other + if other = counter then 1 else 0 := by
  cases counter <;> cases other <;> rfl

def toValue (metrics : Metrics) : Value :=
  .ofFields (Counter.all.map fun counter => (counter.name, .nat (metrics.get counter)))

end Metrics

end SnapshotQuery
