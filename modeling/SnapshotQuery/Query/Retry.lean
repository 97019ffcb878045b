import SnapshotQuery.Text.Decode

/-!
# Retry policies

A result computed at a stale version is thrown away, and the policy decides
from the retries already spent whether the query is evaluated again.
-/

namespace SnapshotQuery

/-- How often a stale result is computed again. -/
inductive RetryPolicy where
  | noRetry
  | maxRetry (limit : Nat)
  /-- Until the versions agree or the query is cancelled. -/
  | indefinite
deriving DecidableEq, Inhabited

inductive RetryDecision where
  | retry
  | giveUp
deriving DecidableEq, Inhabited

def RetryDecision.name : RetryDecision → String
  | retry => "retry"
  | giveUp => "give_up"

namespace RetryPolicy

def maxRetries? : RetryPolicy → Option Nat
  | noRetry => some 0
  | maxRetry limit => some limit
  | indefinite => none

def allows : RetryPolicy → Nat → Bool
  | noRetry, _ => false
  | maxRetry limit, spent => decide (spent < limit)
  | indefinite, _ => true

/-- Retry within the budget, and never once the query is cancelled. -/
def decide (policy : RetryPolicy) (spent : Nat) (cancelled : Bool) : RetryDecision :=
  if !cancelled && policy.allows spent then .retry else .giveUp

theorem decide_eq_retry_iff (policy : RetryPolicy) (spent : Nat) (cancelled : Bool) :
    policy.decide spent cancelled = .retry ↔
      cancelled = false ∧ ∀ limit ∈ policy.maxRetries?, spent < limit := by
  cases policy <;> cases cancelled <;> simp [decide, allows, maxRetries?]

def name : RetryPolicy → String
  | noRetry => "no_retry"
  | maxRetry _ => "max_retry"
  | indefinite => "indefinite"

def decode : Decoder RetryPolicy :=
  .oneOf [
    ("no_retry", .plain noRetry),
    ("max_retry", .carrying fun outline => (Decoder.unsigned32 outline).map maxRetry),
    ("indefinite", .plain indefinite)]

def toValue : RetryPolicy → Value
  | maxRetry limit => .ofFields [("max_retry", .nat limit)]
  | policy => .string policy.name

end RetryPolicy

end SnapshotQuery
