import SnapshotQuery.Log.Severity
import SnapshotQuery.Query.Error
import SnapshotQuery.Query.Retry

/-!
# Configuration

The settings of the query service.  They are read from a JSON text in which
every setting may be left out.
-/

namespace SnapshotQuery

/-- What is tried on a stale result before the retry policy is asked. -/
inductive ReconcileMode where
  | strict
  /-- Bring the rows over to the current version, if all of them still exist. -/
  | rederive
deriving DecidableEq, Inhabited

namespace ReconcileMode

def name : ReconcileMode → String
  | strict => "strict"
  | rederive => "rederive"

def decode : Decoder ReconcileMode :=
  .oneOf [("strict", .plain strict), ("rederive", .plain rederive)]

end ReconcileMode

structure SimulationConfig where
  /-- A background hook runs on at most this many attempts of its request. -/
  maxBackgroundHookRuns : Option Nat
deriving DecidableEq, Inhabited

namespace SimulationConfig

def unlimited : SimulationConfig := ⟨none⟩

structure Draft where
  maxBackgroundHookRuns : Option (Option Nat)

def form : RecordForm Draft where
  name := "struct SimulationConfig"
  mayStopEarly := true
  fields := [
    { name := "max_background_hook_runs"
      given := fun draft => draft.maxBackgroundHookRuns.isSome
      read := fun _ outline => do
        return ⟨some (← Decoder.orNull Decoder.unsigned32 outline)⟩ }]

def decode : Decoder SimulationConfig := fun outline => do
  let draft ← form.decode ⟨none⟩ outline
  return ⟨draft.maxBackgroundHookRuns.getD none⟩

def toValue (config : SimulationConfig) : Value :=
  .ofFields [("max_background_hook_runs", .ofOption .nat config.maxBackgroundHookRuns)]

end SimulationConfig

structure Config where
  /-- Attempts that may be evaluated at the same time. -/
  maxWorkers : Nat
  defaultRetryPolicy : RetryPolicy
  reconcileMode : ReconcileMode
  logLevel : Severity
  simulation : SimulationConfig
deriving DecidableEq, Inhabited

namespace Config

def default : Config where
  maxWorkers := 4
  defaultRetryPolicy := .indefinite
  reconcileMode := .strict
  logLevel := .info
  simulation := .unlimited

/-- Settings being read; each is nothing until it is given. -/
structure Draft where
  maxWorkers : Option Nat
  defaultRetryPolicy : Option RetryPolicy
  reconcileMode : Option ReconcileMode
  logLevel : Option Severity
  simulation : Option SimulationConfig

def form : RecordForm Draft where
  name := "struct AsyncQueryConfig"
  mayStopEarly := true
  fields := [
    { name := "max_workers"
      given := fun draft => draft.maxWorkers.isSome
      read := fun draft outline => do
        return { draft with maxWorkers := some (← Decoder.count outline) } },
    { name := "default_retry_policy"
      given := fun draft => draft.defaultRetryPolicy.isSome
      read := fun draft outline => do
        return { draft with defaultRetryPolicy := some (← RetryPolicy.decode outline) } },
    { name := "reconcile_mode"
      given := fun draft => draft.reconcileMode.isSome
      read := fun draft outline => do
        return { draft with reconcileMode := some (← ReconcileMode.decode outline) } },
    { name := "log_level"
      given := fun draft => draft.logLevel.isSome
      read := fun draft outline => do
        return { draft with logLevel := some (← Severity.decode outline) } },
    { name := "simulation"
      given := fun draft => draft.simulation.isSome
      read := fun draft outline => do
        return { draft with simulation := some (← SimulationConfig.decode outline) } }]

def ofDraft (draft : Draft) : Config where
  maxWorkers := draft.maxWorkers.getD default.maxWorkers
  defaultRetryPolicy := draft.defaultRetryPolicy.getD default.defaultRetryPolicy
  reconcileMode := draft.reconcileMode.getD default.reconcileMode
  logLevel := draft.logLevel.getD default.logLevel
  simulation := draft.simulation.getD default.simulation

def decode : Decoder Config := fun outline => do
  return ofDraft (← form.decode ⟨none, none, none, none, none⟩ outline)

def toValue (config : Config) : Value :=
  .ofFields [
    ("max_workers", .nat config.maxWorkers),
    ("default_retry_policy", config.defaultRetryPolicy.toValue),
    ("reconcile_mode", .string config.reconcileMode.name),
    ("log_level", .string config.logLevel.name),
    ("simulation", config.simulation.toValue)]

def validate (config : Config) : Except QueryError Unit :=
  if config.maxWorkers = 0 then .error (.config "max_workers must be greater than 0") else .ok ()

/-- Read and validate a text. -/
def ofText (text : String) : Except QueryError Config :=
  match Decoder.ofText decode text with
  | .error problem => .error (.config ("invalid config: " ++ problem.message))
  | .ok config =>
      match config.validate with
      | .ok () => .ok config
      | .error error => .error error

def withBackgroundHookRuns (config : Config) (runs : Nat) : Config :=
  { config with simulation := ⟨some runs⟩ }

end Config

end SnapshotQuery
