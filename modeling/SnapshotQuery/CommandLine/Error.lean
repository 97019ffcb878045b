import SnapshotQuery.Query.Error

/-!
# Command errors

A command that fails reports a code and a message, and the process ends with
a failure.
-/

namespace SnapshotQuery

inductive CommandError where
  | config (message : String)
  /-- Reading or printing failed. -/
  | io (message : String)
  | simulation (message : String)
deriving DecidableEq, Inhabited

namespace CommandError

def code : CommandError → String
  | config _ => "AERO_CLI_CONFIG_ERROR"
  | io _ => "AERO_CLI_IO_ERROR"
  | simulation _ => "AERO_CLI_SIMULATION_FAILED"

def message : CommandError → String
  | config message | io message | simulation message => message

def line (error : CommandError) : String := error.code ++ ": " ++ error.message

def ofQuery : QueryError → CommandError
  | .config reason => config (QueryError.config reason).message
  | error => simulation error.message

def ofStore (error : StoreError) : CommandError := ofQuery (.store error)

end CommandError

/-- Why a command does not succeed. -/
inductive CommandFailure where
  | reported (error : CommandError)
  | panicked (message : String)

end SnapshotQuery
