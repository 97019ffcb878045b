import SnapshotQuery.Query.Error
import SnapshotQuery.Store.Transaction

/-!
# Callbacks

What the code around a query does when it is called: the background hook of an
attempt, the callbacks of a request, and whatever else happens to come between
two store calls.  Each call is answered by a list of actions.
-/

namespace SnapshotQuery

inductive Action where
  | write (script : Script)
  /-- A write whose failure is logged for the attempt it belongs to. -/
  | reportedWrite (script : Script) (attempt : Nat)
  | collect
  | cancel (query : String)
  /-- Set the token of the query last submitted under a name; its origin is woken later. -/
  | setToken (query : String)
  | close (dispatcher : String)
  | panic (message : Option String)

structure View where
  snapshot : Snapshot
  rows : RowSet
deriving DecidableEq, Inhabited

structure HookRun where
  request : RequestId
  attempt : Nat
  version : VersionStamp
deriving DecidableEq

abbrev Hook := HookRun → List Action

structure SuccessCallback where
  /-- Keep the view under a name; otherwise it is dropped after the actions. -/
  keep : Option String
  actions : View → List Action

abbrev ErrorCallback := QueryError → List Action

end SnapshotQuery
