import SnapshotQuery.Store.RowSet

/-!
# Store errors

What a store refuses.  No store error goes away by asking again.
-/

namespace SnapshotQuery

inductive StoreError where
  | invalidPredicate (reason : String)
  | invalidDocument (reason : String)
  /-- The version is not retained, or does not exist yet. -/
  | snapshotUnavailable (requested horizon current : VersionStamp)
  /-- The rows were not computed at `source`, or `source` is later than `target`. -/
  | divergentHistory (source target : VersionStamp)
  | rowNotFound (row : RowId)
  | internal (reason : String)
deriving DecidableEq, Inhabited

namespace StoreError

def code : StoreError → String
  | invalidPredicate _ => "AERO_INVALID_PREDICATE"
  | invalidDocument _ => "AERO_INVALID_DOCUMENT"
  | snapshotUnavailable _ _ _ => "AERO_SNAPSHOT_UNAVAILABLE"
  | divergentHistory _ _ => "AERO_DIVERGENT_HISTORY"
  | rowNotFound _ => "AERO_ROW_NOT_FOUND"
  | internal _ => "AERO_STORE_INTERNAL"

def message : StoreError → String
  | invalidPredicate reason => "Invalid predicate: " ++ reason
  | invalidDocument reason => "Invalid document: " ++ reason
  | snapshotUnavailable requested horizon current =>
      "Snapshot at " ++ VersionStamp.text requested ++ " unavailable (retained " ++
        VersionStamp.text horizon ++ "..=" ++ VersionStamp.text current ++ ")"
  | divergentHistory source target =>
      "Divergent history: cannot import from " ++ VersionStamp.text source ++ " into " ++
        VersionStamp.text target
  | rowNotFound row => "Row not found: " ++ RowId.text row
  | internal reason => "Internal store error: " ++ reason

def isRetryable (_ : StoreError) : Bool := false

def lockPoisoned : StoreError := internal "Lock poisoned"

end StoreError

end SnapshotQuery
