import SnapshotQuery.Version.Stamp

/-!
# Row sets

Row ids are given out in insertion order and never twice, so they stay valid
from version to version.  A row set is a result: the rows that matched, in
order, and the version it was computed at.
-/

namespace SnapshotQuery

abbrev RowId := Nat

def RowId.text (row : RowId) : String := "row#" ++ toString row

/-- Rows in result order, with the version they were computed at. -/
structure RowSet where
  version : VersionStamp
  rows : List RowId
deriving DecidableEq, Inhabited

namespace RowSet

def size (set : RowSet) : Nat := set.rows.length

def isEmpty (set : RowSet) : Bool := set.rows.isEmpty

end RowSet

end SnapshotQuery
