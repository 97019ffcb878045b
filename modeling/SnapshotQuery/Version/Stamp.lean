/-!
# Version stamps

A stamp names one committed state of a store.  Stamps are totally ordered and
only a commit moves on to the next one.
-/

namespace SnapshotQuery

/-- The identity of a committed state; zero is the store before any commit. -/
abbrev VersionStamp := Nat

namespace VersionStamp

def initial : VersionStamp := 0

def next (stamp : VersionStamp) : VersionStamp := Nat.succ stamp

/-- The greatest stamp of 64 bits. -/
def last : VersionStamp := UInt64.size - 1

def next? (stamp : VersionStamp) : Option VersionStamp :=
  if stamp < last then some (next stamp) else none

def text (stamp : VersionStamp) : String := "v" ++ toString stamp

end VersionStamp

end SnapshotQuery
