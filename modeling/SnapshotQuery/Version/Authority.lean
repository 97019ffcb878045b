import SnapshotQuery.Version.Stamp

/-!
# Commit authority

Versions are assigned one by one in strict order: a commit is accepted only if
it carries the version right after the highest committed one.
-/

namespace SnapshotQuery

structure CommitAuthority where
  highest : VersionStamp
deriving DecidableEq, Inhabited

/-- A commit that does not carry the next version. -/
structure OutOfOrder where
  attempted : VersionStamp
  expected : VersionStamp
deriving DecidableEq

def OutOfOrder.message (refusal : OutOfOrder) : String :=
  "Out of order commit: attempted " ++ toString refusal.attempted ++ " but expected " ++
    toString refusal.expected

namespace CommitAuthority

def new : CommitAuthority := ⟨VersionStamp.initial⟩

/-- The counter after a version that is committed already. -/
def resumeFrom (version : VersionStamp) : CommitAuthority := ⟨version⟩

def current (authority : CommitAuthority) : VersionStamp := authority.highest

def nextVersion (authority : CommitAuthority) : VersionStamp :=
  VersionStamp.next authority.highest

def markCommitted (authority : CommitAuthority) (version : VersionStamp) :
    Except OutOfOrder CommitAuthority :=
  if version = authority.nextVersion then .ok ⟨version⟩
  else .error ⟨version, authority.nextVersion⟩

end CommitAuthority

end SnapshotQuery
