import SnapshotQuery.Proofs.Retention.Accounts
import SnapshotQuery.Proofs.Store.Changes

/-!
# Snapshot isolation

Readers hold copies of snapshots while writers commit and collections run.  As
long as one copy of a snapshot is held, every read of it answers what it
answered when the snapshot was opened.
-/

namespace SnapshotQuery

/-- A store with the copies of snapshots that its readers hold. -/
structure SharedStore where
  store : Store
  held : List Snapshot

/-- A call on a shared store. -/
inductive SharedCall where
  | write (script : Script)
  | collect
  /-- Open a snapshot, at the current version if none is named. -/
  | openSnapshot (version : Option VersionStamp)
  /-- Make one more copy of a snapshot that is held. -/
  | copy (snapshot : Snapshot)
  /-- Drop one copy of a snapshot that is held. -/
  | drop (snapshot : Snapshot)

namespace SharedStore

/-- An empty store that nobody reads. -/
def new (schema : TableSchema) : SharedStore := ⟨Store.new schema, []⟩

/-- The store and the copies after a call; a call that fails changes nothing. -/
def after (shared : SharedStore) : SharedCall → SharedStore
  | .write script => { shared with store := (shared.store.write script).1 }
  | .collect =>
      match shared.store.collect with
      | .ok (store, _) => { shared with store }
      | .error _ => shared
  | .openSnapshot version =>
      match shared.store.openSnapshot version with
      | .ok (snapshot, store) => ⟨store, snapshot :: shared.held⟩
      | .error _ => shared
  | .copy snapshot =>
      if snapshot ∈ shared.held then
        ⟨{ shared.store with retention := shared.store.retention.share snapshot },
          snapshot :: shared.held⟩
      else shared
  | .drop snapshot =>
      if snapshot ∈ shared.held then
        ⟨shared.store.release snapshot, shared.held.erase snapshot⟩
      else shared

/-- The call is no write that panics. -/
def Calm (shared : SharedStore) : SharedCall → Prop
  | .write script => ∀ message, (shared.store.write script).2.commit ≠ .panicked message
  | _ => True

/-- The states calls lead to when no write panics. -/
inductive Reaches : SharedStore → SharedStore → Prop
  | start {shared} : Reaches shared shared
  | call {first shared} (call : SharedCall) (earlier : Reaches first shared)
      (calm : shared.Calm call) : Reaches first (shared.after call)

/-- The pins agree with the copies held, and every version that is held can be read. -/
structure Sound (shared : SharedStore) : Prop where
  unpoisoned : shared.store.poisoned = false
  accounts : shared.store.retention.Accounts shared.held
  retained : ∀ snapshot ∈ shared.held, shared.store.Retained snapshot.version

variable {shared : SharedStore} {snapshot : Snapshot}

theorem Sound.new (schema : TableSchema) : (SharedStore.new schema).Sound where
  unpoisoned := rfl
  accounts := Retention.accounts_empty
  retained _ member := by simp [SharedStore.new] at member

/-- What holds from one state to a later one: the books stay sound, and the documents a copy
shows that is still held stay as they were.  A snapshot opened in between has a pin given out in
between. -/
structure Continues (before after : SharedStore) : Prop where
  sound : after.Sound
  schema : after.store.schema = before.store.schema
  nextPin_le : before.store.retention.nextPin ≤ after.store.retention.nextPin
  documents : ∀ snapshot ∈ after.held, ∀ pin, snapshot.pin = some pin →
    pin < before.store.retention.nextPin → snapshot ∈ before.held ∧
      ∀ row, after.store.documentAt? row snapshot.version =
        before.store.documentAt? row snapshot.version

theorem Sound.continues_self (sound : shared.Sound) : Continues shared shared :=
  ⟨sound, rfl, Nat.le_refl _, fun _ member _ _ _ => ⟨member, fun _ => rfl⟩⟩

theorem Continues.trans {first middle last : SharedStore} (earlier : Continues first middle)
    (later : Continues middle last) : Continues first last where
  sound := later.sound
  schema := later.schema.trans earlier.schema
  nextPin_le := Nat.le_trans earlier.nextPin_le later.nextPin_le
  documents snapshot member pin pinOf given := by
    obtain ⟨between, laterSame⟩ :=
      later.documents snapshot member pin pinOf (Nat.lt_of_lt_of_le given earlier.nextPin_le)
    obtain ⟨before, earlierSame⟩ := earlier.documents snapshot between pin pinOf given
    exact ⟨before, fun row => (laterSame row).trans (earlierSame row)⟩

theorem Sound.continues_write (sound : shared.Sound) {script : Script}
    (calm : shared.Calm (.write script)) : Continues shared (shared.after (.write script)) := by
  have wrote := shared.store.wrote_write script
  simp only [after]
  simp only [Calm] at calm
  generalize shared.store.write script = written at wrote calm
  obtain ⟨store, report⟩ := written
  cases wrote with
  | refused poisoned => exact absurd (sound.unpoisoned.symm.trans poisoned) Bool.false_ne_true
  | panicked _ _ => exact absurd rfl (calm _)
  | failed _ _ => exact sound.continues_self
  | aborted _ _ _ => exact sound.continues_self
  | unchanged _ _ _ _ => exact sound.continues_self
  | committed _ _ _ _ =>
      refine ⟨⟨sound.unpoisoned, sound.accounts, ?_⟩, rfl, Nat.le_refl _, ?_⟩
      · intro snapshot member
        obtain ⟨above, below⟩ := sound.retained snapshot member
        exact ⟨above, Nat.le_succ_of_le below⟩
      · intro snapshot member _ _ _
        exact ⟨member, fun row => shared.store.documentAt?_afterCommit _ row
          (sound.retained snapshot member).2⟩

theorem Sound.continues_collect (sound : shared.Sound) :
    Continues shared (shared.after .collect) := by
  simp only [after]
  cases collected : shared.store.collect with
  | error refusal => exact sound.continues_self
  | ok result =>
      obtain ⟨store, report⟩ := result
      obtain ⟨_, reclaimed⟩ := (shared.store.collect_eq_ok_iff store report).mp collected
      obtain ⟨rfl, rfl⟩ := Prod.mk.inj reclaimed
      have floor_le : ∀ snapshot ∈ shared.held,
          shared.store.retention.floor.collectionFloor shared.store.authority.current ≤
            snapshot.version :=
        fun snapshot member => sound.accounts.collectionFloor_le member _
      refine ⟨⟨sound.unpoisoned, sound.accounts, ?_⟩, rfl, Nat.le_refl _, ?_⟩
      · intro snapshot member
        obtain ⟨above, below⟩ := sound.retained snapshot member
        exact ⟨Nat.max_le.mpr ⟨above, floor_le snapshot member⟩, below⟩
      · intro snapshot member _ _ _
        exact ⟨member, fun row => shared.store.documentAt?_reclaim row (floor_le snapshot member)⟩

theorem Sound.continues_openSnapshot (sound : shared.Sound) (version : Option VersionStamp) :
    Continues shared (shared.after (.openSnapshot version)) := by
  simp only [after]
  cases opening : shared.store.openSnapshot version with
  | error refusal => exact sound.continues_self
  | ok result =>
      obtain ⟨snapshot, store⟩ := result
      obtain ⟨_, retained, opened⟩ :=
        (shared.store.openSnapshot_eq_ok_iff version snapshot store).mp opening
      obtain ⟨rfl, rfl⟩ := Prod.mk.inj opened
      refine ⟨⟨sound.unpoisoned, sound.accounts.acquire _, ?_⟩, rfl, Nat.le_succ _, ?_⟩
      · intro other member
        rcases List.mem_cons.mp member with rfl | old
        · exact retained
        · exact sound.retained other old
      · intro other member pin pinOf given
        rcases List.mem_cons.mp member with rfl | old
        · -- Its pin is the one that was due.
          exact absurd given (Nat.not_lt.mpr (Nat.le_of_eq (Option.some.inj pinOf)))
        · exact ⟨old, fun _ => rfl⟩

theorem Sound.continues_copy (sound : shared.Sound) (snapshot : Snapshot) :
    Continues shared (shared.after (.copy snapshot)) := by
  simp only [after]
  split
  · rename_i member
    have inside : ∀ other ∈ snapshot :: shared.held, other ∈ shared.held := by
      intro other among
      rcases List.mem_cons.mp among with rfl | old
      · exact member
      · exact old
    exact ⟨⟨sound.unpoisoned, sound.accounts.share member,
      fun other among => sound.retained other (inside other among)⟩, rfl,
      Nat.le_of_eq (Retention.nextPin_share _ snapshot).symm,
      fun other among _ _ _ => ⟨inside other among, fun _ => rfl⟩⟩
  · exact sound.continues_self

theorem Sound.continues_drop (sound : shared.Sound) (snapshot : Snapshot) :
    Continues shared (shared.after (.drop snapshot)) := by
  simp only [after]
  split
  · rename_i member
    have inside : ∀ other ∈ shared.held.erase snapshot, other ∈ shared.held :=
      fun other => List.mem_of_mem_erase
    exact ⟨⟨sound.unpoisoned, sound.accounts.release member,
      fun other among => sound.retained other (inside other among)⟩, rfl,
      Nat.le_of_eq (Retention.nextPin_release _ snapshot).symm,
      fun other among _ _ _ => ⟨inside other among, fun _ => rfl⟩⟩
  · exact sound.continues_self

/-- One call continues a sound state. -/
theorem Sound.continues_after (sound : shared.Sound) {call : SharedCall}
    (calm : shared.Calm call) : Continues shared (shared.after call) := by
  cases call with
  | write script => exact sound.continues_write calm
  | collect => exact sound.continues_collect
  | openSnapshot version => exact sound.continues_openSnapshot version
  | copy snapshot => exact sound.continues_copy snapshot
  | drop snapshot => exact sound.continues_drop snapshot

/-- Any sequence of calls continues a sound state. -/
theorem Sound.continues_of_reaches {first last : SharedStore} (sound : first.Sound)
    (run : first.Reaches last) : Continues first last := by
  induction run with
  | start => exact sound.continues_self
  | call _ _ calm inductionHypothesis =>
      exact inductionHypothesis.trans (inductionHypothesis.sound.continues_after calm)

theorem Sound.evaluate_eq (sound : shared.Sound) (member : snapshot ∈ shared.held)
    {predicate : Predicate} (valid : predicate.check shared.store.schema = .ok ()) :
    shared.store.evaluate snapshot predicate =
      .ok ⟨snapshot.version, shared.store.rowsMatching predicate snapshot.version⟩ :=
  (shared.store.evaluate_eq_ok_iff _ _ _).mpr
    ⟨valid, sound.unpoisoned, sound.retained snapshot member, rfl⟩

theorem Sound.readRow_eq (sound : shared.Sound) (member : snapshot ∈ shared.held) (row : RowId) :
    shared.store.readRow snapshot row = .ok (shared.store.documentAt? row snapshot.version) :=
  (shared.store.readRow_eq_ok_iff _ _ _).mpr
    ⟨sound.unpoisoned, sound.retained snapshot member, rfl⟩

/-- Snapshot isolation: whatever is written, collected, opened and dropped after a snapshot was
opened, as long as a copy of it is held its reads succeed and answer what they answered then. -/
theorem reads_stable {schema : TableSchema} {before later : SharedStore}
    {version : Option VersionStamp} {snapshot : Snapshot} {opened : Store}
    (run : (SharedStore.new schema).Reaches before)
    (opening : before.store.openSnapshot version = .ok (snapshot, opened))
    (rest : SharedStore.Reaches ⟨opened, snapshot :: before.held⟩ later)
    (alive : snapshot ∈ later.held)
    {predicate : Predicate} (valid : predicate.check schema = .ok ()) (row : RowId) :
    (∃ rows, opened.evaluate snapshot predicate = .ok rows ∧
      later.store.evaluate snapshot predicate = .ok rows) ∧
    (∃ document, opened.readRow snapshot row = .ok document ∧
      later.store.readRow snapshot row = .ok document) := by
  have earlier := (Sound.new schema).continues_of_reaches run
  have opening_after :
      before.after (.openSnapshot version) = ⟨opened, snapshot :: before.held⟩ := by
    simp only [after, opening]
  have step : Continues before ⟨opened, snapshot :: before.held⟩ :=
    opening_after ▸ earlier.sound.continues_openSnapshot version
  have start := earlier.trans step
  have finish := start.sound.continues_of_reaches rest
  have member : snapshot ∈ snapshot :: before.held := List.mem_cons_self
  obtain ⟨pin, pinOf, given⟩ := start.sound.accounts.pinned snapshot member
  obtain ⟨-, same⟩ := finish.documents snapshot alive pin pinOf given
  have schemaThen : opened.schema = schema := start.schema
  have schemaNow : later.store.schema = schema := finish.schema.trans schemaThen
  constructor
  · refine ⟨_, start.sound.evaluate_eq member (schemaThen.symm ▸ valid), ?_⟩
    rw [finish.sound.evaluate_eq alive (schemaNow.symm ▸ valid), Store.rowsMatching_congr same]
  · refine ⟨_, start.sound.readRow_eq member row, ?_⟩
    rw [finish.sound.readRow_eq alive row, same row]

/-- A table of items with a rank. -/
def rankedItems : TableSchema := (TableSchema.new "items").declare "rank" .int

def insertRank (rank : Nat) : Script := ⟨[.insert (.ofFields [("rank", .nat rank)])], false, none⟩

def clearItems : Script := ⟨[.clear], false, none⟩

/-- One of two copies of a snapshot is dropped, and all rows are deleted and collected. -/
theorem reads_stable_after_clear :
    let snapshot : Snapshot := ⟨1, some 0⟩
    let before := (new rankedItems).after (.write (insertRank 5))
    let opened := before.after (.openSnapshot none)
    let later := (((opened.after (.copy snapshot)).after (.drop snapshot)).after
      (.write clearItems)).after .collect
    snapshot ∈ later.held ∧ later.store.authority.current = 2 ∧
      (∃ rows, opened.store.evaluate snapshot .all = .ok rows ∧
        later.store.evaluate snapshot .all = .ok rows) ∧
      (∃ document, opened.store.readRow snapshot 1 = .ok document ∧
        later.store.readRow snapshot 1 = .ok document) := by
  intro snapshot before opened later
  have written : (new rankedItems).Calm (.write (insertRank 5)) := by
    intro message
    exact nofun
  have cleared :
      ((opened.after (.copy snapshot)).after (.drop snapshot)).Calm (.write clearItems) := by
    intro message
    exact nofun
  have run : (new rankedItems).Reaches before := .call _ .start written
  have rest : opened.Reaches later :=
    .call .collect (.call _ (.call (.drop snapshot) (.call (.copy snapshot) .start trivial) trivial)
      cleared) trivial
  have opening : before.store.openSnapshot none = .ok (snapshot, opened.store) := rfl
  have alive : snapshot ∈ later.held := by decide
  exact ⟨alive, rfl, reads_stable run opening rest alive rfl 1⟩

end SharedStore

end SnapshotQuery
