import Mathlib.Data.List.Basic
import Mathlib.Data.List.TakeDrop
import SnapshotQuery.Proofs.Store.Backing
import SnapshotQuery.Proofs.Store.Histories

/-!
# Clients of a store

A client makes calls one after the other and keeps the snapshots it opens, in
order of opening.  A snapshot it drops, and one it could not open, stays in its
place without a pin, so that two clients making the same calls have the same
versions in the same places.
-/

namespace SnapshotQuery

/-- A store with the snapshots that have been opened, in order. -/
structure Client where
  store : Store
  snapshots : List Snapshot

/-- A call of a client; snapshots are named by their place. -/
inductive ClientCall where
  | write (script : Script)
  | collect
  | openSnapshot (version : Option VersionStamp)
  | unpinned (version : VersionStamp)
  | copy (place : Nat)
  | drop (place : Nat)
  | evaluate (place : Nat) (predicate : Predicate)
  | readRow (place : Nat) (row : RowId)
  | importRows (set : RowSet) (source target : VersionStamp)
  | liveRows
  | currentVersion

inductive ClientAnswer where
  | wrote (report : WriteReport)
  | collected (result : Except StoreError GcReport)
  | opened (result : Except StoreError VersionStamp)
  | rows (result : Except StoreError RowSet)
  | document (result : Except StoreError (Option Value))
  | count (result : Except StoreError Nat)
  | version (version : VersionStamp)
  | done
  /-- There is no snapshot at the place. -/
  | missing

namespace ClientAnswer

/-- A transaction committed. -/
def isCommit : ClientAnswer → Bool
  | wrote ⟨_, .committed _ _⟩ => true
  | _ => false

/-- A transaction panicked. -/
def isPanic : ClientAnswer → Bool
  | wrote ⟨_, .panicked _⟩ => true
  | _ => false

end ClientAnswer

namespace Client

def new (schema : TableSchema) : Client := ⟨Store.new schema, []⟩

/-- The client with one more snapshot. -/
def keep (client : Client) (snapshot : Snapshot) : Client :=
  { client with snapshots := client.snapshots ++ [snapshot] }

def collect (client : Client) : Client × ClientAnswer :=
  match client.store.collect with
  | .ok (store, report) => ({ client with store }, .collected (.ok report))
  | .error error => (client, .collected (.error error))

def openSnapshot (client : Client) (version : Option VersionStamp) : Client × ClientAnswer :=
  match client.store.openSnapshot version with
  | .ok (snapshot, store) =>
      ({ client with store }.keep snapshot, .opened (.ok snapshot.version))
  | .error error =>
      (client.keep (.unpinned (version.getD client.store.authority.current)),
        .opened (.error error))

def copy (client : Client) (snapshot : Snapshot) : Client :=
  let retention := client.store.retention.share snapshot
  { client with store := { client.store with retention } }.keep snapshot

def drop (client : Client) (place : Nat) (snapshot : Snapshot) : Client :=
  ⟨client.store.release snapshot, client.snapshots.set place (.unpinned snapshot.version)⟩

def call (client : Client) : ClientCall → Client × ClientAnswer
  | .write script =>
      ({ client with store := (client.store.write script).1 },
        .wrote (client.store.write script).2)
  | .collect => client.collect
  | .openSnapshot version => client.openSnapshot version
  | .unpinned version => (client.keep (.unpinned version), .done)
  | .copy place =>
      match client.snapshots[place]? with
      | some snapshot => (client.copy snapshot, .done)
      | none => (client, .missing)
  | .drop place =>
      match client.snapshots[place]? with
      | some snapshot => (client.drop place snapshot, .done)
      | none => (client, .missing)
  | .evaluate place predicate =>
      match client.snapshots[place]? with
      | some snapshot => (client, .rows (client.store.evaluate snapshot predicate))
      | none => (client, .missing)
  | .readRow place row =>
      match client.snapshots[place]? with
      | some snapshot => (client, .document (client.store.readRow snapshot row))
      | none => (client, .missing)
  | .importRows set source target =>
      (client, .rows (client.store.importRows set source target))
  | .liveRows => (client, .count client.store.liveRows)
  | .currentVersion => (client, .version client.store.currentVersion)

/-- What a call does to a store: a transaction, a collection, or some change of pins. -/
inductive Called (client : Client) : ClientCall → Client → ClientAnswer → Prop
  | wrote {script store report} (wrote : client.store.Wrote script store report) :
      Called client (.write script) { client with store } (.wrote report)
  | collected {store report} (collecting : client.store.collect = .ok (store, report)) :
      Called client .collect { client with store } (.collected (.ok report))
  | pinned {call retention snapshots answer} (quiet : answer.isCommit = false)
      (calm : answer.isPanic = false) :
      Called client call ⟨{ client.store with retention }, snapshots⟩ answer

theorem called_call (client : Client) (call : ClientCall) :
    client.Called call (client.call call).1 (client.call call).2 := by
  cases call with
  | write script => exact .wrote (client.store.wrote_write script)
  | collect =>
      simp only [Client.call, collect]
      cases collecting : client.store.collect with
      | error refusal => exact .pinned rfl rfl
      | ok result => exact .collected collecting
  | openSnapshot version =>
      simp only [Client.call, openSnapshot]
      cases opening : client.store.openSnapshot version with
      | error refusal => exact .pinned rfl rfl
      | ok result =>
          obtain ⟨snapshot, store⟩ := result
          obtain ⟨_, _, opened⟩ := (client.store.openSnapshot_eq_ok_iff version _ _).mp opening
          obtain ⟨rfl, rfl⟩ := Prod.mk.inj opened
          exact .pinned rfl rfl
  | copy place =>
      simp only [Client.call]
      cases client.snapshots[place]? <;> exact .pinned rfl rfl
  | drop place =>
      simp only [Client.call]
      cases client.snapshots[place]? <;> exact .pinned rfl rfl
  | evaluate place predicate =>
      simp only [Client.call]
      cases client.snapshots[place]? <;> exact .pinned rfl rfl
  | readRow place row =>
      simp only [Client.call]
      cases client.snapshots[place]? <;> exact .pinned rfl rfl
  | unpinned version => exact .pinned rfl rfl
  | importRows set source target => exact .pinned rfl rfl
  | liveRows => exact .pinned rfl rfl
  | currentVersion => exact .pinned rfl rfl

/-- Make calls in order, collecting their answers. -/
def run : List ClientCall → Client → Client × List ClientAnswer
  | [], client => (client, [])
  | call :: rest, client =>
      let (next, answer) := client.call call
      let (last, answers) := run rest next
      (last, answer :: answers)

/-- The client after calls on an empty store. -/
def after (schema : TableSchema) (calls : List ClientCall) : Client := (run calls (new schema)).1

theorem run_cons (call : ClientCall) (rest : List ClientCall) (client : Client) :
    run (call :: rest) client = ((run rest (client.call call).1).1,
      (client.call call).2 :: (run rest (client.call call).1).2) :=
  rfl

theorem run_append (earlier later : List ClientCall) (client : Client) :
    run (earlier ++ later) client =
      ((run later (run earlier client).1).1,
        (run earlier client).2 ++ (run later (run earlier client).1).2) := by
  induction earlier generalizing client with
  | nil => rfl
  | cons call rest inductionHypothesis => simp [run, inductionHypothesis]

theorem after_concat (schema : TableSchema) (calls : List ClientCall) (call : ClientCall) :
    after schema (calls ++ [call]) = ((after schema calls).call call).1 := by
  simp [after, run_append, run]

/-- What the first call keeps and every further one holds after any calls. -/
theorem after_keeps {property : Client → Prop} {schema : TableSchema}
    (start : property (new schema))
    (step : ∀ client call, property client → property (client.call call).1)
    (calls : List ClientCall) : property (after schema calls) := by
  induction calls using List.reverseRecOn with
  | nil => exact start
  | append_singleton earlier call inductionHypothesis =>
      rw [after_concat]
      exact step _ call inductionHypothesis

/-- The rows are in order, and the store keeps what the snapshots need. -/
structure Sound (client : Client) : Prop where
  wellFormed : client.store.WellFormed
  backs : client.store.Backs client.snapshots

variable {client : Client} {snapshot : Snapshot}

theorem Sound.new (schema : TableSchema) : (Client.new schema).Sound :=
  ⟨Store.wellFormed_new schema, Store.backs_new schema⟩

theorem Sound.write (sound : client.Sound) (script : Script) :
    (client.call (.write script)).1.Sound := by
  have wrote := client.store.wrote_write script
  exact ⟨sound.wellFormed.wrote wrote, sound.backs.wrote wrote⟩

theorem Sound.collect (sound : client.Sound) : client.collect.1.Sound := by
  unfold Client.collect
  cases collecting : client.store.collect with
  | error refusal => exact sound
  | ok result => exact ⟨sound.wellFormed.collect collecting, sound.backs.collect collecting⟩

/-- One more snapshot is kept, whatever was done to the pins for it. -/
theorem Sound.keep (sound : client.Sound) {retention : Retention}
    (backs : Store.Backs { client.store with retention } (snapshot :: client.snapshots)) :
    (Client.keep { client with store := { client.store with retention } } snapshot).Sound :=
  ⟨sound.wellFormed.retention retention, backs.perm (List.perm_append_singleton _ _).symm⟩

theorem Sound.keep_unpinned (sound : client.Sound) (version : VersionStamp) :
    (client.keep (.unpinned version)).Sound :=
  sound.keep ((Store.backs_cons_iff rfl).mpr sound.backs)

theorem Sound.openSnapshot (sound : client.Sound) (version : Option VersionStamp) :
    (client.openSnapshot version).1.Sound := by
  unfold Client.openSnapshot
  cases opening : client.store.openSnapshot version with
  | error refusal => exact sound.keep_unpinned _
  | ok result =>
      obtain ⟨snapshot, store⟩ := result
      have backs := sound.backs.openSnapshot opening
      obtain ⟨_, _, opened⟩ := (client.store.openSnapshot_eq_ok_iff version _ _).mp opening
      obtain ⟨rfl, rfl⟩ := Prod.mk.inj opened
      exact sound.keep backs

theorem Sound.copy (sound : client.Sound) {place : Nat}
    (here : client.snapshots[place]? = some snapshot) : (client.copy snapshot).Sound :=
  sound.keep (sound.backs.share (List.mem_of_getElem? here))

/-- A snapshot in its place is one before all others. -/
theorem perm_set {place : Nat} (here : client.snapshots[place]? = some snapshot) :
    ∃ others, client.snapshots.Perm (snapshot :: others) ∧
      ∀ other, (client.snapshots.set place other).Perm (other :: others) := by
  obtain ⟨bound, rfl⟩ := List.getElem?_eq_some_iff.mp here
  refine ⟨client.snapshots.take place ++ client.snapshots.drop (place + 1), ?_, ?_⟩
  · have placed : client.snapshots.take place ++
        client.snapshots[place] :: client.snapshots.drop (place + 1) = client.snapshots := by
      rw [List.cons_getElem_drop_succ, List.take_append_drop]
    exact (List.Perm.of_eq placed.symm).trans List.perm_middle
  · intro other
    rw [List.set_eq_take_append_cons_drop, if_pos bound]
    exact List.perm_middle

theorem Sound.drop (sound : client.Sound) {place : Nat}
    (here : client.snapshots[place]? = some snapshot) : (client.drop place snapshot).Sound := by
  obtain ⟨others, before, after⟩ := perm_set here
  have backs := (sound.backs.perm before).release
  exact ⟨sound.wellFormed.retention _, ((Store.backs_cons_iff rfl).mpr backs).perm (after _).symm⟩

/-- Every call keeps a client sound. -/
theorem Sound.call (sound : client.Sound) (call : ClientCall) : (client.call call).1.Sound := by
  cases call with
  | write script => exact sound.write script
  | collect => exact sound.collect
  | openSnapshot version => exact sound.openSnapshot version
  | unpinned version => exact sound.keep_unpinned version
  | copy place =>
      simp only [Client.call]
      split
      · exact sound.copy ‹_›
      · exact sound
  | drop place =>
      simp only [Client.call]
      split
      · exact sound.drop ‹_›
      · exact sound
  | evaluate place predicate =>
      simp only [Client.call]
      split <;> exact sound
  | readRow place row =>
      simp only [Client.call]
      split <;> exact sound
  | importRows set source target => exact sound
  | liveRows => exact sound
  | currentVersion => exact sound

theorem sound_after (schema : TableSchema) (calls : List ClientCall) :
    (after schema calls).Sound :=
  after_keeps (.new schema) (fun _ call sound => sound.call call) calls

end Client

end SnapshotQuery
