import SnapshotQuery.Proofs.Store.Client
import SnapshotQuery.Simulation

/-!
# Collections are transparent

Two stores make the same calls, and one of them collects in between.  It knows
less of the past, but from its horizon on it cannot be told from the other one.
-/

namespace SnapshotQuery

namespace Store

/-- A store that is as the full one from its horizon on. -/
structure Thins (thin full : Store) : Prop where
  schema : thin.schema = full.schema
  authority : thin.authority = full.authority
  nextRow : thin.nextRow = full.nextRow
  published : thin.published = full.published
  poisoned : thin.poisoned = full.poisoned
  horizon_le : full.horizon ≤ thin.horizon
  horizon_le_current : thin.horizon ≤ thin.authority.current
  documents : ∀ version, thin.horizon ≤ version → ∀ row,
    thin.documentAt? row version = full.documentAt? row version

theorem thins_new (schema : TableSchema) : (Store.new schema).Thins (Store.new schema) :=
  ⟨rfl, rfl, rfl, rfl, rfl, Nat.le_refl _, Nat.le_refl _, fun _ _ _ => rfl⟩

end Store

namespace Transaction

/-- The same changes, staged atop another store. -/
def atop (transaction : Transaction) (store : Store) : Transaction := { transaction with store }

variable {full : Store} {transaction : Transaction}

theorem base_atop (thins : transaction.store.Thins full) :
    (transaction.atop full).base = transaction.base :=
  congrArg CommitAuthority.current thins.authority.symm

theorem isLive_atop (thins : transaction.store.Thins full) (row : RowId) :
    (transaction.atop full).isLive row = transaction.isLive row := by
  have seen := thins.documents transaction.base thins.horizon_le_current row
  rw [isLive, isLive, base_atop thins, seen]
  rfl

theorem isInserted_atop (thins : transaction.store.Thins full) (row : RowId) :
    (transaction.atop full).isInserted row = transaction.isInserted row :=
  congrArg (fun next : Nat => decide (next ≤ row)) thins.nextRow.symm

theorem checkDocument_atop (thins : transaction.store.Thins full) (document : Value) :
    (transaction.atop full).checkDocument document = transaction.checkDocument document := by
  simp only [checkDocument, atop, thins.schema]

theorem foldl_stage_atop (full : Store) (rows : List (RowId × Value))
    (transaction : Transaction) :
    rows.foldl (fun cleared row => cleared.stage row.1 none) (transaction.atop full) =
      (rows.foldl (fun cleared row => cleared.stage row.1 none) transaction).atop full := by
  induction rows generalizing transaction with
  | nil => rfl
  | cons row rest inductionHypothesis => exact inductionHypothesis (transaction.stage row.1 none)

theorem clear_atop (thins : transaction.store.Thins full) :
    (transaction.atop full).clear = transaction.clear.atop full := by
  have rows : full.rowsAt transaction.base = transaction.store.rowsAt transaction.base :=
    Store.rowsAt_congr fun row => (thins.documents _ thins.horizon_le_current row).symm
  have kept : ({ transaction.atop full with
      staged := transaction.staged.filter fun row _ => row < full.nextRow } : Transaction) =
      ({ transaction with
        staged := transaction.staged.filter fun row _ =>
          row < transaction.store.nextRow } : Transaction).atop full := by
    rw [thins.nextRow]
    rfl
  rw [clear, clear, ← foldl_stage_atop, ← rows, ← kept, base_atop thins]
  rfl

/-- A call sees of a store only its schema, its counters and the rows at its current version. -/
theorem call_atop (thins : transaction.store.Thins full) (call : Call) :
    (transaction.atop full).call call =
      ((transaction.call call).1.atop full, (transaction.call call).2) := by
  cases call with
  | insert document =>
      simp only [Transaction.call, insert, checkDocument_atop thins]
      cases transaction.checkDocument document <;> rfl
  | update row document =>
      simp only [Transaction.call, update, checkDocument_atop thins, isLive_atop thins]
      cases transaction.checkDocument document with
      | error error => rfl
      | ok => cases transaction.isLive row <;> rfl
  | delete row =>
      simp only [Transaction.call, delete, isLive_atop thins, isInserted_atop thins]
      cases transaction.isLive row with
      | false => rfl
      | true => cases transaction.isInserted row <;> rfl
  | clear => exact Prod.ext (clear_atop thins) rfl
  | isLive row => exact Prod.ext rfl (by simp only [Transaction.call, isLive_atop thins])
  | base => exact Prod.ext rfl (by simp only [Transaction.call, base_atop thins])
  | panic message => rfl

theorem run_atop (keepGoing : Bool) (calls : List Call) (thins : transaction.store.Thins full) :
    run keepGoing calls (transaction.atop full) =
      ((run keepGoing calls transaction).1.atop full, (run keepGoing calls transaction).2) := by
  induction calls generalizing transaction with
  | nil => rfl
  | cons call rest inductionHypothesis =>
      have next : (transaction.call call).1.store.Thins full := by
        rw [(transaction.called_call call).store_eq]
        exact thins
      have later := inductionHypothesis next
      unfold run
      rw [call_atop thins]
      generalize transaction.call call = made at later
      obtain ⟨after, result⟩ := made
      cases result with
      | answered answer => simp [later]
      | panicked message => rfl
      | failed error =>
          cases keepGoing with
          | true => simp [later]
          | false => rfl

end Transaction

namespace Store

variable {thin full : Store} {transaction : Transaction}

theorem Thins.start (thins : thin.Thins full) :
    Transaction.start full = (Transaction.start thin).atop full := by
  simp only [Transaction.start, Transaction.atop, thins.nextRow]

theorem Thins.afterCommit (thins : thin.Thins full) (transaction : Transaction) :
    (thin.afterCommit transaction).Thins (full.afterCommit (transaction.atop full)) where
  schema := thins.schema
  authority := by simp only [Store.afterCommit, thins.authority]
  nextRow := rfl
  published := by simp only [Store.afterCommit, thins.authority]
  poisoned := thins.poisoned
  horizon_le := thins.horizon_le
  horizon_le_current := Nat.le_succ_of_le thins.horizon_le_current
  documents version above row := by
    have old := thins.documents version above row
    by_cases known : version ≤ thin.authority.current
    · rw [documentAt?_afterCommit _ _ _ known,
        documentAt?_afterCommit _ _ _ (thins.authority ▸ known), old]
    · have later : thin.authority.nextVersion ≤ version := Nat.lt_of_not_le known
      rw [documentAt?_afterCommit_of_le row later,
        documentAt?_afterCommit_of_le row (thins.authority ▸ later), old]
      rfl

/-- A script does the same to both stores. -/
theorem Thins.write (thins : thin.Thins full) (script : Script) :
    (thin.write script).1.Thins (full.write script).1 ∧
      (thin.write script).2 = (full.write script).2 := by
  have ran : Transaction.run script.keepGoing script.calls (Transaction.start full) = _ :=
    thins.start ▸ Transaction.run_atop script.keepGoing script.calls thins
  simp only [Store.write, lock, ← thins.poisoned, ran]
  cases thin.poisoned with
  | true => exact ⟨thins, rfl⟩
  | false =>
      rcases Transaction.run script.keepGoing script.calls (Transaction.start thin) with
        ⟨transaction, answers, ending⟩
      cases ending with
      | panicked message => exact ⟨{ thins with poisoned := rfl }, rfl⟩
      | failed error => exact ⟨thins, rfl⟩
      | finished =>
          cases script.abort with
          | some error => exact ⟨thins, rfl⟩
          | none =>
              have current : full.authority = thin.authority := thins.authority.symm
              simp only [commit_eq, current]
              cases nothing : transaction.staged.isEmpty with
              | true => simpa [Transaction.atop, nothing] using thins
              | false =>
                  have same : (transaction.atop full).staged.isEmpty = false := nothing
                  simp only [same, Bool.false_eq_true, if_false]
                  exact ⟨thins.afterCommit transaction, rfl⟩

theorem Thins.reclaim (thins : thin.Thins full) {floor : VersionStamp}
    (known : floor ≤ thin.authority.current) : (thin.reclaim floor).1.Thins full where
  schema := thins.schema
  authority := thins.authority
  nextRow := thins.nextRow
  published := thins.published
  poisoned := thins.poisoned
  horizon_le := Nat.le_trans thins.horizon_le (Nat.le_max_left _ _)
  horizon_le_current := Nat.max_le.mpr ⟨thins.horizon_le_current, known⟩
  documents version above row := by
    obtain ⟨old, aboveFloor⟩ := Nat.max_le.mp above
    rw [documentAt?_reclaim thin row aboveFloor, thins.documents version old row]

end Store

/-- The error, whatever horizon it reports. -/
def StoreError.withoutHorizon : StoreError → StoreError
  | snapshotUnavailable requested _ current => snapshotUnavailable requested 0 current
  | error => error

namespace Store

variable {thin full : Store} {version : VersionStamp}

theorem Thins.retention (thins : thin.Thins full) (left right : Retention) :
    ({ thin with retention := left } : Store).Thins { full with retention := right } :=
  { thins with }

theorem Thins.lock (thins : thin.Thins full) : full.lock = thin.lock := by
  rw [Store.lock, Store.lock, thins.poisoned]

/-- From the horizon on, a version is read from both stores or from none. -/
theorem Thins.checkRetained (thins : thin.Thins full) (above : thin.horizon ≤ version) :
    thin.checkRetained version = .ok () ∧ full.checkRetained version = .ok () ∨
      ∃ horizon, thin.checkRetained version =
          .error (.snapshotUnavailable version thin.horizon thin.authority.current) ∧
        full.checkRetained version =
          .error (.snapshotUnavailable version horizon thin.authority.current) := by
  by_cases known : version ≤ thin.authority.current
  · left
    rw [checkRetained_eq_ok_iff, checkRetained_eq_ok_iff]
    exact ⟨⟨above, known⟩, Nat.le_trans thins.horizon_le above, thins.authority ▸ known⟩
  · right
    have later : thin.authority.current < version := Nat.lt_of_not_le known
    have fullLater : full.authority.current < version := thins.authority ▸ later
    refine ⟨full.horizon, ?_, ?_⟩
    · simp [Store.checkRetained, later]
    · simp [Store.checkRetained, fullLater, thins.authority]

theorem Thins.evaluate (thins : thin.Thins full) {left right : Snapshot}
    (same : left.version = right.version) (above : thin.horizon ≤ left.version)
    (predicate : Predicate) :
    (thin.evaluate left predicate).mapError StoreError.withoutHorizon =
      (full.evaluate right predicate).mapError StoreError.withoutHorizon := by
  simp only [Store.evaluate, ← thins.schema, thins.lock, ← same]
  cases predicate.check thin.schema with
  | error fault => rfl
  | ok =>
      cases thin.lock with
      | error refusal => rfl
      | ok =>
          rcases thins.checkRetained above with ⟨thinOk, fullOk⟩ | ⟨horizon, thinBad, fullBad⟩
          · have rows := rowsAt_congr (thins.documents left.version above)
            simp only [thinOk, fullOk, rows]
          · simp only [thinBad, fullBad]
            rfl

theorem Thins.readRow (thins : thin.Thins full) {left right : Snapshot}
    (same : left.version = right.version) (above : thin.horizon ≤ left.version) (row : RowId) :
    (thin.readRow left row).mapError StoreError.withoutHorizon =
      (full.readRow right row).mapError StoreError.withoutHorizon := by
  simp only [Store.readRow, thins.lock, ← same, thins.documents left.version above row]
  cases thin.lock with
  | error refusal => rfl
  | ok =>
      rcases thins.checkRetained above with ⟨thinOk, fullOk⟩ | ⟨horizon, thinBad, fullBad⟩
      · simp only [thinOk, fullOk]
      · simp only [thinBad, fullBad]
        rfl

theorem Thins.importRows (thins : thin.Thins full) (set : RowSet) {source target : VersionStamp}
    (sourceAbove : thin.horizon ≤ source) (targetAbove : thin.horizon ≤ target) :
    (thin.importRows set source target).mapError StoreError.withoutHorizon =
      (full.importRows set source target).mapError StoreError.withoutHorizon := by
  simp only [Store.importRows, thins.lock, thins.documents target targetAbove]
  split
  · rfl
  · cases thin.lock with
    | error refusal => rfl
    | ok =>
        rcases thins.checkRetained sourceAbove with ⟨thinOk, fullOk⟩ | ⟨horizon, thinBad, fullBad⟩
        · simp only [thinOk, fullOk]
          rcases thins.checkRetained targetAbove with
            ⟨thinOk, fullOk⟩ | ⟨horizon, thinBad, fullBad⟩
          · simp only [thinOk, fullOk]
          · simp only [thinBad, fullBad]
            rfl
        · simp only [thinBad, fullBad]
          rfl

theorem Thins.liveRows (thins : thin.Thins full) : thin.liveRows = full.liveRows := by
  have rows := rowsAt_congr (thins.documents _ thins.horizon_le_current)
  simp only [Store.liveRows, thins.lock, ← thins.authority, rows]

/-- Both stores open a snapshot of a version from the horizon on, or none does. -/
theorem Thins.openSnapshot (thins : thin.Thins full) (version : Option VersionStamp)
    (above : ∀ named ∈ version, thin.horizon ≤ named) :
    ((thin.openSnapshot version).map fun opened => opened.1.version).mapError
        StoreError.withoutHorizon =
      ((full.openSnapshot version).map fun opened => opened.1.version).mapError
        StoreError.withoutHorizon := by
  have chosen : thin.horizon ≤ version.getD thin.authority.current := by
    cases version with
    | none => exact thins.horizon_le_current
    | some named => exact above named rfl
  simp only [Store.openSnapshot, thins.lock, ← thins.authority]
  cases thin.lock with
  | error refusal => rfl
  | ok =>
      rcases thins.checkRetained chosen with ⟨thinOk, fullOk⟩ | ⟨horizon, thinBad, fullBad⟩
      · simp only [thinOk, fullOk]
        rfl
      · simp only [thinBad, fullBad]
        rfl

end Store

namespace ClientCall

def isCollect : ClientCall → Bool
  | collect => true
  | _ => false

end ClientCall

namespace ClientAnswer

/-- The answer, whatever horizon is reported in an error. -/
def withoutHorizon : ClientAnswer → ClientAnswer
  | opened result => opened (result.mapError StoreError.withoutHorizon)
  | rows result => rows (result.mapError StoreError.withoutHorizon)
  | document result => document (result.mapError StoreError.withoutHorizon)
  | answer => answer

/-- The error a read or an opening fails with. -/
def error? : ClientAnswer → Option StoreError
  | opened (.error error) => some error
  | rows (.error error) => some error
  | document (.error error) => some error
  | _ => none

end ClientAnswer

namespace Client

/-- The versions a call asks for. -/
def named (client : Client) : ClientCall → List VersionStamp
  | .openSnapshot version => version.toList
  | .evaluate place _ => (client.snapshots[place]?.map (·.version)).toList
  | .readRow place _ => (client.snapshots[place]?.map (·.version)).toList
  | .importRows _ source target => [source, target]
  | _ => []

/-- The call passes the checks made before the lock is taken. -/
def Checked (client : Client) : ClientCall → Prop
  | .evaluate _ predicate => predicate.check client.store.schema = .ok ()
  | .importRows set source target => set.version = source ∧ source ≤ target
  | _ => True

/-- A client that has collected more than the full one. -/
structure Thins (thin full : Client) : Prop where
  store : thin.store.Thins full.store
  versions : thin.snapshots.map (·.version) = full.snapshots.map (·.version)

variable {thin full : Client}

/-- At each place both have a snapshot of one version, or neither has one. -/
theorem Thins.place (thins : thin.Thins full) (place : Nat) :
    thin.snapshots[place]? = none ∧ full.snapshots[place]? = none ∨
      ∃ left right, thin.snapshots[place]? = some left ∧ full.snapshots[place]? = some right ∧
        left.version = right.version := by
  have same : (thin.snapshots.map (·.version))[place]? =
      (full.snapshots.map (·.version))[place]? := by rw [thins.versions]
  rw [List.getElem?_map, List.getElem?_map] at same
  cases left : thin.snapshots[place]? with
  | none =>
      rw [left] at same
      exact .inl ⟨rfl, Option.map_eq_none_iff.mp same.symm⟩
  | some snapshot =>
      rw [left] at same
      obtain ⟨right, found, version⟩ := Option.map_eq_some_iff.mp same.symm
      exact .inr ⟨snapshot, right, rfl, found, version.symm⟩

theorem Thins.keep (thins : thin.Thins full) {left right : Snapshot}
    (same : left.version = right.version) (leftPins rightPins : Retention) :
    ({ thin with store := { thin.store with retention := leftPins } }.keep left).Thins
      ({ full with store := { full.store with retention := rightPins } }.keep right) where
  store := thins.store.retention leftPins rightPins
  versions := by simp [Client.keep, thins.versions, same]

/-- The snapshot an opening leaves has the version that was asked for, opened or not. -/
theorem openSnapshot_eq (client : Client) (version : Option VersionStamp) :
    ∃ retention snapshot,
      (client.openSnapshot version).1 =
        { client with store := { client.store with retention } }.keep snapshot ∧
      snapshot.version = version.getD client.store.authority.current := by
  unfold Client.openSnapshot
  cases opening : client.store.openSnapshot version with
  | error refusal => exact ⟨client.store.retention, _, rfl, rfl⟩
  | ok result =>
      obtain ⟨snapshot, store⟩ := result
      obtain ⟨_, _, opened⟩ := (client.store.openSnapshot_eq_ok_iff version _ _).mp opening
      obtain ⟨rfl, rfl⟩ := Prod.mk.inj opened
      exact ⟨_, _, rfl, rfl⟩

theorem answer_openSnapshot (client : Client) (version : Option VersionStamp) :
    (client.openSnapshot version).2 =
      .opened ((client.store.openSnapshot version).map fun opened => opened.1.version) := by
  unfold Client.openSnapshot
  cases client.store.openSnapshot version <;> rfl

/-- A call other than a collection keeps the two clients together. -/
theorem Thins.call (thins : thin.Thins full) {call : ClientCall}
    (kept : call.isCollect = false) : (thin.call call).1.Thins (full.call call).1 := by
  cases call with
  | collect => exact absurd kept nofun
  | write script => exact ⟨(thins.store.write script).1, thins.versions⟩
  | openSnapshot version =>
      obtain ⟨leftPins, left, thinOpened, leftVersion⟩ := thin.openSnapshot_eq version
      obtain ⟨rightPins, right, fullOpened, rightVersion⟩ := full.openSnapshot_eq version
      simp only [Client.call, thinOpened, fullOpened]
      exact thins.keep (leftVersion.trans (thins.store.authority ▸ rightVersion.symm)) _ _
  | unpinned version => exact thins.keep rfl thin.store.retention full.store.retention
  | copy place =>
      simp only [Client.call]
      rcases thins.place place with ⟨left, right⟩ | ⟨left, right, thinHas, fullHas, same⟩
      · rw [left, right]
        exact thins
      · rw [thinHas, fullHas]
        exact thins.keep same _ _
  | drop place =>
      simp only [Client.call]
      rcases thins.place place with ⟨left, right⟩ | ⟨left, right, thinHas, fullHas, same⟩
      · rw [left, right]
        exact thins
      · rw [thinHas, fullHas]
        refine ⟨thins.store.retention _ _, ?_⟩
        simp [Client.drop, List.map_set, thins.versions, same]
  | evaluate place predicate =>
      simp only [Client.call]
      rcases thins.place place with ⟨left, right⟩ | ⟨left, right, thinHas, fullHas, same⟩
      · rw [left, right]
        exact thins
      · rw [thinHas, fullHas]
        exact thins
  | readRow place row =>
      simp only [Client.call]
      rcases thins.place place with ⟨left, right⟩ | ⟨left, right, thinHas, fullHas, same⟩
      · rw [left, right]
        exact thins
      · rw [thinHas, fullHas]
        exact thins
  | importRows set source target => exact thins
  | liveRows => exact thins
  | currentVersion => exact thins

theorem Thins.collect (thins : thin.Thins full) : thin.collect.1.Thins full := by
  unfold Client.collect
  cases collected : thin.store.collect with
  | error refusal => exact thins
  | ok result =>
      obtain ⟨store, report⟩ := result
      obtain ⟨_, reclaimed⟩ := (thin.store.collect_eq_ok_iff store report).mp collected
      obtain ⟨rfl, rfl⟩ := Prod.mk.inj reclaimed
      exact ⟨thins.store.reclaim (thin.store.retention.floor.collectionFloor_le_current _),
        thins.versions⟩

/-- Leaving out the collections of a run leaves a client that knows more of the past. -/
theorem thins_after (schema : TableSchema) (calls : List ClientCall) :
    (after schema calls).Thins (after schema (calls.filter fun call => !call.isCollect)) := by
  induction calls using List.reverseRecOn with
  | nil => exact ⟨Store.thins_new schema, rfl⟩
  | append_singleton earlier call inductionHypothesis =>
      rw [after_concat, List.filter_append]
      cases collecting : call.isCollect with
      | false =>
          rw [List.filter_cons_of_pos (by simp [collecting]), List.filter_nil, after_concat]
          exact inductionHypothesis.call collecting
      | true =>
          rw [List.filter_cons_of_neg (by simp [collecting]), List.filter_nil, List.append_nil]
          cases call with
          | collect => exact inductionHypothesis.collect
          | _ => exact absurd collecting nofun

/-- A call that asks for versions from the horizon on has the same answer from both clients. -/
theorem Thins.answer (thins : thin.Thins full) {call : ClientCall}
    (kept : call.isCollect = false)
    (above : ∀ version ∈ thin.named call, thin.store.horizon ≤ version) :
    (thin.call call).2.withoutHorizon = (full.call call).2.withoutHorizon := by
  have store := thins.store
  cases call with
  | collect => exact absurd kept nofun
  | write script => simp only [Client.call, (store.write script).2]
  | openSnapshot version =>
      have opened := store.openSnapshot version fun chosen asked =>
        above chosen (Option.mem_toList.mpr asked)
      simp only [Client.call, answer_openSnapshot, ClientAnswer.withoutHorizon, opened]
  | unpinned version => rfl
  | copy place =>
      simp only [Client.call]
      rcases thins.place place with ⟨left, right⟩ | ⟨left, right, thinHas, fullHas, same⟩
      · rw [left, right]
      · rw [thinHas, fullHas]
  | drop place =>
      simp only [Client.call]
      rcases thins.place place with ⟨left, right⟩ | ⟨left, right, thinHas, fullHas, same⟩
      · rw [left, right]
      · rw [thinHas, fullHas]
  | evaluate place predicate =>
      simp only [Client.call]
      rcases thins.place place with ⟨left, right⟩ | ⟨left, right, thinHas, fullHas, same⟩
      · rw [left, right]
      · have asked := above left.version (by simp [named, thinHas])
        rw [thinHas, fullHas]
        simp only [ClientAnswer.withoutHorizon, store.evaluate same asked predicate]
  | readRow place row =>
      simp only [Client.call]
      rcases thins.place place with ⟨left, right⟩ | ⟨left, right, thinHas, fullHas, same⟩
      · rw [left, right]
      · have asked := above left.version (by simp [named, thinHas])
        rw [thinHas, fullHas]
        simp only [ClientAnswer.withoutHorizon, store.readRow same asked row]
  | importRows set source target =>
      have imported := store.importRows set (above source (by simp [named]))
        (above target (by simp [named]))
      simp only [Client.call, ClientAnswer.withoutHorizon, imported]
  | liveRows => simp only [Client.call, store.liveRows]
  | currentVersion => simp only [Client.call, Store.currentVersion, store.published]

variable {client : Client} {version : VersionStamp}

theorem checkRetained_of_lt {store : Store} (past : version < store.horizon) :
    store.checkRetained version =
      .error (.snapshotUnavailable version store.horizon store.authority.current) := by
  simp [Store.checkRetained, past]

theorem error?_evaluate {store : Store} {snapshot : Snapshot} {predicate : Predicate}
    (free : store.lock = .ok ()) (valid : predicate.check store.schema = .ok ())
    (past : snapshot.version < store.horizon) :
    (ClientAnswer.rows (store.evaluate snapshot predicate)).error? =
      some (.snapshotUnavailable snapshot.version store.horizon store.authority.current) := by
  simp only [Store.evaluate, valid, free, checkRetained_of_lt past]
  rfl

theorem error?_readRow {store : Store} {snapshot : Snapshot} (row : RowId)
    (free : store.lock = .ok ()) (past : snapshot.version < store.horizon) :
    (ClientAnswer.document (store.readRow snapshot row)).error? =
      some (.snapshotUnavailable snapshot.version store.horizon store.authority.current) := by
  simp only [Store.readRow, free, checkRetained_of_lt past]
  rfl

theorem error?_importRows {store : Store} {set : RowSet} {source target : VersionStamp}
    (free : store.lock = .ok ()) (tagged : set.version = source) (forward : source ≤ target)
    (past : source < store.horizon) :
    (ClientAnswer.rows (store.importRows set source target)).error? =
      some (.snapshotUnavailable source store.horizon store.authority.current) := by
  have accepted : ¬ (set.version ≠ source ∨ target < source) := by
    rintro (other | backward)
    · exact other tagged
    · exact Nat.not_lt.mpr forward backward
  simp only [Store.importRows, if_neg accepted, free, checkRetained_of_lt past]
  rfl

/-- A call that asks for a version below the horizon is refused and changes nothing. -/
theorem refused_of_named {call : ClientCall} (asked : version ∈ client.named call)
    (past : version < client.store.horizon) (checked : client.Checked call)
    (sound : client.store.poisoned = false) :
    (∃ requested ∈ client.named call, (client.call call).2.error? =
        some (.snapshotUnavailable requested client.store.horizon
          client.store.authority.current)) ∧
      (client.call call).1.store = client.store := by
  have free := (client.store.lock_eq_ok_iff).mpr sound
  cases call with
  | openSnapshot chosen =>
      obtain rfl : chosen = some version := Option.mem_toList.mp asked
      have refusal : client.store.openSnapshot (some version) =
          .error (.snapshotUnavailable version client.store.horizon
            client.store.authority.current) := by
        simp only [Store.openSnapshot, free, Option.getD_some, checkRetained_of_lt past]
        rfl
      refine ⟨⟨version, asked, ?_⟩, ?_⟩
      · simp only [Client.call, Client.openSnapshot, refusal, ClientAnswer.error?]
      · simp only [Client.call, Client.openSnapshot, refusal, keep]
  | evaluate place predicate =>
      obtain ⟨snapshot, here, rfl⟩ := Option.map_eq_some_iff.mp (Option.mem_toList.mp asked)
      simp only [Client.call, here]
      exact ⟨⟨_, asked, error?_evaluate free checked past⟩, trivial⟩
  | readRow place row =>
      obtain ⟨snapshot, here, rfl⟩ := Option.map_eq_some_iff.mp (Option.mem_toList.mp asked)
      simp only [Client.call, here]
      exact ⟨⟨_, asked, error?_readRow row free past⟩, trivial⟩
  | importRows set source target =>
      -- The source is the older version of the two.
      obtain ⟨tagged, forward⟩ := checked
      have sourcePast : source < client.store.horizon := by
        rcases List.mem_pair.mp asked with rfl | rfl
        · exact past
        · exact Nat.lt_of_le_of_lt forward past
      exact ⟨⟨source, by simp [named], error?_importRows free tagged forward sourcePast⟩, rfl⟩
  | _ => exact absurd asked List.not_mem_nil

theorem horizon_call (client : Client) (call : ClientCall) :
    client.store.horizon ≤ (client.call call).1.store.horizon := by
  have called := client.called_call call
  generalize client.call call = made at called
  obtain ⟨next, answer⟩ := made
  cases called with
  | wrote wrote => exact Nat.le_of_eq wrote.kept.2.symm
  | collected collecting =>
      obtain ⟨_, reclaimed⟩ := (client.store.collect_eq_ok_iff _ _).mp collecting
      obtain ⟨rfl, _⟩ := Prod.mk.inj reclaimed
      exact Nat.le_max_left _ _
  | pinned _ _ => exact Nat.le_refl _

theorem poisoned_call (client : Client) (call : ClientCall) :
    (client.call call).1.store.poisoned =
      (client.store.poisoned || (client.call call).2.isPanic) := by
  have called := client.called_call call
  generalize client.call call = made at called
  obtain ⟨next, answer⟩ := made
  cases called with
  | wrote wrote => cases wrote <;> simp [ClientAnswer.isPanic, Store.afterCommit]
  | collected collecting =>
      obtain ⟨_, reclaimed⟩ := (client.store.collect_eq_ok_iff _ _).mp collecting
      obtain ⟨rfl, _⟩ := Prod.mk.inj reclaimed
      simp [ClientAnswer.isPanic]
  | pinned _ calm => simp [calm]

/-- Only a panic poisons a store. -/
theorem poisoned_run (calls : List ClientCall) (client : Client) :
    (run calls client).1.store.poisoned =
      (client.store.poisoned || (run calls client).2.any ClientAnswer.isPanic) := by
  induction calls generalizing client with
  | nil => simp [run]
  | cons call rest inductionHypothesis =>
      simp only [run, inductionHypothesis, poisoned_call, List.any_cons, Bool.or_assoc]

/-- The lock is free exactly as long as no transaction has panicked. -/
theorem poisoned_after_iff (schema : TableSchema) (calls : List ClientCall) :
    (after schema calls).store.poisoned = false ↔
      ∀ answer ∈ (run calls (new schema)).2, answer.isPanic = false := by
  rw [after, poisoned_run]
  simp [new, Store.new]

/-- Collections are transparent.  After any calls, another one that asks for versions from the
horizon on has the answer it has when the collections are left out, up to the horizon that an error
reports.  Unless a transaction has panicked, a call that asks for an older version and passes its
other checks is refused and changes nothing.  The horizon only moves up, to the current version or
to the oldest one a snapshot pins at most, and it bounds the versions that can be opened. -/
theorem collections_transparent (schema : TableSchema) (calls : List ClientCall)
    (call : ClientCall) :
    let thin := after schema calls
    let full := after schema (calls.filter fun call => !call.isCollect)
    let calm := ∀ answer ∈ (run calls (new schema)).2, answer.isPanic = false
    (call.isCollect = false →
        (∀ version ∈ thin.named call, thin.store.horizon ≤ version) →
        (thin.call call).2.withoutHorizon = (full.call call).2.withoutHorizon) ∧
      (∀ version ∈ thin.named call, version < thin.store.horizon → thin.Checked call → calm →
        (∃ requested ∈ thin.named call, (thin.call call).2.error? =
          some (.snapshotUnavailable requested thin.store.horizon
            thin.store.authority.current)) ∧
          (thin.call call).1.store = thin.store) ∧
      thin.store.horizon ≤ (thin.call call).1.store.horizon ∧
      thin.store.horizon ≤ thin.store.authority.current ∧
      (∀ snapshot ∈ thin.snapshots, snapshot.isPinned = true →
        thin.store.horizon ≤ snapshot.version) ∧
      ∀ version, (∃ opened, thin.store.openSnapshot (some version) = .ok opened) ↔
        calm ∧ thin.store.horizon ≤ version ∧ version ≤ thin.store.authority.current := by
  intro thin full calm
  have thins : thin.Thins full := thins_after schema calls
  have sound : thin.Sound := sound_after schema calls
  have unpoisoned_iff : thin.store.poisoned = false ↔ calm := by
    have poisoned : thin.store.poisoned = _ := poisoned_run calls (new schema)
    rw [poisoned]
    simp [calm, new, Store.new]
  refine ⟨thins.answer, ?_, thin.horizon_call call, sound.wellFormed.horizon_le, ?_, ?_⟩
  · exact fun version asked past checked quiet =>
      refused_of_named asked past checked (unpoisoned_iff.mpr quiet)
  · exact fun snapshot member held => (sound.backs.retained snapshot member held).1
  · intro version
    rw [← unpoisoned_iff]
    constructor
    · rintro ⟨⟨snapshot, store⟩, opening⟩
      obtain ⟨unpoisoned, retained, _⟩ :=
        (thin.store.openSnapshot_eq_ok_iff (some version) snapshot store).mp opening
      exact ⟨unpoisoned, retained⟩
    · rintro ⟨unpoisoned, retained⟩
      exact ⟨_, (thin.store.openSnapshot_eq_ok_iff (some version) _ _).mpr
        ⟨unpoisoned, retained, rfl⟩⟩

/-- After a panic not even the current version can be opened. -/
theorem not_opened_after_panic :
    let store := (after Simulation.schema [.write ⟨[.panic "boom"], false, none⟩]).store
    store.horizon ≤ 0 ∧ 0 ≤ store.authority.current ∧
      store.openSnapshot (some 0) = .error .lockPoisoned :=
  ⟨Nat.le_refl 0, Nat.le_refl 0, rfl⟩

end Client

end SnapshotQuery
