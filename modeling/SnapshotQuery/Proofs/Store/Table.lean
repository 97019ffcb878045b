import SnapshotQuery.Proofs.Store.Client

/-!
# Transactions refine a table

Inside a transaction the rows behave as one map from ids to documents, with a
counter for the ids of new rows.  The staged changes are what it takes to get
from the rows at the base to that map, and the version after a commit shows it.
-/

namespace SnapshotQuery

/-- The rows a transaction works on. -/
structure Table where
  schema : TableSchema
  /-- The version the rows are taken from. -/
  base : VersionStamp
  rows : OrderedMap RowId Value
  nextRow : RowId
  /-- The rows that have been added, still there or not. -/
  inserted : List RowId
  /-- The rows that have been replaced or removed. -/
  changed : List RowId
  fresh : ∀ row document, rows.find? row = some document → row < nextRow

namespace Table

def checkDocument (table : Table) (document : Value) : Except StoreError Unit :=
  match table.schema.checkDocument document with
  | .ok () => .ok ()
  | .error fault => .error (.invalidDocument (fault.reason table.schema.name))

/-- The table with one more row. -/
def insert (table : Table) (document : Value) : Table where
  schema := table.schema
  base := table.base
  rows := table.rows.insert table.nextRow document
  nextRow := table.nextRow + 1
  inserted := table.nextRow :: table.inserted
  changed := table.changed
  fresh row other found := by
    rw [OrderedMap.find?_insert] at found
    split at found
    · rename_i same
      exact same ▸ Nat.lt_succ_self table.nextRow
    · exact Nat.lt_succ_of_lt (table.fresh row other found)

/-- The table with another document for one of its rows. -/
def replace (table : Table) (row : RowId) (document : Value)
    (there : (table.rows.find? row).isSome = true) : Table where
  schema := table.schema
  base := table.base
  rows := table.rows.insert row document
  nextRow := table.nextRow
  inserted := table.inserted
  changed := row :: table.changed
  fresh other found held := by
    obtain ⟨old, known⟩ := Option.isSome_iff_exists.mp there
    rw [OrderedMap.find?_insert] at held
    split at held
    · rename_i same
      exact same ▸ table.fresh row old known
    · exact table.fresh other found held

def remove (table : Table) (row : RowId) : Table where
  schema := table.schema
  base := table.base
  rows := table.rows.erase row
  nextRow := table.nextRow
  inserted := table.inserted
  changed := row :: table.changed
  fresh other found held := by
    rw [OrderedMap.find?_erase] at held
    split at held
    · exact absurd held nofun
    · exact table.fresh other found held

def clear (table : Table) : Table where
  schema := table.schema
  base := table.base
  rows := .empty
  nextRow := table.nextRow
  inserted := table.inserted
  changed := table.rows.keys ++ table.changed
  fresh _ _ held := absurd held nofun

/-- What a call does to a table, and what it answers. -/
def call (table : Table) : Call → Table × CallResult
  | .insert document =>
      match table.checkDocument document with
      | .ok () => (table.insert document, .answered (.row table.nextRow))
      | .error error => (table, .failed error)
  | .update row document =>
      match table.checkDocument document with
      | .ok () =>
          if there : (table.rows.find? row).isSome = true then
            (table.replace row document there, .answered .done)
          else (table, .failed (.rowNotFound row))
      | .error error => (table, .failed error)
  | .delete row =>
      if (table.rows.find? row).isSome then (table.remove row, .answered .done)
      else (table, .failed (.rowNotFound row))
  | .clear => (table.clear, .answered .done)
  | .isLive row => (table, .answered (.flag (table.rows.find? row).isSome))
  | .base => (table, .answered (.version table.base))
  | .panic message => (table, .panicked message)

/-- Make calls in order, collecting their answers, until one ends the transaction. -/
def run (keepGoing : Bool) :
    List Call → Table → Table × List (Except StoreError Answer) × Ending
  | [], table => (table, [], .finished)
  | call :: rest, table =>
      match table.call call with
      | (next, .answered answer) =>
          let (last, answers, ending) := run keepGoing rest next
          (last, .ok answer :: answers, ending)
      | (next, .failed error) =>
          if keepGoing then
            let (last, answers, ending) := run keepGoing rest next
            (last, .error error :: answers, ending)
          else (next, [.error error], .failed error)
      | (next, .panicked message) => (next, [], .panicked message)

/-- The rows at the current version of a store. -/
def ofStore (store : Store) (wellFormed : store.WellFormed) : Table where
  schema := store.schema
  base := store.authority.current
  rows := store.tableAt store.authority.current
  nextRow := store.nextRow
  inserted := []
  changed := []
  fresh row document found := by
    rw [Store.find?_tableAt] at found
    exact wellFormed.known_of_document (Option.isSome_of_eq_some found)

/-- There is something to commit: a row of the store was replaced or removed, or a row that was
added is still there. -/
def Dirty (table : Table) (store : Store) : Prop :=
  (∃ row ∈ table.changed, (store.documentAt? row table.base).isSome = true) ∨
    ∃ row ∈ table.inserted, (table.rows.find? row).isSome = true

end Table

/-- The transaction sees the rows of the table, and has staged what was changed. -/
structure Transaction.Refines (transaction : Transaction) (table : Table) : Prop where
  schema : table.schema = transaction.store.schema
  base : table.base = transaction.base
  rows : ∀ row, table.rows.find? row = transaction.documentOf? row
  nextRow : table.nextRow = transaction.nextRow
  added : ∀ row ∈ table.inserted, transaction.store.nextRow ≤ row
  inserted : ∀ row change, transaction.staged.find? row = some change →
    transaction.store.nextRow ≤ row → row ∈ table.inserted
  changed : ∀ row, (transaction.store.documentAt? row transaction.base).isSome = true →
    ((transaction.staged.find? row).isSome = true ↔ row ∈ table.changed)

namespace Transaction

variable {transaction next : Transaction} {table : Table} {call : Call} {result : CallResult}

theorem refines_start (store : Store) (wellFormed : store.WellFormed) :
    (start store).Refines (Table.ofStore store wellFormed) where
  schema := rfl
  base := rfl
  rows row := store.find?_tableAt row store.authority.current
  nextRow := rfl
  added _ member := absurd member (by simp [Table.ofStore])
  inserted _ _ staged := absurd staged nofun
  changed _ _ := by simp [start, Table.ofStore]

theorem Refines.checkDocument (refines : transaction.Refines table) (document : Value) :
    table.checkDocument document = transaction.checkDocument document := by
  rw [Table.checkDocument, refines.schema]
  rfl

@[simp]
theorem documentOf?_stage (transaction : Transaction) (row other : RowId) (change : Option Value) :
    (transaction.stage row change).documentOf? other =
      if other = row then change else transaction.documentOf? other := by
  by_cases here : other = row <;> simp [documentOf?, stage, here, base]

/-- A new row that the transaction sees is staged. -/
theorem staged_of_new (wellFormed : transaction.store.WellFormed) {row : RowId} {old : Value}
    (new : transaction.store.nextRow ≤ row) (live : transaction.documentOf? row = some old) :
    transaction.staged.find? row = some (some old) := by
  unfold documentOf? at live
  cases staged : transaction.staged.find? row with
  | some change =>
      rw [staged] at live
      exact congrArg some live
  | none =>
      rw [staged] at live
      have known := wellFormed.known_of_document (Option.isSome_of_eq_some live)
      exact absurd known (Nat.not_lt.mpr new)

@[simp]
theorem isSome_find?_stage (transaction : Transaction) (row other : RowId)
    (change : Option Value) :
    ((transaction.stage row change).staged.find? other).isSome = true ↔
      other = row ∨ (transaction.staged.find? other).isSome = true := by
  by_cases here : other = row <;> simp [stage, here]

theorem find?_stage_of_ne {row other : RowId} {change : Option Value} (differs : other ≠ row) :
    (transaction.stage row change).staged.find? other = transaction.staged.find? other := by
  simp [stage, differs]

theorem Refines.insert (refines : transaction.Refines table) (staging : transaction.Staging)
    (wellFormed : transaction.store.WellFormed) (document : Value) :
    ({ transaction.stage transaction.nextRow (some document) with
        nextRow := transaction.nextRow + 1 } : Transaction).Refines (table.insert document) where
  schema := refines.schema
  base := refines.base
  rows row := by
    have seen := transaction.documentOf?_stage transaction.nextRow row (some document)
    rw [← refines.rows, ← refines.nextRow, ← OrderedMap.find?_insert] at seen
    rw [← refines.nextRow]
    exact seen.symm
  nextRow := congrArg (· + 1) refines.nextRow
  added row member := by
    rcases List.mem_cons.mp member with rfl | old
    · exact refines.nextRow ▸ staging.nextRow_le
    · exact refines.added row old
  inserted row change staged new := by
    by_cases here : row = transaction.nextRow
    · exact List.mem_cons.mpr (.inl (here.trans refines.nextRow.symm))
    · rw [find?_stage_of_ne here] at staged
      exact List.mem_cons_of_mem _ (refines.inserted row change staged new)
  changed row visible := by
    have known : row < transaction.store.nextRow := wellFormed.known_of_document visible
    have differs : row ≠ transaction.nextRow :=
      Nat.ne_of_lt (Nat.lt_of_lt_of_le known staging.nextRow_le)
    rw [find?_stage_of_ne differs]
    exact refines.changed row visible

/-- A row that the transaction sees gets another document, or none. -/
theorem Refines.stage (refines : transaction.Refines table) {row : RowId}
    {change : Option Value} {after : Table}
    (own : transaction.store.nextRow ≤ row → row ∈ table.inserted)
    (schema : after.schema = table.schema) (base : after.base = table.base)
    (nextRow : after.nextRow = table.nextRow) (inserted : after.inserted = table.inserted)
    (changed : after.changed = row :: table.changed)
    (rows : ∀ other, after.rows.find? other =
      if other = row then change else table.rows.find? other) :
    (transaction.stage row change).Refines after where
  schema := schema.trans refines.schema
  base := base.trans refines.base
  rows other := by rw [rows, documentOf?_stage, refines.rows]
  nextRow := nextRow.trans refines.nextRow
  added other member := refines.added other (inserted ▸ member)
  inserted other found staged new := by
    rw [inserted]
    by_cases here : other = row
    · exact here ▸ own (here ▸ new)
    · rw [find?_stage_of_ne here] at staged
      exact refines.inserted other found staged new
  changed other visible := by
    rw [isSome_find?_stage, changed, List.mem_cons]
    exact or_congr_right (refines.changed other visible)

/-- Nothing is left of a row of the transaction that is deleted. -/
theorem Refines.unstage (refines : transaction.Refines table)
    (wellFormed : transaction.store.WellFormed) {row : RowId}
    (own : transaction.store.nextRow ≤ row) :
    ({ transaction with staged := transaction.staged.erase row } : Transaction).Refines
      (table.remove row) := by
  have unseen : transaction.store.documentAt? row transaction.base = none := by
    by_contra seen
    have known := wellFormed.known_of_document (Option.isSome_iff_ne_none.mpr seen)
    exact absurd known (Nat.not_lt.mpr own)
  refine ⟨refines.schema, refines.base, ?_, refines.nextRow, refines.added, ?_, ?_⟩
  · intro other
    have old := refines.rows other
    unfold documentOf? at old ⊢
    simp only [Table.remove, OrderedMap.find?_erase]
    by_cases here : other = row
    · rw [if_pos here, if_pos here, here]
      exact unseen.symm
    · rw [if_neg here, if_neg here]
      exact old
  · intro other change staged new
    rw [OrderedMap.find?_erase] at staged
    split at staged
    · exact absurd staged nofun
    · exact refines.inserted other change staged new
  · intro other visible
    have differs : other ≠ row := by
      rintro rfl
      exact Option.isSome_iff_ne_none.mp visible unseen
    rw [OrderedMap.find?_erase, if_neg differs]
    simp only [Table.remove, List.mem_cons, differs, false_or]
    exact refines.changed other visible

/-- Every row that the transaction sees before it is cleared is one of its own or is staged to
be deleted. -/
theorem Refines.clear (refines : transaction.Refines table) (staging : transaction.Staging)
    (wellFormed : transaction.store.WellFormed) : transaction.clear.Refines table.clear := by
  have visible : ∀ row, (transaction.store.documentAt? row transaction.base).isSome = true →
      transaction.clear.staged.find? row = some none := by
    intro row seen
    rw [find?_staged_clear, if_pos seen]
  have hidden : ∀ row, transaction.store.documentAt? row transaction.base = none →
      transaction.clear.staged.find? row = none := by
    intro row unseen
    rw [find?_staged_clear, unseen]
    cases staged : transaction.staged.find? row with
    | none => simp
    | some change =>
        have new : ¬ row < transaction.store.nextRow := by
          intro known
          have seen := staging.replaced row change staged known
          simp [unseen] at seen
        simp [new]
  have base_clear : transaction.clear.base = transaction.base := by
    rw [Transaction.base, Transaction.base, store_clear]
  refine ⟨?_, ?_, ?_, ?_, ?_, ?_, ?_⟩
  · rw [store_clear]
    exact refines.schema
  · rw [base_clear]
    exact refines.base
  · intro row
    rw [documentOf?, store_clear, base_clear]
    cases seen : transaction.store.documentAt? row transaction.base with
    | none => simp [hidden row seen, Table.clear]
    | some document => simp [visible row (Option.isSome_of_eq_some seen), Table.clear]
  · rw [nextRow_clear]
    exact refines.nextRow
  · rw [store_clear]
    exact refines.added
  · intro row change staged new
    rw [store_clear] at new
    cases seen : transaction.store.documentAt? row transaction.base with
    | none => cases staged.symm.trans (hidden row seen)
    | some document =>
        have known := wellFormed.known_of_document (Option.isSome_of_eq_some seen)
        exact absurd known (Nat.not_lt.mpr new)
  · intro row seen
    rw [store_clear, base_clear] at seen
    rw [visible row seen]
    refine iff_of_true rfl (List.mem_append.mpr ?_)
    cases live : transaction.documentOf? row with
    | some document =>
        have entry :=
          (OrderedMap.mem_entries_iff _ row document).mpr ((refines.rows row).trans live)
        exact .inl (List.mem_map.mpr ⟨_, entry, rfl⟩)
    | none =>
        refine .inr ((refines.changed row seen).mp ?_)
        unfold documentOf? at live
        cases staged : transaction.staged.find? row with
        | some change => rfl
        | none =>
            rw [staged] at live
            exact absurd live (Option.isSome_iff_ne_none.mp seen)

/-- A call answers as it does on the table, and keeps the two together. -/
theorem Refines.called (refines : transaction.Refines table) (staging : transaction.Staging)
    (wellFormed : transaction.store.WellFormed) (called : transaction.Called call next result) :
    ∃ after, table.call call = (after, result) ∧ next.Refines after := by
  cases called with
  | insertRefused invalid =>
      exact ⟨table, by simp [Table.call, refines.checkDocument, invalid], refines⟩
  | @inserted document valid =>
      refine ⟨table.insert document, ?_, refines.insert staging wellFormed document⟩
      simp [Table.call, refines.checkDocument, valid, refines.nextRow]
  | updateRefused invalid =>
      exact ⟨table, by simp [Table.call, refines.checkDocument, invalid], refines⟩
  | updateMissed valid missing =>
      exact ⟨table, by simp [Table.call, refines.checkDocument, valid, refines.rows, missing],
        refines⟩
  | @updated row document old valid live =>
      have there : (table.rows.find? row).isSome = true := by simp [refines.rows, live]
      refine ⟨table.replace row document there, ?_, ?_⟩
      · simp [Table.call, refines.checkDocument, valid, there]
      · exact refines.stage
          (fun new => refines.inserted row _ (staged_of_new wellFormed new live) new)
          rfl rfl rfl rfl rfl fun other => table.rows.find?_insert row other document
  | deleteMissed missing =>
      exact ⟨table, by simp [Table.call, refines.rows, missing], refines⟩
  | @unstaged row old live own =>
      refine ⟨table.remove row, ?_, refines.unstage wellFormed own⟩
      simp [Table.call, refines.rows, live]
  | @deleted row old live known =>
      refine ⟨table.remove row, ?_, ?_⟩
      · simp [Table.call, refines.rows, live]
      · exact refines.stage (fun new => absurd known (Nat.not_lt.mpr new))
          rfl rfl rfl rfl rfl fun other => table.rows.find?_erase row other
  | cleared => exact ⟨table.clear, rfl, refines.clear staging wellFormed⟩
  | looked => exact ⟨table, by simp [Table.call, refines.rows], refines⟩
  | told => exact ⟨table, by simp [Table.call, refines.base], refines⟩
  | panicked => exact ⟨table, rfl, refines⟩

/-- A script answers and ends as it does on the table. -/
theorem Refines.run (keepGoing : Bool) (calls : List Call) (refines : transaction.Refines table)
    (staging : transaction.Staging) (wellFormed : transaction.store.WellFormed) :
    (Table.run keepGoing calls table).2 = (Transaction.run keepGoing calls transaction).2 ∧
      (Transaction.run keepGoing calls transaction).1.Refines
        (Table.run keepGoing calls table).1 := by
  induction calls generalizing transaction table with
  | nil => exact ⟨rfl, refines⟩
  | cons call rest inductionHypothesis =>
      have called := transaction.called_call call
      have staged := staging.called wellFormed called
      have sound : (transaction.call call).1.store.WellFormed := by
        rw [called.store_eq]
        exact wellFormed
      obtain ⟨after, answered, refined⟩ := refines.called staging wellFormed called
      obtain ⟨answers, last⟩ := inductionHypothesis refined staged sound
      unfold Table.run Transaction.run
      rw [answered]
      generalize transaction.call call = made at refined answers last
      obtain ⟨next, result⟩ := made
      cases result with
      | answered answer => exact ⟨by simp [answers], last⟩
      | panicked message => exact ⟨rfl, refined⟩
      | failed error =>
          cases keepGoing with
          | true => exact ⟨by simp [answers], last⟩
          | false => exact ⟨rfl, refined⟩

/-- Something is staged exactly if there is something to commit. -/
theorem Refines.dirty_iff (refines : transaction.Refines table) (staging : transaction.Staging)
    (wellFormed : transaction.store.WellFormed) :
    table.Dirty transaction.store ↔ transaction.staged.isEmpty = false := by
  have staged_iff : transaction.staged.isEmpty = false ↔
      ∃ row change, transaction.staged.find? row = some change := by
    simp only [← OrderedMap.mem_entries_iff, OrderedMap.isEmpty, ← Bool.not_eq_true,
      List.isEmpty_iff]
    constructor
    · intro some
      obtain ⟨⟨row, change⟩, member⟩ := List.exists_mem_of_ne_nil _ some
      exact ⟨row, change, member⟩
    · rintro ⟨row, change, member⟩
      exact List.ne_nil_of_mem member
  rw [staged_iff, Table.Dirty, refines.base]
  constructor
  · rintro (⟨row, member, visible⟩ | ⟨row, member, there⟩)
    · obtain ⟨change, staged⟩ :=
        Option.isSome_iff_exists.mp ((refines.changed row visible).mpr member)
      exact ⟨row, change, staged⟩
    · rw [refines.rows] at there
      obtain ⟨document, live⟩ := Option.isSome_iff_exists.mp there
      exact ⟨row, _, staged_of_new wellFormed (refines.added row member) live⟩
  · rintro ⟨row, change, staged⟩
    by_cases known : row < transaction.store.nextRow
    · have visible := staging.replaced row change staged known
      refine .inl ⟨row, (refines.changed row visible).mp ?_, visible⟩
      exact Option.isSome_of_eq_some staged
    · have new := Nat.le_of_not_lt known
      refine .inr ⟨row, refines.inserted row change staged new, ?_⟩
      rw [refines.rows, documentOf?, staged]
      exact (staging.added row change staged new).2

end Transaction

/-- A script does to a store what the table it starts from says.  A poisoned store refuses it.  Else
its calls answer as on the table, and unless they finish and it does not give up, the store stays
as it is, but for the poison of a panic.  A script that finishes commits the table it ends with
under the next version if there is something to commit, and otherwise changes nothing. -/
def Table.Explains (start : Table) (script : Script) (store after : Store)
    (report : WriteReport) : Prop :=
  let (table, answers, ending) := start.run script.keepGoing script.calls
  let current := store.authority.current
  if store.poisoned then report = ⟨[], .failed .lockPoisoned⟩ ∧ after = store
  else report.answers = answers ∧
    match ending, script.abort with
    | .panicked message, _ =>
        report.commit = .panicked message ∧ after = { store with poisoned := true }
    | .failed error, _ => report.commit = .failed error ∧ after = store
    | .finished, some error => report.commit = .failed error ∧ after = store
    | .finished, none =>
        ((∃ changes, report.commit = .committed (current + 1) changes) ↔ table.Dirty store) ∧
          (¬table.Dirty store → report.commit = .unchanged current ∧ after = store) ∧
          (table.Dirty store → after.authority.current = current + 1 ∧
            after.rowsAt (current + 1) = table.rows.entries ∧ after.nextRow = table.nextRow ∧
            ∀ version ≤ current, after.rowsAt version = store.rowsAt version)

theorem Store.WellFormed.explains {store after : Store} (wellFormed : store.WellFormed)
    {script : Script} {report : WriteReport} (wrote : store.Wrote script after report) :
    (Table.ofStore store wellFormed).Explains script store after report := by
  have start := Transaction.refines_start store wellFormed
  obtain ⟨same, refines⟩ := start.run script.keepGoing script.calls
    (Transaction.staging_start store) wellFormed
  obtain ⟨base, staging⟩ := Transaction.staging_run wellFormed script.keepGoing script.calls
  have dirty_iff := refines.dirty_iff staging (base.symm ▸ wellFormed)
  unfold Table.Explains
  rcases tableRan : (Table.ofStore store wellFormed).run script.keepGoing script.calls with
    ⟨table, answers, ending⟩
  rw [tableRan] at same refines dirty_iff
  cases wrote with
  | refused poisoned => simp [poisoned]
  | panicked sound ran =>
      rw [ran] at same
      obtain ⟨rfl, rfl⟩ := Prod.mk.inj same
      simp [sound]
  | failed sound ran =>
      rw [ran] at same
      obtain ⟨rfl, rfl⟩ := Prod.mk.inj same
      simp [sound]
  | aborted sound ran given =>
      rw [ran] at same
      obtain ⟨rfl, rfl⟩ := Prod.mk.inj same
      simp [sound, given]
  | unchanged sound ran given nothing =>
      rw [ran] at same base dirty_iff
      obtain ⟨rfl, rfl⟩ := Prod.mk.inj same
      have clean : ¬table.Dirty store := by
        rw [← base, dirty_iff, nothing]
        exact nofun
      simp [sound, given, clean]
  | @committed transaction _ sound ran given something =>
      rw [ran] at same base refines dirty_iff
      obtain ⟨rfl, rfl⟩ := Prod.mk.inj same
      have dirty : table.Dirty store := by
        rw [← base, dirty_iff]
        exact something
      have found : ∀ row, ((store.afterCommit transaction).tableAt
          store.authority.nextVersion).find? row = table.rows.find? row := by
        intro row
        rw [Store.find?_tableAt, wellFormed.documentAt?_next base, refines.rows]
      have earlier : ∀ version ≤ store.authority.current,
          (store.afterCommit transaction).rowsAt version = store.rowsAt version :=
        fun version known =>
          Store.rowsAt_congr fun row => store.documentAt?_afterCommit transaction row known
      simp only [sound, given, Bool.false_eq_true, if_false, dirty, not_true, false_imp_iff,
        true_imp_iff, iff_true, true_and]
      exact ⟨⟨_, rfl⟩, rfl, OrderedMap.entries_congr found, refines.nextRow.symm, earlier⟩

namespace Client

/-- Transactions refine a table: on the store that any calls lead to, every script does what the
table of the current rows says. -/
theorem write_refines (schema : TableSchema) (calls : List ClientCall) (script : Script) :
    let store := (after schema calls).store
    (Table.ofStore store (sound_after schema calls).wellFormed).Explains script store
      (store.write script).1 (store.write script).2 :=
  (sound_after schema calls).wellFormed.explains (Store.wrote_write _ script)

end Client

end SnapshotQuery
