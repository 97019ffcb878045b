import SnapshotQuery.Proofs.Store.Changes
import SnapshotQuery.Proofs.Store.Growth
import SnapshotQuery.Proofs.Version.Order

/-!
# What a transaction stages

The calls of a transaction stage a change only for a row that exists at its base,
or for a row of its own, and a new row always has a document.
-/

namespace SnapshotQuery

/-- Every row has an id that was given out, and a history that commits can have left. -/
structure Store.WellFormed (store : Store) : Prop extends store.Coherent where
  known : ∀ row chain, store.rows.find? row = some chain → row < store.nextRow
  ordered : ∀ row chain, store.rows.find? row = some chain →
    chain.Ordered store.authority.current

theorem Store.WellFormed.known_of_document {store : Store} (wellFormed : store.WellFormed)
    {row : RowId} {version : VersionStamp}
    (found : (store.documentAt? row version).isSome = true) : row < store.nextRow := by
  unfold Store.documentAt? at found
  cases held : store.rows.find? row with
  | none => simp [held] at found
  | some chain => exact wellFormed.known row chain held

namespace Transaction

/-- The document of a row as the transaction sees it. -/
def documentOf? (transaction : Transaction) (row : RowId) : Option Value :=
  match transaction.staged.find? row with
  | some change => change
  | none => transaction.store.documentAt? row transaction.base

theorem isLive_eq (transaction : Transaction) (row : RowId) :
    transaction.isLive row = (transaction.documentOf? row).isSome := by
  unfold isLive documentOf?
  cases transaction.staged.find? row <;> rfl

/-- What a call does to a transaction, and what it answers. -/
inductive Called (transaction : Transaction) : Call → Transaction → CallResult → Prop
  | insertRefused {document error}
      (invalid : transaction.checkDocument document = .error error) :
      Called transaction (.insert document) transaction (.failed error)
  | inserted {document} (valid : transaction.checkDocument document = .ok ()) :
      Called transaction (.insert document)
        { transaction.stage transaction.nextRow (some document) with
          nextRow := transaction.nextRow + 1 }
        (.answered (.row transaction.nextRow))
  | updateRefused {row document error}
      (invalid : transaction.checkDocument document = .error error) :
      Called transaction (.update row document) transaction (.failed error)
  | updateMissed {row document} (valid : transaction.checkDocument document = .ok ())
      (missing : transaction.documentOf? row = none) :
      Called transaction (.update row document) transaction (.failed (.rowNotFound row))
  | updated {row document old} (valid : transaction.checkDocument document = .ok ())
      (live : transaction.documentOf? row = some old) :
      Called transaction (.update row document) (transaction.stage row (some document))
        (.answered .done)
  | deleteMissed {row} (missing : transaction.documentOf? row = none) :
      Called transaction (.delete row) transaction (.failed (.rowNotFound row))
  | unstaged {row old} (live : transaction.documentOf? row = some old)
      (own : transaction.store.nextRow ≤ row) :
      Called transaction (.delete row)
        { transaction with staged := transaction.staged.erase row } (.answered .done)
  | deleted {row old} (live : transaction.documentOf? row = some old)
      (known : row < transaction.store.nextRow) :
      Called transaction (.delete row) (transaction.stage row none) (.answered .done)
  | cleared : Called transaction .clear transaction.clear (.answered .done)
  | looked {row} :
      Called transaction (.isLive row) transaction
        (.answered (.flag (transaction.documentOf? row).isSome))
  | told : Called transaction .base transaction (.answered (.version transaction.base))
  | panicked {message} : Called transaction (.panic message) transaction (.panicked message)

theorem called_call (transaction : Transaction) (call : Call) :
    transaction.Called call (transaction.call call).1 (transaction.call call).2 := by
  cases call with
  | insert document =>
      simp only [Transaction.call, Transaction.insert]
      cases checked : transaction.checkDocument document with
      | error error => exact .insertRefused checked
      | ok => exact .inserted checked
  | update row document =>
      simp only [Transaction.call, Transaction.update, isLive_eq]
      cases checked : transaction.checkDocument document with
      | error error => exact .updateRefused checked
      | ok =>
          cases seen : transaction.documentOf? row with
          | none => exact .updateMissed checked seen
          | some old => exact .updated checked seen
  | delete row =>
      simp only [Transaction.call, Transaction.delete, isLive_eq, isInserted]
      cases seen : transaction.documentOf? row with
      | none => exact .deleteMissed seen
      | some old =>
          by_cases own : transaction.store.nextRow ≤ row
          · simp only [own]
            exact .unstaged seen own
          · simp only [own]
            exact .deleted seen (Nat.lt_of_not_le own)
  | clear => exact .cleared
  | isLive row =>
      simp only [Transaction.call, isLive_eq]
      exact .looked
  | base => exact .told
  | panic message => exact .panicked

theorem find?_foldl_stage (rows : List (RowId × Value)) (transaction : Transaction) (row : RowId) :
    (rows.foldl (fun cleared row => cleared.stage row.1 none) transaction).staged.find? row =
      if row ∈ rows.map (·.1) then some none else transaction.staged.find? row := by
  induction rows generalizing transaction with
  | nil => simp
  | cons first rest inductionHypothesis =>
      obtain ⟨held, old⟩ := first
      rw [List.foldl_cons, inductionHypothesis]
      by_cases later : row ∈ rest.map (·.1)
      · rw [if_pos later, List.map_cons, if_pos (List.mem_cons_of_mem held later)]
      · rw [if_neg later]
        by_cases here : row = held <;> simp [stage, here, later]

theorem foldl_stage_eq (rows : List (RowId × Value)) (transaction : Transaction) :
    (rows.foldl (fun cleared row => cleared.stage row.1 none) transaction).store =
        transaction.store ∧
      (rows.foldl (fun cleared row => cleared.stage row.1 none) transaction).nextRow =
        transaction.nextRow := by
  induction rows generalizing transaction with
  | nil => exact ⟨rfl, rfl⟩
  | cons first rest inductionHypothesis => exact inductionHypothesis _

@[simp]
theorem store_clear (transaction : Transaction) : transaction.clear.store = transaction.store :=
  (foldl_stage_eq _ _).1

@[simp]
theorem nextRow_clear (transaction : Transaction) :
    transaction.clear.nextRow = transaction.nextRow :=
  (foldl_stage_eq _ _).2

/-- Clearing stages the deletion of every row there was, and forgets the rows that are new. -/
theorem find?_staged_clear (transaction : Transaction) (row : RowId) :
    transaction.clear.staged.find? row =
      if (transaction.store.documentAt? row transaction.base).isSome then some none
      else if row < transaction.store.nextRow then transaction.staged.find? row
      else none := by
  have visible : row ∈ (transaction.store.rowsAt transaction.base).map (·.1) ↔
      (transaction.store.documentAt? row transaction.base).isSome = true := by
    simp [Store.mem_rowsAt, Option.isSome_iff_exists]
  simp only [clear, find?_foldl_stage, visible, OrderedMap.find?_filter]
  by_cases known : row < transaction.store.nextRow <;>
    cases transaction.staged.find? row <;> simp [known, Option.filter]

/-- Changes are staged for rows that exist at the base and for new rows, which have a document. -/
structure Staging (transaction : Transaction) : Prop where
  nextRow_le : transaction.store.nextRow ≤ transaction.nextRow
  replaced : ∀ row change, transaction.staged.find? row = some change →
    row < transaction.store.nextRow →
      (transaction.store.documentAt? row transaction.base).isSome = true
  added : ∀ row change, transaction.staged.find? row = some change →
    transaction.store.nextRow ≤ row → row < transaction.nextRow ∧ change.isSome = true

theorem staging_start (store : Store) : (start store).Staging := by
  constructor <;> simp [start]

variable {transaction next : Transaction} {call : Call} {result : CallResult} {row : RowId}

theorem Called.store_eq (called : transaction.Called call next result) :
    next.store = transaction.store := by
  cases called with
  | cleared => exact store_clear transaction
  | _ => rfl

/-- A row that the transaction sees was there at its base, or is new. -/
theorem Staging.known_of_live (staging : transaction.Staging)
    (wellFormed : transaction.store.WellFormed) {old : Value}
    (live : transaction.documentOf? row = some old) :
    (row < transaction.store.nextRow →
        (transaction.store.documentAt? row transaction.base).isSome = true) ∧
      (transaction.store.nextRow ≤ row → row < transaction.nextRow) := by
  unfold documentOf? at live
  cases staged : transaction.staged.find? row with
  | none =>
      rw [staged] at live
      have found : (transaction.store.documentAt? row transaction.base).isSome = true :=
        Option.isSome_of_eq_some live
      exact ⟨fun _ => found,
        fun new => absurd (wellFormed.known_of_document found) (Nat.not_lt.mpr new)⟩
  | some change =>
      exact ⟨staging.replaced row change staged,
        fun new => (staging.added row change staged new).1⟩

theorem Staging.stage (staging : transaction.Staging) {change : Option Value}
    (known : row < transaction.store.nextRow →
      (transaction.store.documentAt? row transaction.base).isSome = true)
    (own : transaction.store.nextRow ≤ row → row < transaction.nextRow ∧ change.isSome = true) :
    (transaction.stage row change).Staging := by
  have split : ∀ other found, (transaction.stage row change).staged.find? other = some found →
      (other = row ∧ change = found) ∨ transaction.staged.find? other = some found := by
    intro other found staged
    by_cases here : other = row
    · simp only [Transaction.stage, OrderedMap.find?_insert, if_pos here,
        Option.some.injEq] at staged
      exact .inl ⟨here, staged⟩
    · simp only [Transaction.stage, OrderedMap.find?_insert, if_neg here] at staged
      exact .inr staged
  refine ⟨staging.nextRow_le, ?_, ?_⟩
  · intro other found staged
    rcases split other found staged with ⟨rfl, rfl⟩ | old
    · exact known
    · exact staging.replaced other found old
  · intro other found staged
    rcases split other found staged with ⟨rfl, rfl⟩ | old
    · exact own
    · exact staging.added other found old

theorem Staging.clear (staging : transaction.Staging) (wellFormed : transaction.store.WellFormed) :
    transaction.clear.Staging := by
  have split : ∀ row change, transaction.clear.staged.find? row = some change →
      (transaction.store.documentAt? row transaction.base).isSome = true := by
    intro row change staged
    rw [find?_staged_clear] at staged
    split at staged
    · assumption
    · split at staged
      · exact staging.replaced row change staged ‹_›
      · cases staged
  refine ⟨?_, ?_, ?_⟩
  · simpa using staging.nextRow_le
  · intro row change staged _
    simpa [base] using split row change staged
  · intro row change staged new
    rw [store_clear] at new
    exact absurd (wellFormed.known_of_document (split row change staged)) (Nat.not_lt.mpr new)

theorem Staging.called (staging : transaction.Staging) (wellFormed : transaction.store.WellFormed)
    (called : transaction.Called call next result) : next.Staging := by
  cases called with
  | inserted valid =>
      have grown :
          ({ transaction with nextRow := transaction.nextRow + 1 } : Transaction).Staging :=
        ⟨Nat.le_succ_of_le staging.nextRow_le, staging.replaced, fun row change staged new =>
          ⟨Nat.lt_succ_of_lt (staging.added row change staged new).1,
            (staging.added row change staged new).2⟩⟩
      refine grown.stage ?_ fun _ => ⟨Nat.lt_succ_self _, rfl⟩
      exact fun known => absurd staging.nextRow_le (Nat.not_le.mpr known)
  | updated valid live =>
      obtain ⟨known, new⟩ := staging.known_of_live wellFormed live
      exact staging.stage known fun own => ⟨new own, rfl⟩
  | deleted live known =>
      obtain ⟨there, _⟩ := staging.known_of_live wellFormed live
      exact staging.stage there fun own => absurd known (Nat.not_lt.mpr own)
  | @unstaged row _ _ _ =>
      have kept : ∀ other change, (transaction.staged.erase row).find? other = some change →
          transaction.staged.find? other = some change := by
        intro other change staged
        rw [OrderedMap.find?_erase] at staged
        split at staged
        · cases staged
        · exact staged
      exact ⟨staging.nextRow_le,
        fun other change staged => staging.replaced other change (kept other change staged),
        fun other change staged => staging.added other change (kept other change staged)⟩
  | cleared => exact staging.clear wellFormed
  | _ => exact staging

/-- What every call keeps holds at the end of a script. -/
theorem run_keeps {property : Transaction → Prop}
    (step : ∀ transaction call, property transaction → property (transaction.call call).1)
    (keepGoing : Bool) (calls : List Call) {transaction : Transaction}
    (start : property transaction) : property (run keepGoing calls transaction).1 := by
  induction calls generalizing transaction with
  | nil => exact start
  | cons call rest inductionHypothesis =>
      have kept := step transaction call start
      unfold run
      generalize transaction.call call = called at kept
      obtain ⟨next, result⟩ := called
      cases result with
      | answered answer => exact inductionHypothesis kept
      | panicked message => exact kept
      | failed error =>
          cases keepGoing with
          | true => exact inductionHypothesis kept
          | false => exact kept

theorem staging_run {store : Store} (wellFormed : store.WellFormed) (keepGoing : Bool)
    (calls : List Call) :
    (run keepGoing calls (start store)).1.store = store ∧
      (run keepGoing calls (start store)).1.Staging := by
  have step : ∀ (transaction : Transaction) (call : Call),
      transaction.store = store ∧ transaction.Staging →
      (transaction.call call).1.store = store ∧ (transaction.call call).1.Staging := by
    rintro transaction call ⟨rfl, staging⟩
    have called := transaction.called_call call
    exact ⟨called.store_eq, staging.called wellFormed called⟩
  exact run_keeps step keepGoing calls ⟨rfl, staging_start store⟩

end Transaction

end SnapshotQuery
