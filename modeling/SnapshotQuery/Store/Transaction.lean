import SnapshotQuery.Store.Basic

/-!
# Write transactions

A transaction stages changes over the version it starts from.  They become
visible together, under one new version, when it commits.
-/

namespace SnapshotQuery

structure Transaction where
  /-- The store as the transaction found it. -/
  store : Store
  nextRow : RowId
  /-- A staged document, or nothing for a staged deletion. -/
  staged : OrderedMap RowId (Option Value)

namespace Transaction

def start (store : Store) : Transaction := ⟨store, store.nextRow, .empty⟩

def base (transaction : Transaction) : VersionStamp := transaction.store.authority.current

def isLive (transaction : Transaction) (row : RowId) : Bool :=
  match transaction.staged.find? row with
  | some change => change.isSome
  | none => (transaction.store.documentAt? row transaction.base).isSome

def isInserted (transaction : Transaction) (row : RowId) : Bool :=
  transaction.store.nextRow ≤ row

def checkDocument (transaction : Transaction) (document : Value) : Except StoreError Unit :=
  match transaction.store.schema.checkDocument document with
  | .ok () => .ok ()
  | .error fault => .error (.invalidDocument (fault.reason transaction.store.schema.name))

def stage (transaction : Transaction) (row : RowId) (change : Option Value) : Transaction :=
  { transaction with staged := transaction.staged.insert row change }

def insert (transaction : Transaction) (document : Value) :
    Except StoreError (RowId × Transaction) := do
  transaction.checkDocument document
  let row := transaction.nextRow
  return (row, { transaction.stage row (some document) with nextRow := row + 1 })

def update (transaction : Transaction) (row : RowId) (document : Value) :
    Except StoreError Transaction := do
  transaction.checkDocument document
  if transaction.isLive row then return transaction.stage row (some document)
  else .error (.rowNotFound row)

/-- Delete a live row; a row of this transaction leaves no trace. -/
def delete (transaction : Transaction) (row : RowId) : Except StoreError Transaction :=
  if transaction.isLive row then
    if transaction.isInserted row then
      .ok { transaction with staged := transaction.staged.erase row }
    else .ok (transaction.stage row none)
  else .error (.rowNotFound row)

/-- Delete every live row, those of this transaction included. -/
def clear (transaction : Transaction) : Transaction :=
  (transaction.store.rowsAt transaction.base).foldl (fun cleared row => cleared.stage row.1 none)
    { transaction with
      staged := transaction.staged.filter fun row _ => row < transaction.store.nextRow }

end Transaction

inductive Call where
  | insert (document : Value)
  | update (row : RowId) (document : Value)
  | delete (row : RowId)
  | clear
  | isLive (row : RowId)
  | base
  | panic (message : String)
deriving Inhabited

inductive Answer where
  | row (row : RowId)
  | done
  | flag (flag : Bool)
  | version (version : VersionStamp)
deriving DecidableEq

inductive CallResult where
  | answered (answer : Answer)
  | failed (error : StoreError)
  | panicked (message : String)
deriving DecidableEq

def Transaction.call (transaction : Transaction) : Call → Transaction × CallResult
  | .insert document =>
      match transaction.insert document with
      | .ok (row, next) => (next, .answered (.row row))
      | .error error => (transaction, .failed error)
  | .update row document =>
      match transaction.update row document with
      | .ok next => (next, .answered .done)
      | .error error => (transaction, .failed error)
  | .delete row =>
      match transaction.delete row with
      | .ok next => (next, .answered .done)
      | .error error => (transaction, .failed error)
  | .clear => (transaction.clear, .answered .done)
  | .isLive row => (transaction, .answered (.flag (transaction.isLive row)))
  | .base => (transaction, .answered (.version transaction.base))
  | .panic message => (transaction, .panicked message)

structure Script where
  calls : List Call
  /-- A failed call does not end the transaction. -/
  keepGoing : Bool
  /-- The error the transaction gives up with after its calls. -/
  abort : Option StoreError
deriving Inhabited

inductive Ending where
  | finished
  | failed (error : StoreError)
  | panicked (message : String)
deriving DecidableEq

/-- Make calls in order, collecting their answers, until one ends the transaction. -/
def Transaction.run (keepGoing : Bool) :
    List Call → Transaction → Transaction × List (Except StoreError Answer) × Ending
  | [], transaction => (transaction, [], .finished)
  | call :: rest, transaction =>
      match transaction.call call with
      | (next, .answered answer) =>
          let (last, answers, ending) := Transaction.run keepGoing rest next
          (last, .ok answer :: answers, ending)
      | (next, .failed error) =>
          if keepGoing then
            let (last, answers, ending) := Transaction.run keepGoing rest next
            (last, .error error :: answers, ending)
          else (next, [.error error], .failed error)
      | (next, .panicked message) => (next, [], .panicked message)

inductive Commit where
  | committed (version : VersionStamp) (changes : Nat)
  /-- Nothing was staged, so the version stays. -/
  | unchanged (version : VersionStamp)
  | failed (error : StoreError)
  | panicked (message : String)
deriving DecidableEq

structure WriteReport where
  answers : List (Except StoreError Answer)
  commit : Commit

namespace Store

def versionOf (version : VersionStamp) : Option Value → RowVersion
  | some document => ⟨.document document, version⟩
  | none => ⟨.tombstone, version⟩

def apply (version : VersionStamp) (rows : OrderedMap RowId VersionChain)
    (change : RowId × Option Value) : OrderedMap RowId VersionChain :=
  rows.insert change.1
    (((rows.find? change.1).getD .empty).push (versionOf version change.2))

def commit (store : Store) (transaction : Transaction) : Store × Commit :=
  if transaction.staged.isEmpty then (store, .unchanged store.authority.current)
  else
    let version := store.authority.nextVersion
    match store.authority.markCommitted version with
    | .error refusal => (store, .failed (.internal refusal.message))
    | .ok authority =>
        ({ store with
            authority
            rows := transaction.staged.entries.foldl (apply version) store.rows
            nextRow := transaction.nextRow
            published := version },
          .committed version transaction.staged.size)

/-- Run a transaction.  It commits if its calls finish and it does not give up; a panic
poisons the lock. -/
def write (store : Store) (script : Script) : Store × WriteReport :=
  match store.lock with
  | .error error => (store, ⟨[], .failed error⟩)
  | .ok () =>
      match Transaction.run script.keepGoing script.calls (Transaction.start store) with
      | (_, answers, .panicked message) =>
          ({ store with poisoned := true }, ⟨answers, .panicked message⟩)
      | (_, answers, .failed error) => (store, ⟨answers, .failed error⟩)
      | (transaction, answers, .finished) =>
          match script.abort with
          | some error => (store, ⟨answers, .failed error⟩)
          | none =>
              let (store, commit) := store.commit transaction
              (store, ⟨answers, commit⟩)

end Store

end SnapshotQuery
