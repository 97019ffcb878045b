import SnapshotQuery.Proofs.Store.Thinning

/-!
# Transactions that decide as they go

A transaction may choose each call by the results of those before.  On a store
it makes the calls of one script, so whatever holds for all scripts holds for it
as well.  Stores that answer alike see the same script.
-/

namespace SnapshotQuery

/-- A transaction that chooses each call by the results of those before. -/
inductive Body where
  | finish (abort : Option StoreError)
  | call (first : Call) (rest : CallResult → Body)

namespace Body

/-- Make the calls of a body, collecting their answers, until it returns, gives up or panics. -/
def run : Body → Transaction → Transaction × List (Except StoreError Answer) × Ending
  | .finish none, transaction => (transaction, [], .finished)
  | .finish (some error), transaction => (transaction, [], .failed error)
  | .call first rest, transaction =>
      match transaction.call first with
      | (next, .answered answer) =>
          let (last, answers, ending) := (rest (.answered answer)).run next
          (last, .ok answer :: answers, ending)
      | (next, .failed error) =>
          let (last, answers, ending) := (rest (.failed error)).run next
          (last, .error error :: answers, ending)
      | (next, .panicked message) => (next, [], .panicked message)

def trace : Body → Transaction → List Call × Option StoreError
  | .finish abort, _ => ([], abort)
  | .call first rest, transaction =>
      let (next, result) := transaction.call first
      let (calls, abort) := (rest result).trace next
      (first :: calls, abort)

/-- The script that a body follows on a store. -/
def script (body : Body) (store : Store) : Script :=
  let (calls, abort) := body.trace (Transaction.start store)
  ⟨calls, true, abort⟩

def concluded (abort : Option StoreError) :
    Transaction × List (Except StoreError Answer) × Ending →
      Transaction × List (Except StoreError Answer) × Ending
  | (last, answers, .finished) => (last, answers, abort.elim .finished .failed)
  | ran => ran

theorem concluded_cons (abort : Option StoreError) (answer : Except StoreError Answer)
    (ran : Transaction × List (Except StoreError Answer) × Ending) :
    concluded abort (ran.1, answer :: ran.2.1, ran.2.2) =
      ((concluded abort ran).1, answer :: (concluded abort ran).2.1,
        (concluded abort ran).2.2) := by
  obtain ⟨last, answers, ending⟩ := ran
  cases ending <;> rfl

/-- A body makes the calls of its trace, and then gives up as it says. -/
theorem run_eq (body : Body) (transaction : Transaction) :
    body.run transaction = concluded (body.trace transaction).2
      (Transaction.run true (body.trace transaction).1 transaction) := by
  induction body generalizing transaction with
  | finish abort => cases abort <;> rfl
  | call first rest inductionHypothesis =>
      unfold run trace Transaction.run
      generalize transaction.call first = made
      obtain ⟨next, result⟩ := made
      have later := inductionHypothesis result next
      cases result with
      | answered answer =>
          simp only [later]
          exact (concluded_cons _ (.ok answer) _).symm
      | failed error =>
          simp only [later]
          exact (concluded_cons _ (.error error) _).symm
      | panicked message => rfl

end Body

namespace Store

variable {thin full : Store}

def transact (store : Store) (body : Body) : Store × WriteReport :=
  match store.lock with
  | .error error => (store, ⟨[], .failed error⟩)
  | .ok () =>
      match body.run (Transaction.start store) with
      | (_, answers, .panicked message) =>
          ({ store with poisoned := true }, ⟨answers, .panicked message⟩)
      | (_, answers, .failed error) => (store, ⟨answers, .failed error⟩)
      | (transaction, answers, .finished) =>
          let (store, commit) := store.commit transaction
          (store, ⟨answers, commit⟩)

/-- Whatever a transaction decides, it does to a store what a script does. -/
theorem transact_eq_write (store : Store) (body : Body) :
    store.transact body = store.write (body.script store) := by
  unfold transact write
  cases store.lock with
  | error error => rfl
  | ok =>
      simp only [Body.run_eq, Body.script]
      generalize body.trace (Transaction.start store) = traced
      obtain ⟨calls, abort⟩ := traced
      rcases Transaction.run true calls (Transaction.start store) with ⟨last, answers, ending⟩
      cases ending with
      | finished => cases abort <;> rfl
      | failed error => rfl
      | panicked message => rfl

/-- A body sees no more of a store than its calls do. -/
theorem trace_atop (body : Body) {transaction : Transaction}
    (thins : transaction.store.Thins full) :
    body.trace (transaction.atop full) = body.trace transaction := by
  induction body generalizing transaction with
  | finish abort => rfl
  | call first rest inductionHypothesis =>
      have next : (transaction.call first).1.store.Thins full := by
        rw [(transaction.called_call first).store_eq]
        exact thins
      simp only [Body.trace, Transaction.call_atop thins, inductionHypothesis _ next]

theorem Thins.script_eq (thins : thin.Thins full) (body : Body) :
    body.script full = body.script thin := by
  have same : body.trace (Transaction.start full) = body.trace (Transaction.start thin) :=
    thins.start ▸ trace_atop body thins
  simp only [Body.script, same]

/-- What a transaction decides does not depend on the collections that were made before. -/
theorem Thins.transact (thins : thin.Thins full) (body : Body) :
    (thin.transact body).1.Thins (full.transact body).1 ∧
      (thin.transact body).2 = (full.transact body).2 := by
  rw [transact_eq_write, transact_eq_write, thins.script_eq body]
  exact thins.write (body.script thin)

end Store

end SnapshotQuery
