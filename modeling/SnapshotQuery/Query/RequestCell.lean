import SnapshotQuery.Query.Request

/-!
# Request cells

A request together with what it shares with the outside: its cancellation
token, the mailbox its handles wake, and the results its callbacks received.
-/

namespace SnapshotQuery

inductive Delivery where
  | success (rows : RowSet)
  | failure (error : QueryError)
deriving DecidableEq

/-- A request, its token, and what came out of it. -/
structure RequestCell where
  request : Request
  cancelled : Bool
  /-- The mailbox of the handles is still there. -/
  listening : Bool
  /-- Wake-ups received from handles, oldest first. -/
  woken : List RequestId
  delivered : List Delivery

inductive RequestCall where
  | start
  | await
  | retry
  | converge (rows : RowSet)
  | fail (error : QueryError)
  | cancel
  | arm (limit : Option Nat)
  | cancelHandle
  | cancelToken
  | hangUp

inductive RequestAnswer where
  | started (attempt : Nat)
  | done
  | refused (error : QueryError)
  | armed (attached : Bool)
  /-- The call was the one that set the token. -/
  | tokenSet (first : Bool)
  | nothing
deriving DecidableEq

namespace RequestCell

def new (request : Request) : RequestCell := ⟨request, false, true, [], []⟩

def transition (cell : RequestCell) (result : Except QueryError Request) :
    RequestCell × RequestAnswer :=
  match result with
  | .ok request => ({ cell with request }, .done)
  | .error error => (cell, .refused error)

def call (cell : RequestCell) : RequestCall → RequestCell × RequestAnswer
  | .start =>
      match cell.request.startAttempt with
      | .ok request => ({ cell with request }, .started request.attempts)
      | .error error => (cell, .refused error)
  | .await => cell.transition cell.request.awaitReconciliation
  | .retry => cell.transition cell.request.scheduleRetry
  | .converge rows =>
      match cell.request.converge with
      | .ok (request, callback) =>
          ({ cell with
              request
              delivered := cell.delivered ++ callback.toList.map fun _ => .success rows },
            .done)
      | .error error => (cell, .refused error)
  | .fail error =>
      match cell.request.fail with
      | .ok (request, callback) =>
          ({ cell with
              request
              delivered := cell.delivered ++ callback.toList.map fun _ => .failure error },
            .done)
      | .error refusal => (cell, .refused refusal)
  | .cancel =>
      match cell.request.cancel with
      | .ok request => ({ cell with request, cancelled := true }, .done)
      | .error error => (cell, .refused error)
  | .arm limit =>
      let (request, hook) := cell.request.armHook limit
      ({ cell with request }, .armed hook.isSome)
  | .cancelHandle =>
      if cell.cancelled then (cell, .tokenSet false)
      else
        ({ cell with
            cancelled := true
            woken := if cell.listening then cell.woken ++ [cell.request.id] else cell.woken },
          .tokenSet true)
  | .cancelToken => ({ cell with cancelled := true }, .tokenSet !cell.cancelled)
  | .hangUp => ({ cell with listening := false }, .nothing)

end RequestCell

end SnapshotQuery
