import SnapshotQuery.Proofs.Service.Requests
import SnapshotQuery.Query.RequestCell
import SnapshotQuery.Service.Setup

/-!
# The life of a request

A request moves along its transitions and ends once, with one callback or with
none.  Whatever calls are made on it, its handles and its token, the history of
the calls tells its attempts, what was delivered and who was woken.
-/

namespace SnapshotQuery

namespace RequestCall

/-- The state that a transition leads to. -/
def target? : RequestCall → Option RequestState
  | start => some .running
  | await => some .awaitingReconciliation
  | retry => some .retrying
  | converge _ => some .converged
  | fail _ => some .failed
  | cancel => some .cancelled
  | arm _ | cancelHandle | cancelToken | hangUp => none

/-- A request in this state accepts the call. -/
def Allowed (state : RequestState) : RequestCall → Prop
  | start => state = .pending ∨ state = .retrying
  | await => state = .running
  | retry | converge _ => state = .awaitingReconciliation
  | fail _ | cancel => state.isTerminal = false
  | arm _ | cancelHandle | cancelToken | hangUp => True

/-- The answer to a transition that is accepted. -/
def success (attempts : Nat) : RequestCall → RequestAnswer
  | start => .started (attempts + 1)
  | _ => .done

/-- No transition starts in a state in which the request has ended. -/
theorem Allowed.going {call : RequestCall} {state target : RequestState}
    (allowed : call.Allowed state) (leads : call.target? = some target) :
    state.isTerminal = false := by
  cases call with
  | start =>
      rcases allowed with rfl | rfl
      · rfl
      · rfl
  | await | retry | converge _ =>
      obtain rfl := allowed
      rfl
  | fail _ | cancel => exact allowed
  | arm _ | cancelHandle | cancelToken | hangUp => cases leads

end RequestCall

/-- An attempt was started. -/
def RequestAnswer.isStart : RequestAnswer → Bool
  | started _ => true
  | _ => false

/-- The calls made so far with their answers, oldest first. -/
abbrev RequestHistory := List (RequestCall × RequestAnswer)

namespace Request

variable {request : Request}

theorem transition_forbidden (request : Request) (allowed : List RequestState)
    (target : RequestState) (outside : request.state ∉ allowed) :
    request.transition allowed target =
      .error (.invalidTransition request.id request.state target) :=
  if_neg outside

theorem scheduleRetry_eq (awaiting : request.state = .awaitingReconciliation) :
    request.scheduleRetry = .ok request.between := by
  simp [scheduleRetry, transition, awaiting, between]

theorem converge_eq (awaiting : request.state = .awaitingReconciliation) :
    request.converge = .ok (request.endedAs .converged, request.onSuccess) := by
  simp only [converge, transition, awaiting, List.mem_singleton, if_true]
  rfl

/-- Arming only counts. -/
theorem armHook_eq (request : Request) (limit : Option Nat) :
    ∃ hookRuns, (request.armHook limit).1 = { request with hookRuns } := by
  unfold armHook
  split
  · exact ⟨request.hookRuns, rfl⟩
  · split <;> exact ⟨_, rfl⟩

end Request

namespace RequestCell

/-- What a call does to a request and to what it shares. -/
inductive Called (cell : RequestCell) : RequestCall → RequestCell → RequestAnswer → Prop
  | refused {call target} (leads : call.target? = some target)
      (forbidden : ¬ call.Allowed cell.request.state) :
      Called cell call cell
        (.refused (.invalidTransition cell.request.id cell.request.state target))
  | started (allowed : RequestCall.start.Allowed cell.request.state) :
      Called cell .start
        { cell with request :=
          { cell.request with state := .running, attempts := cell.request.attempts + 1 } }
        (.started (cell.request.attempts + 1))
  | awaited (allowed : RequestCall.await.Allowed cell.request.state) :
      Called cell .await { cell with request := cell.request.awaiting } .done
  | scheduled (allowed : RequestCall.retry.Allowed cell.request.state) :
      Called cell .retry { cell with request := cell.request.between } .done
  | converged {rows} (allowed : (RequestCall.converge rows).Allowed cell.request.state) :
      Called cell (.converge rows)
        { cell with
          request := cell.request.endedAs .converged
          delivered := cell.delivered ++
            cell.request.onSuccess.toList.map fun _ => .success rows }
        .done
  | failed {error} (allowed : (RequestCall.fail error).Allowed cell.request.state) :
      Called cell (.fail error)
        { cell with
          request := cell.request.endedAs .failed
          delivered := cell.delivered ++ cell.request.onError.toList.map fun _ => .failure error }
        .done
  | cancelled (allowed : RequestCall.cancel.Allowed cell.request.state) :
      Called cell .cancel { cell with request := cell.request.abandoned, cancelled := true } .done
  | armed {limit} (hookRuns : Nat) (attached : Bool) :
      Called cell (.arm limit) { cell with request := { cell.request with hookRuns } }
        (.armed attached)
  | woke (unset : cell.cancelled = false) (listening : cell.listening = true) :
      Called cell .cancelHandle
        { cell with cancelled := true, woken := cell.woken ++ [cell.request.id] } (.tokenSet true)
  | unheard (unset : cell.cancelled = false) (gone : cell.listening = false) :
      Called cell .cancelHandle { cell with cancelled := true } (.tokenSet true)
  | ignored (set : cell.cancelled = true) : Called cell .cancelHandle cell (.tokenSet false)
  | tokenSet : Called cell .cancelToken { cell with cancelled := true } (.tokenSet !cell.cancelled)
  | hungUp : Called cell .hangUp { cell with listening := false } .nothing

theorem called_call (cell : RequestCell) (call : RequestCall) :
    cell.Called call (cell.call call).1 (cell.call call).2 := by
  cases call with
  | start =>
      by_cases idle : cell.request.state = .pending ∨ cell.request.state = .retrying
      · simp only [RequestCell.call, Request.startAttempt_eq idle]
        exact .started idle
      · have refusal := cell.request.transition_forbidden [.pending, .retrying] .running
          (by simpa using idle)
        simp only [RequestCell.call, Request.startAttempt, refusal]
        exact .refused rfl idle
  | await =>
      by_cases running : cell.request.state = .running
      · simp only [RequestCell.call, Request.awaitReconciliation_eq running]
        exact .awaited running
      · have refusal := cell.request.transition_forbidden [.running] .awaitingReconciliation
          (by simpa using running)
        simp only [RequestCell.call, Request.awaitReconciliation, refusal]
        exact .refused rfl running
  | retry =>
      by_cases awaiting : cell.request.state = .awaitingReconciliation
      · simp only [RequestCell.call, Request.scheduleRetry_eq awaiting]
        exact .scheduled awaiting
      · have refusal := cell.request.transition_forbidden [.awaitingReconciliation] .retrying
          (by simpa using awaiting)
        simp only [RequestCell.call, Request.scheduleRetry, refusal]
        exact .refused rfl awaiting
  | converge rows =>
      by_cases awaiting : cell.request.state = .awaitingReconciliation
      · simp only [RequestCell.call, Request.converge_eq awaiting]
        exact .converged awaiting
      · have refusal := cell.request.transition_forbidden [.awaitingReconciliation] .converged
          (by simpa using awaiting)
        simp only [RequestCell.call, Request.converge, refusal]
        exact .refused rfl awaiting
  | fail error =>
      cases going : cell.request.state.isTerminal with
      | false =>
          simp only [RequestCell.call, Request.fail_eq going]
          exact .failed going
      | true =>
          have refusal := cell.request.transition_forbidden
            [.pending, .running, .awaitingReconciliation, .retrying] .failed
            (by cases state : cell.request.state <;> simp_all [RequestState.isTerminal])
          simp only [RequestCell.call, Request.fail, refusal]
          exact .refused rfl (by simp [RequestCall.Allowed, going])
  | cancel =>
      cases going : cell.request.state.isTerminal with
      | false =>
          simp only [RequestCell.call, Request.cancel_eq going]
          exact .cancelled going
      | true =>
          simp only [RequestCell.call, Request.cancel, going, if_true]
          exact .refused rfl (by simp [RequestCall.Allowed, going])
  | arm limit =>
      obtain ⟨hookRuns, armed⟩ := cell.request.armHook_eq limit
      simp only [RequestCell.call, armed]
      exact .armed hookRuns _
  | cancelHandle =>
      simp only [RequestCell.call]
      split
      · rename_i set
        exact .ignored set
      · rename_i unset
        have fresh : cell.cancelled = false := by simpa using unset
        by_cases listening : cell.listening = true
        · simp only [if_pos listening]
          exact .woke fresh listening
        · simp only [if_neg listening]
          exact .unheard fresh (by simpa using listening)
  | cancelToken => exact .tokenSet
  | hangUp => exact .hungUp

/-- Make calls in order, noting each with its answer. -/
def run : List RequestCall → RequestCell → RequestCell × RequestHistory
  | [], cell => (cell, [])
  | call :: rest, cell =>
      let (next, answer) := cell.call call
      let (last, history) := run rest next
      (last, (call, answer) :: history)

theorem run_append (earlier later : List RequestCall) (cell : RequestCell) :
    run (earlier ++ later) cell =
      ((run later (run earlier cell).1).1,
        (run earlier cell).2 ++ (run later (run earlier cell).1).2) := by
  induction earlier generalizing cell with
  | nil => rfl
  | cons call rest inductionHypothesis => simp [run, inductionHypothesis]

theorem run_concat (calls : List RequestCall) (call : RequestCall) (cell : RequestCell) :
    run (calls ++ [call]) cell =
      (((run calls cell).1.call call).1,
        (run calls cell).2 ++ [(call, ((run calls cell).1.call call).2)]) := by
  simp [run_append, run]

/-- What has been delivered for a request in some state, after some calls. -/
def Delivered (history : RequestHistory) (delivered : List Delivery) : RequestState → Prop
  | .converged => ∃ rows, (.converge rows, .done) ∈ history ∧ delivered = [.success rows]
  | .failed => ∃ error, (.fail error, .done) ∈ history ∧ delivered = [.failure error]
  | .pending | .running | .awaitingReconciliation | .retrying | .cancelled => delivered = []

variable {cell next : RequestCell} {call : RequestCall} {answer : RequestAnswer}
  {history : RequestHistory} {delivered : List Delivery} {state : RequestState} {id : RequestId}

theorem Delivered.concat (before : Delivered history delivered state)
    (entry : RequestCall × RequestAnswer) : Delivered (history ++ [entry]) delivered state := by
  cases state with
  | converged =>
      obtain ⟨rows, made, only⟩ := before
      exact ⟨rows, List.mem_append_left _ made, only⟩
  | failed =>
      obtain ⟨error, made, only⟩ := before
      exact ⟨error, List.mem_append_left _ made, only⟩
  | _ => exact before

/-- Nothing is delivered to a request that is still under way. -/
theorem delivered_iff_of_going (going : state.isTerminal = false) :
    Delivered history delivered state ↔ delivered = [] := by
  cases state with
  | converged | failed | cancelled => exact absurd going.symm Bool.false_ne_true
  | pending | running | awaitingReconciliation | retrying => exact Iff.rfl

/-- A request with the history of the calls that were made on it. -/
structure Lived (id : RequestId) (history : RequestHistory) (cell : RequestCell) : Prop where
  id : cell.request.id = id
  attempts : cell.request.attempts = history.countP fun entry => entry.2.isStart
  /-- Both callbacks are there until the end. -/
  callbacks : cell.request.state.isTerminal = false →
    cell.request.onSuccess.isSome = true ∧ cell.request.onError.isSome = true
  delivered : Delivered history cell.delivered cell.request.state
  token : cell.request.state = .cancelled → cell.cancelled = true

theorem lived_new (query : Query) (id : RequestId) (origin : ContextId) :
    Lived id [] (new (query.request id origin)) where
  id := rfl
  attempts := rfl
  callbacks _ := ⟨rfl, rfl⟩
  delivered := rfl
  token := nofun

theorem Lived.attempts_concat (lived : Lived id history cell) (call : RequestCall)
    (other : answer.isStart = false) :
    cell.request.attempts =
      (history ++ [(call, answer)]).countP fun entry => entry.2.isStart := by
  rw [List.countP_append, List.countP_singleton, other]
  exact lived.attempts

theorem Lived.unended (lived : Lived id history cell)
    (going : cell.request.state.isTerminal = false) : cell.delivered = [] :=
  (delivered_iff_of_going going).mp lived.delivered

/-- The state changes, but the request does not end. -/
theorem Lived.moved (lived : Lived id history cell)
    (going : cell.request.state.isTerminal = false) (still : state.isTerminal = false)
    (call : RequestCall) :
    Lived id (history ++ [(call, .done)]) { cell with request := { cell.request with state } } where
  id := lived.id
  attempts := lived.attempts_concat call rfl
  callbacks _ := lived.callbacks going
  delivered := (delivered_iff_of_going still).mpr (lived.unended going)
  token := by
    rintro rfl
    exact absurd still.symm Bool.false_ne_true

theorem Lived.called (lived : Lived id history cell) (called : cell.Called call next answer) :
    Lived id (history ++ [(call, answer)]) next := by
  have kept := lived.delivered.concat
  cases called with
  | refused _ _ | armed _ _ | ignored _ | hungUp =>
      exact ⟨lived.id, lived.attempts_concat _ rfl, lived.callbacks, kept _, lived.token⟩
  | woke _ _ | unheard _ _ | tokenSet =>
      exact ⟨lived.id, lived.attempts_concat _ rfl, lived.callbacks, kept _, fun _ => rfl⟩
  | started allowed =>
      have going := allowed.going rfl
      refine ⟨lived.id, ?_, fun _ => lived.callbacks going, lived.unended going, ?_⟩
      · simp [List.countP_append, RequestAnswer.isStart, lived.attempts]
      · rintro ⟨⟩
  | awaited allowed | scheduled allowed => exact lived.moved (allowed.going rfl) rfl _
  | @converged rows allowed =>
      have going := allowed.going rfl
      obtain ⟨callback, given⟩ := Option.isSome_iff_exists.mp (lived.callbacks going).1
      refine ⟨lived.id, lived.attempts_concat _ rfl, ?_, ⟨rows, by simp, ?_⟩, ?_⟩
      · rintro ⟨⟩
      · simp [lived.unended going, given]
      · rintro ⟨⟩
  | @failed error allowed =>
      have going := allowed.going rfl
      obtain ⟨callback, given⟩ := Option.isSome_iff_exists.mp (lived.callbacks going).2
      refine ⟨lived.id, lived.attempts_concat _ rfl, ?_, ⟨error, by simp, ?_⟩, ?_⟩
      · rintro ⟨⟩
      · simp [lived.unended going, given]
      · rintro ⟨⟩
  | cancelled allowed =>
      have nothing := lived.unended (allowed.going rfl)
      refine ⟨lived.id, lived.attempts_concat _ rfl, ?_, nothing, fun _ => rfl⟩
      rintro ⟨⟩

theorem lived_run (query : Query) (id : RequestId) (origin : ContextId)
    (calls : List RequestCall) :
    Lived id (run calls (new (query.request id origin))).2
      (run calls (new (query.request id origin))).1 := by
  induction calls using List.reverseRecOn with
  | nil => exact lived_new query id origin
  | append_singleton earlier call inductionHypothesis =>
      rw [run_concat]
      exact inductionHypothesis.called (called_call _ call)

/-- A call that the state of the request allows is not refused. -/
theorem Called.accepted (called : cell.Called call next answer) {target : RequestState}
    (leads : call.target? = some target) (allowed : call.Allowed cell.request.state) :
    answer = call.success cell.request.attempts ∧ next.request.state = target := by
  cases called with
  | refused _ forbidden => exact absurd allowed forbidden
  | started _ | awaited _ | scheduled _ | converged _ | failed _ | cancelled _ =>
      exact ⟨rfl, Option.some.inj leads⟩
  | armed _ _ | woke _ _ | unheard _ _ | ignored _ | tokenSet | hungUp => cases leads

theorem Called.refusal (called : cell.Called call next answer) {target : RequestState}
    (leads : call.target? = some target) (forbidden : ¬ call.Allowed cell.request.state) :
    (next, answer) =
      (cell, .refused (.invalidTransition cell.request.id cell.request.state target)) := by
  cases called with
  | @refused _ named named_leads _ =>
      obtain rfl : named = target := Option.some.inj (named_leads.symm.trans leads)
      rfl
  | started allowed | awaited allowed | scheduled allowed | converged allowed | failed allowed
  | cancelled allowed => exact absurd allowed forbidden
  | armed _ _ | woke _ _ | unheard _ _ | ignored _ | tokenSet | hungUp => cases leads

/-- A request that has ended stays as it ended. -/
theorem Called.state_eq (called : cell.Called call next answer)
    (ended : cell.request.state.isTerminal = true) :
    next.request.state = cell.request.state := by
  cases called with
  | started allowed | awaited allowed | scheduled allowed | converged allowed | failed allowed
  | cancelled allowed =>
      exact absurd ((allowed.going rfl).symm.trans ended) Bool.false_ne_true
  | refused _ _ | armed _ _ | woke _ _ | unheard _ _ | ignored _ | tokenSet | hungUp => rfl

theorem state_run (calls : List RequestCall) (ended : cell.request.state.isTerminal = true) :
    (run calls cell).1.request.state = cell.request.state := by
  induction calls generalizing cell with
  | nil => rfl
  | cons call rest inductionHypothesis =>
      have same := (cell.called_call call).state_eq ended
      exact (inductionHypothesis (same ▸ ended)).trans same

theorem Called.token (called : cell.Called call next answer) (set : cell.cancelled = true) :
    next.cancelled = true := by
  cases called with
  | cancelled _ | woke _ _ | unheard _ _ | tokenSet => rfl
  | refused _ _ | started _ | awaited _ | scheduled _ | converged _ | failed _ | armed _ _
  | ignored _ | hungUp => exact set

/-- The token is never unset. -/
theorem token_run (calls : List RequestCall) (set : cell.cancelled = true) :
    (run calls cell).1.cancelled = true := by
  induction calls generalizing cell with
  | nil => exact set
  | cons call rest inductionHypothesis =>
      exact inductionHypothesis ((cell.called_call call).token set)

theorem Called.listening (called : cell.Called call next answer) :
    next.listening = true ↔ cell.listening = true ∧ .hangUp ≠ call := by
  cases called with
  | hungUp => simp
  | @refused _ target leads _ =>
      have other : RequestCall.hangUp ≠ call := by
        rintro rfl
        cases leads
      simp [other]
  | _ => simp

/-- The mailbox is there until it is hung up. -/
theorem listening_run (calls : List RequestCall) (cell : RequestCell) :
    (run calls cell).1.listening = true ↔ cell.listening = true ∧ .hangUp ∉ calls := by
  induction calls generalizing cell with
  | nil => simp [run]
  | cons call rest inductionHypothesis =>
      have called := (cell.called_call call).listening
      simp only [run, inductionHypothesis, called, List.mem_cons, not_or, and_assoc, ne_eq]

/-- A handle was the first to set the token, and its mailbox was still there. -/
def Wakes (first : RequestCell) (calls : List RequestCall) : Prop :=
  ∃ earlier later, calls = earlier ++ .cancelHandle :: later ∧
    (run earlier first).1.cancelled = false ∧ .hangUp ∉ earlier

theorem wakes_concat (first : RequestCell) (calls : List RequestCall) (call : RequestCall) :
    Wakes first (calls ++ [call]) ↔ Wakes first calls ∨
      call = .cancelHandle ∧ (run calls first).1.cancelled = false ∧ .hangUp ∉ calls := by
  constructor
  · rintro ⟨earlier, later, split, unset, there⟩
    rcases List.eq_nil_or_concat later with rfl | ⟨between, last, rfl⟩
    · obtain ⟨rfl, same⟩ := List.append_inj' split rfl
      exact .inr ⟨List.head_eq_of_cons_eq same, unset, there⟩
    · rw [List.concat_eq_append, ← List.cons_append, ← List.append_assoc] at split
      exact .inl ⟨earlier, between, (List.append_inj' split rfl).1, unset, there⟩
  · rintro (⟨earlier, later, rfl, unset, there⟩ | ⟨rfl, unset, there⟩)
    · exact ⟨earlier, later ++ [call], by simp, unset, there⟩
    · exact ⟨calls, [], rfl, unset, there⟩

/-- Only a handle that sets the token wakes the mailbox. -/
theorem Called.woken (called : cell.Called call next answer) :
    call = .cancelHandle ∧ cell.cancelled = false ∧ cell.listening = true ∧
        next.woken = cell.woken ++ [cell.request.id] ∧ next.cancelled = true ∨
      ¬(call = .cancelHandle ∧ cell.cancelled = false ∧ cell.listening = true) ∧
        next.woken = cell.woken := by
  cases called with
  | woke unset listening => exact .inl ⟨rfl, unset, listening, rfl, rfl⟩
  | unheard _ gone => exact .inr ⟨by simp [gone], rfl⟩
  | ignored set => exact .inr ⟨by simp [set], rfl⟩
  | @refused _ target leads _ =>
      refine .inr ⟨?_, rfl⟩
      rintro ⟨rfl, _⟩
      cases leads
  | _ => exact .inr ⟨nofun, rfl⟩

/-- The mailbox is woken at most once. -/
theorem woken_run (query : Query) (id : RequestId) (origin : ContextId)
    (calls : List RequestCall) :
    let first := new (query.request id origin)
    Wakes first calls ∧ (run calls first).1.woken = [id] ∧ (run calls first).1.cancelled = true ∨
      ¬ Wakes first calls ∧ (run calls first).1.woken = [] := by
  intro first
  induction calls using List.reverseRecOn with
  | nil =>
      refine .inr ⟨?_, rfl⟩
      rintro ⟨earlier, later, split, _⟩
      simp at split
  | append_singleton calls call inductionHypothesis =>
      have lived := lived_run query id origin calls
      have called := (run calls first).1.called_call call
      have there := listening_run calls first
      rw [wakes_concat, run_concat]
      -- A wake-up leaves the token set, so no handle can be the first one after it.
      rcases inductionHypothesis with ⟨wakes, woken, set⟩ | ⟨quiet, woken⟩
      · rcases called.woken with ⟨_, unset, _⟩ | ⟨_, same⟩
        · exact absurd (unset.symm.trans set) Bool.false_ne_true
        · exact .inl ⟨.inl wakes, same.trans woken, called.token set⟩
      · rcases called.woken with ⟨handle, unset, listening, more, set⟩ | ⟨other, same⟩
        · have one : ((run calls first).1.call call).1.woken = [id] := by
            rw [more, woken, lived.id, List.nil_append]
          exact .inl ⟨.inr ⟨handle, unset, (there.mp listening).2⟩, one, set⟩
        · refine .inr ⟨?_, same.trans woken⟩
          rintro (wakes | ⟨handle, unset, notHung⟩)
          · exact quiet wakes
          · exact other ⟨handle, unset, there.mpr ⟨rfl, notHung⟩⟩

/-- The life of a request under any calls.  A transition is made exactly in the states that allow
it, and one that is refused names the states and changes nothing.  An ended request stays as it
ended, and a token that is set stays set.  The attempts are the starts that were accepted, one
success was delivered to a request that converged, the error it was given to one that failed, and
nothing to any other.  The token of a cancelled request is set, and the mailbox was woken once if a
handle was the first to set the token while the mailbox was there, and else not at all. -/
theorem request_lifecycle (query : Query) (id : RequestId) (origin : ContextId)
    (calls : List RequestCall) :
    let first := new (query.request id origin)
    let cell := (run calls first).1
    let history := (run calls first).2
    (∀ call target, call.target? = some target →
        (call.Allowed cell.request.state →
          (cell.call call).2 = call.success cell.request.attempts ∧
            (cell.call call).1.request.state = target) ∧
        (¬ call.Allowed cell.request.state → cell.call call =
          (cell, .refused (.invalidTransition id cell.request.state target)))) ∧
      (cell.request.state.isTerminal = true → ∀ later,
        (run (calls ++ later) first).1.request.state = cell.request.state) ∧
      (cell.cancelled = true → ∀ later, (run (calls ++ later) first).1.cancelled = true) ∧
      cell.request.attempts = history.countP (fun entry => entry.2.isStart) ∧
      Delivered history cell.delivered cell.request.state ∧
      (cell.request.state = .cancelled → cell.cancelled = true) ∧
      (Wakes first calls ∧ cell.woken = [id] ∨ ¬ Wakes first calls ∧ cell.woken = []) := by
  intro first cell history
  have lived : Lived id history cell := lived_run query id origin calls
  refine ⟨?_, ?_, ?_, lived.attempts, lived.delivered, lived.token, ?_⟩
  · intro call target leads
    have called := cell.called_call call
    exact ⟨called.accepted leads, fun forbidden =>
      lived.id ▸ called.refusal leads forbidden⟩
  · intro ended later
    rw [run_append]
    exact state_run later ended
  · intro set later
    rw [run_append]
    exact token_run later set
  · rcases woken_run query id origin calls with ⟨wakes, woken, _⟩ | quiet
    · exact .inl ⟨wakes, woken⟩
    · exact .inr quiet

/-- The result of a second attempt is delivered, though a handle has set the token. -/
theorem request_lifecycle_of_converged :
    let query : Query := ⟨"all", .all, .indefinite, none, ⟨none, fun _ => []⟩, fun _ => []⟩
    let calls : List RequestCall := [.start, .await, .retry, .start, .cancelHandle, .cancelToken,
      .await, .converge ⟨1, [1]⟩]
    let cell := (run calls (new (query.request ⟨1⟩ ⟨1⟩))).1
    cell.request.state = .converged ∧ cell.request.attempts = 2 ∧
      cell.delivered = [.success ⟨1, [1]⟩] ∧ cell.woken = [⟨1⟩] ∧
      cell.call .cancel = (cell, .refused (.invalidTransition ⟨1⟩ .converged .cancelled)) := by
  intro query calls cell
  obtain ⟨made, _, _, attempts, _, _, wakes⟩ := request_lifecycle query ⟨1⟩ ⟨1⟩ calls
  have refusal := (made .cancel .cancelled rfl).2 nofun
  have ended : cell.request.state = .converged := rfl
  have received : cell.delivered = [.success ⟨1, [1]⟩] := rfl
  have first : Wakes (new (query.request ⟨1⟩ ⟨1⟩)) calls :=
    ⟨[.start, .await, .retry, .start], [.cancelToken, .await, .converge ⟨1, [1]⟩], rfl, rfl,
      by simp⟩
  rcases wakes with ⟨_, woken⟩ | ⟨quiet, _⟩
  · exact ⟨ended, attempts, received, woken, refusal⟩
  · exact absurd first quiet

end RequestCell

end SnapshotQuery
