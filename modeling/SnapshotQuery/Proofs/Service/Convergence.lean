import SnapshotQuery.Proofs.Service.Retries

/-!
# Bounded convergence

A request is tried until the first attempt whose result is still good when its
origin takes it up, and at most once more than its policy allows retries.  Others
may commit and collect garbage whenever they like, except inside a move of an origin.
-/

namespace SnapshotQuery

/-- Faults are interposed only if they are gentle. -/
def Move.Gentle : Move → Prop
  | interpose faults => SnapshotQuery.Gentle faults
  | _ => True

/-- An attempt whose result was taken up by its origin. -/
structure Trial where
  completion : Completion
  /-- The version that was current when the attempt was evaluated. -/
  taken : Option VersionStamp
  /-- The store that the result was reconciled with. -/
  store : Store

def Trial.number (trial : Trial) : Nat := trial.completion.attempt

/-- Nothing was committed since the snapshot was taken, for every commit makes a new version; or
else stale rows are brought over, and none of them was deleted. -/
def Trial.Resolvable (mode : ReconcileMode) (trial : Trial) : Prop :=
  trial.taken = some trial.store.currentVersion ∨
    mode = .rederive ∧ ∃ rows, trial.completion.result = .ok rows ∧ trial.store.Keeps rows

/-- What was seen of the attempts of a request. -/
structure History where
  /-- The attempts that were evaluated and the versions current then, latest first. -/
  evaluations : List (Nat × VersionStamp)
  /-- The attempts whose results were taken up, in order. -/
  trials : List Trial

def History.empty : History := ⟨[], []⟩

/-- Attempts are tried in order, each on a snapshot of its own. -/
structure History.Ordered (history : History) : Prop where
  numbers : history.trials.map Trial.number = List.range' 1 history.trials.length
  taken : ∀ trial ∈ history.trials, ∃ version, trial.taken = some version ∧
    version ≤ trial.store.currentVersion

theorem Trial.resolvable_iff {trial : Trial} {mode : ReconcileMode} {rows : RowSet}
    (taken : trial.taken = some rows.version) (result : trial.completion.result = .ok rows) :
    trial.Resolvable mode ↔ rows.version = trial.store.currentVersion ∨
      mode = .rederive ∧ trial.store.Keeps rows := by
  simp [Trial.Resolvable, taken, result]

theorem History.ordered_empty : History.empty.Ordered :=
  ⟨rfl, fun _ member => absurd member List.not_mem_nil⟩

theorem History.Ordered.snoc {history later : History} {trial : Trial} (ordered : history.Ordered)
    (number : trial.number = history.trials.length + 1) {version : VersionStamp}
    (taken : trial.taken = some version) (le : version ≤ trial.store.currentVersion)
    (trials : later.trials = history.trials ++ [trial]) : later.Ordered := by
  constructor
  · rw [trials, List.map_append, ordered.numbers, List.length_append, List.length_singleton,
      List.range'_concat, List.map_singleton, number]
    simp [Nat.add_comm]
  · rw [trials]
    intro other member
    rcases List.mem_append.mp member with old | new
    · exact ordered.taken other old
    · rw [List.mem_singleton.mp new]
      exact ⟨version, taken, le⟩

namespace Service

/-- The attempt of a request that a move evaluates. -/
def evaluation? (service : Service) (wanted : RequestId) : Move → Option (Nat × VersionStamp)
  | .advance request => if request = wanted then service.evaluating? wanted else none
  | _ => none

/-- The result for a request that a move takes up. -/
def arrival? (service : Service) (wanted : RequestId) : Move → Option Completion
  | .process id =>
      match (service.origin? id).bind fun owner => owner.mailbox.head? with
      | some (.completed completion) =>
          if completion.request = wanted then some completion else none
      | _ => none
  | _ => none

/-- What is seen of the attempts of a request in one move. -/
def note (service : Service) (wanted : RequestId) (history : History) (move : Move) : History where
  evaluations := (service.evaluation? wanted move).toList ++ history.evaluations
  trials := history.trials ++ ((service.arrival? wanted move).map fun completion =>
    ⟨completion, history.evaluations.lookup completion.attempt, service.store⟩).toList

/-- What is seen of the attempts of a request while moves are made one after the other. -/
def watch (service : Service) (wanted : RequestId) (history : History) : List Move → History
  | [] => history
  | move :: rest =>
      match service.after? move with
      | none => history
      | some after => after.watch wanted (service.note wanted history move) rest

/-- The result of the request waits for its origin, or the attempt waits for a worker, or the next
step of its worker brings it on. -/
def Underway (service : Service) (id : ContextId) (wanted : RequestId) : Prop :=
  (∃ completion, service.Holds id (.completed completion) ∧ completion.request = wanted) ∨
    service.Starved wanted ∨ (service.advance wanted).stepsLeft wanted < service.stepsLeft wanted

/-- What has become of a request: it is tried once more, or the latest attempt is the first one that
was resolvable and the request has converged, or there was none and the budget is used up. -/
inductive Verdict (service : Service) (origin : OriginSettings) (query : Query)
    (wanted : RequestId) (history : History) : Prop
  | trying
      (unresolved : ∀ trial ∈ history.trials, ¬ trial.Resolvable origin.config.reconcileMode)
      (within : ∀ limit ∈ query.policy.maxRetries?, history.trials.length ≤ limit)
      (trying : service.Trying origin query wanted history.evaluations
        (history.trials.length + 1))
      (silent : service.callsOf wanted = [])
  | converged {earlier trial} (trials : history.trials = earlier ++ [trial])
      (unresolved : ∀ other ∈ earlier, ¬ other.Resolvable origin.config.reconcileMode)
      (resolvable : trial.Resolvable origin.config.reconcileMode)
      (within : ∀ limit ∈ query.policy.maxRetries?, trial.number ≤ limit + 1)
      (settled : service.Over wanted .converged trial.number)
      (called : service.callsOf wanted = [.converged])
      (noticed : ∃ seen, .succeeded query.label wanted seen ∈ service.observations)
  | failed {earlier trial limit version} (trials : history.trials = earlier ++ [trial])
      (unresolved : ∀ other ∈ history.trials, ¬ other.Resolvable origin.config.reconcileMode)
      (budget : query.policy.maxRetries? = some limit) (spent : trial.number = limit + 1)
      (taken : trial.taken = some version) (older : version < trial.store.currentVersion)
      (settled : service.Over wanted .failed (limit + 1))
      (called : service.callsOf wanted = [.failed])
      (noticed : .failed query.label wanted
        (.unreachableVersion (limit + 1) version trial.store.currentVersion) ∈ service.observations)

variable {schema : TableSchema} {service submitted after last : Service} {origin : OriginSettings}
  {owner : Origin} {query : Query} {wanted : RequestId} {history : History} {id : ContextId}
  {move : Move} {completion : Completion} {message : Message} {rest : List Message}
  {request : Request} {attempts number : Nat} {evaluations : List (Nat × VersionStamp)}

theorem regular_of_reaches
    (run : (Service.new schema).Reaches (fun _ move => move.Gentle) service) :
    service.Regular schema := by
  have used : Gentle service.faults ∧ service.store.Coherent ∧ service.store.schema = schema := by
    induction run with
    | start =>
        have quiet : Gentle (Service.new schema).faults := by
          constructor <;> simp [new]
        exact ⟨quiet, Store.coherent_new schema, rfl⟩
    | move move earlier allowed moved inductionHypothesis =>
        obtain ⟨gentle, coherent, same⟩ := inductionHypothesis
        rcases (moved_of_after? (orderly_of_reaches earlier).ready moved).grows with
          grows | ⟨faults, rfl, rfl⟩
        · exact ⟨gentle.mono grows.faults, grows.store.coherent coherent,
            grows.store.schema.trans same⟩
        · exact ⟨allowed, coherent, same⟩
  obtain ⟨gentle, coherent, same⟩ := used
  exact ⟨orderly_of_reaches run, tracked_of_reaches run, accounted_of_reaches run,
    provided_of_reaches run, gentle, coherent, same⟩

/-- What ends requests from outside is never undone. -/
theorem Unhindered.before {pool : DispatcherId} (unhindered : after.Unhindered wanted pool)
    (regular : service.Regular schema) (moved : service.after? move = some after) :
    service.Unhindered wanted pool := by
  have follows := regular.provided.follows.moved regular.orderly regular.tracked moved
  have opened : ¬ service.Shut pool := unhindered.opened ∘ follows.shut pool
  rcases (moved_of_after? regular.orderly.ready moved).grows with grows | ⟨faults, _, rfl⟩
  · exact ⟨grows.store.unpoisoned unhindered.sound, fun set =>
      unhindered.unset (grows.cancelled set), opened⟩
  · exact ⟨unhindered.sound, unhindered.unset, opened⟩

theorem callsOf_of_owned (regular : service.Regular schema) (owned : service.Owns id request) :
    service.callsOf request.id = [] :=
  callsOf_of_no_final regular.accounted (regular.orderly.apart id request owned)

theorem Over.called {state : RequestState} (settled : service.Over wanted state attempts)
    (regular : service.Regular schema) (ends : state = .converged ∨ state = .failed) :
    service.callsOf wanted = [state] := by
  obtain ⟨final, member, rfl, rfl, _⟩ := settled.ended
  rw [callsOf_final regular.orderly regular.accounted member, Request.callOf?,
    if_pos ⟨rfl, ends⟩, Option.toList_some]

theorem arrival?_process (found : service.origin? id = some owner)
    (oldest : owner.mailbox = message :: rest) :
    service.arrival? wanted (.process id) =
      match message with
      | .completed completion => if completion.request = wanted then some completion else none
      | .cancelRequested _ => none := by
  simp only [arrival?, found, Option.bind_some, oldest, List.head?_cons]
  cases message <;> rfl

theorem exists_of_arrival? (arrived : service.arrival? wanted move = some completion) :
    ∃ id owner rest, move = .process id ∧ service.origin? id = some owner ∧
      owner.mailbox = .completed completion :: rest ∧ completion.request = wanted := by
  cases move with
  | process id =>
      cases found : service.origin? id with
      | none => simp [arrival?, found] at arrived
      | some owner =>
          cases oldest : owner.mailbox with
          | nil => simp [arrival?, found, oldest] at arrived
          | cons message rest =>
              rw [arrival?_process found oldest] at arrived
              cases message with
              | cancelRequested _ => exact absurd arrived nofun
              | completed posted =>
                  obtain ⟨about, same⟩ := Option.ite_none_right_eq_some.mp arrived
                  obtain rfl := Option.some.inj same
                  exact ⟨id, owner, rest, rfl, found, oldest, about⟩
  | _ => exact absurd arrived nofun

/-- Nothing is seen of a request in moves about others. -/
theorem note_of_apart (regular : service.Regular schema) (owned : service.Owns id request)
    (apart : service.Apart id request.id move) (history : History) :
    service.note request.id history move = history := by
  have unseen : service.arrival? request.id move = none := by
    cases arrived : service.arrival? request.id move with
    | none => rfl
    | some completion =>
        obtain ⟨other, owner, rest, rfl, found, oldest, about⟩ := exists_of_arrival? arrived
        obtain ⟨rfl, _⟩ := regular.tracked.results other completion
          (holds_of_origin? found oldest) id request owned about.symm
        exact absurd about (apart.process owner _ rest rfl found oldest)
  have unevaluated : service.evaluation? request.id move = none := by
    cases move with
    | advance removed =>
        have differs : removed ≠ request.id := fun same => apart.advance (same ▸ rfl)
        exact if_neg differs
    | _ => rfl
  simp only [note, unseen, unevaluated, Option.map_none, Option.toList_none, List.append_nil,
    List.nil_append]

/-- No further result is seen of a request of which nothing is under way. -/
theorem trials_note_of_idle (idle : wanted ∉ service.tickets) (history : History) (move : Move) :
    (service.note wanted history move).trials = history.trials := by
  cases arrived : service.arrival? wanted move with
  | none => simp only [note, arrived, Option.map_none, Option.toList_none, List.append_nil]
  | some completion =>
      obtain ⟨id, owner, rest, _, found, oldest, about⟩ := exists_of_arrival? arrived
      exact absurd (mem_tickets.mpr (.inr ⟨id, completion, holds_of_origin? found oldest, about⟩))
        idle

theorem after?_process (found : service.origin? id = some owner)
    (oldest : owner.mailbox = message :: rest) :
    service.after? (.process id) =
      some ((service.leaveMessages id rest).handle owner.settings message) := by
  simp only [after?, process?, found, oldest]
  rfl

/-- A request is cancelled when its origin is told so. -/
theorem mem_cancelled_of_cancelRequested {settings : OriginSettings}
    (live : service.liveRequest? settings.id wanted = some request)
    (going : request.state.isTerminal = false) :
    request.id ∈ (service.handle settings (.cancelRequested wanted)).cancelled := by
  simp only [handle, live, endCancelled_eq going]
  exact List.mem_insert_self

/-- The verdict after the result of the attempt that was waited for is taken up. -/
theorem Verdict.taken
    (unresolved : ∀ trial ∈ history.trials, ¬ trial.Resolvable origin.config.reconcileMode)
    (within : ∀ limit ∈ query.policy.maxRetries?, history.trials.length ≤ limit)
    (trying : service.Trying origin query wanted history.evaluations (history.trials.length + 1))
    (ordered : history.Ordered) (regular : service.Regular schema)
    (regularAfter : after.Regular schema)
    (unhindered : service.Unhindered wanted origin.dispatcher)
    (found : service.origin? origin.id = some owner)
    (oldest : owner.mailbox = .completed completion :: rest) (about : completion.request = wanted)
    (ends : after = (service.leaveMessages origin.id rest).handle origin (.completed completion)) :
    after.Verdict origin query wanted (service.note wanted history (.process origin.id)) ∧
      (service.note wanted history (.process origin.id)).Ordered := by
  obtain ⟨current, rows, request, arrives, evaluated⟩ :=
    trying.arrives regular unhindered.unset found oldest about
  let trial : Trial :=
    ⟨completion, history.evaluations.lookup completion.attempt, service.store⟩
  have arrived : service.arrival? wanted (.process origin.id) = some completion := by
    rw [arrival?_process found oldest]
    exact if_pos about
  have trials : (service.note wanted history (.process origin.id)).trials =
      history.trials ++ [trial] := by
    simp only [note, arrived]
    rfl
  have number : trial.number = history.trials.length + 1 := current
  have taken : trial.taken = some rows.version := by
    rw [← current] at evaluated
    exact evaluated
  have le : rows.version ≤ service.store.currentVersion := by
    have published : service.store.currentVersion = service.store.authority.current :=
      regular.coherent.published
    exact published ▸ arrives.retained.2
  refine ⟨?_, ordered.snoc number taken le trials⟩
  have resolvable : trial.Resolvable origin.config.reconcileMode ↔ _ :=
    Trial.resolvable_iff taken arrives.result
  by_cases good : trial.Resolvable origin.config.reconcileMode
  · obtain ⟨settled, noticed⟩ := arrives.converged regular unhindered.sound (resolvable.mp good)
    rw [← ends, ← number] at settled
    refine .converged trials unresolved good ?_ settled (settled.called regularAfter (.inl rfl)) ?_
    · intro limit budget
      rw [number]
      exact Nat.succ_le_succ (within limit budget)
    · exact ends ▸ noticed
  · obtain ⟨stale, lost⟩ := not_or.mp (mt resolvable.mpr good)
    have lost : origin.config.reconcileMode = .rederive → ¬ service.store.Keeps rows :=
      fun mode kept => lost ⟨mode, kept⟩
    have unresolved : ∀ other ∈ (service.note wanted history (.process origin.id)).trials,
        ¬ other.Resolvable origin.config.reconcileMode := by
      rw [trials]
      intro other member
      rcases List.mem_append.mp member with old | new
      · exact unresolved other old
      · exact List.mem_singleton.mp new ▸ good
    by_cases allowed : ∀ limit ∈ query.policy.maxRetries?, history.trials.length < limit
    · have again := arrives.retried regular trying.known (holds_of_origin? found oldest) about
        unhindered stale lost allowed history.evaluations
      rw [← ends] at again
      obtain ⟨next, owned, tries⟩ := again.owned
      refine .trying unresolved ?_ ?_ (tries.id ▸ callsOf_of_owned regularAfter owned)
      · intro limit budget
        rw [trials, List.length_append]
        exact allowed limit budget
      · rw [trials, List.length_append]
        exact again
    · push Not at allowed
      obtain ⟨limit, budget, spent⟩ := allowed
      have last : history.trials.length = limit := Nat.le_antisymm (within limit budget) spent
      obtain ⟨settled, noticed⟩ :=
        arrives.failed regular unhindered.sound stale lost budget spent
      rw [← ends, last] at settled noticed
      exact .failed trials unresolved budget (last ▸ number) taken
        (Nat.lt_of_le_of_ne le stale) settled (settled.called regularAfter (.inr rfl)) noticed

theorem settings_of_origin? (contexts : service.contextIds.Nodup)
    (known : origin ∈ service.originSettings) (found : service.origin? origin.id = some owner) :
    owner.settings = origin := by
  obtain ⟨other, among, rfl⟩ := List.mem_map.mp known
  rw [eq_of_origin? contexts found among rfl]

/-- The message that an unhindered request waits for is its result. -/
theorem Trying.completed (trying : service.Trying origin query wanted evaluations number)
    (regular : service.Regular schema) (unset : wanted ∉ after.cancelled)
    (about : message.request = wanted)
    (ends : after = (service.leaveMessages origin.id rest).handle origin message) :
    ∃ completion, message = .completed completion := by
  cases message with
  | completed completion => exact ⟨completion, rfl⟩
  | cancelRequested asked =>
      obtain ⟨request, live, owned, tries⟩ := trying.live regular rest
      have going : request.state.isTerminal = false := by
        rw [(regular.orderly.ready _ request owned).running]
        rfl
      rw [← about] at live
      refine absurd ?_ unset
      rw [ends, ← tries.id]
      exact mem_cancelled_of_cancelRequested live going

/-- A move keeps up with what is seen of a request that is tried. -/
theorem Verdict.tried
    (unresolved : ∀ trial ∈ history.trials, ¬ trial.Resolvable origin.config.reconcileMode)
    (within : ∀ limit ∈ query.policy.maxRetries?, history.trials.length ≤ limit)
    (trying : service.Trying origin query wanted history.evaluations (history.trials.length + 1))
    (ordered : history.Ordered) (regular : service.Regular schema)
    (regularAfter : after.Regular schema) (valid : query.predicate.check schema = .ok ())
    (calm : ∀ hook ∈ query.hook, ∀ run, Calm (hook run))
    (unhindered : after.Unhindered wanted origin.dispatcher)
    (moving : service.after? move = some after) (stays : move ≠ .dropOrigin origin.id) :
    after.Verdict origin query wanted (service.note wanted history move) ∧
      (service.note wanted history move).Ordered := by
  have earlier := unhindered.before regular moving
  have silent : ∀ {evaluations number}, after.Trying origin query wanted evaluations number →
      after.callsOf wanted = [] := by
    intro _ _ still
    obtain ⟨request, owned, tries⟩ := still.owned
    exact tries.id ▸ callsOf_of_owned regularAfter owned
  by_cases works : move = .advance wanted
  · subst works
    obtain rfl : service.advance wanted = after := Option.some.inj moving
    have still := trying.advance regular valid calm earlier unhindered.sound
    have seen : service.note wanted history (.advance wanted) =
        ⟨(service.evaluating? wanted).toList ++ history.evaluations, history.trials⟩ := by
      simp [note, evaluation?, arrival?]
    rw [seen]
    exact ⟨.trying unresolved within still (silent still), ordered.numbers, ordered.taken⟩
  by_cases takes : ∃ owner message rest, move = .process origin.id ∧
      service.origin? origin.id = some owner ∧ owner.mailbox = message :: rest ∧
        message.request = wanted
  · obtain ⟨owner, message, rest, rfl, found, oldest, about⟩ := takes
    have ends := Option.some.inj (moving.symm.trans (after?_process found oldest))
    rw [settings_of_origin? regular.orderly.contexts trying.known found] at ends
    obtain ⟨completion, rfl⟩ :=
      trying.completed regular unhindered.unset about ends
    exact Verdict.taken unresolved within trying ordered regular regularAfter earlier found oldest
      about ends
  · obtain ⟨request, owned, tries⟩ := trying.owned
    obtain rfl := tries.id
    have apart : service.Apart origin.id request.id move := by
      refine ⟨works, ?_, stays⟩
      intro owner message rest process found oldest about
      exact takes ⟨owner, message, rest, process, found, oldest, about⟩
    have moved := moved_of_after? regular.orderly.ready moving
    have still := trying.spared (moved.spares regular.orderly regular.tracked owned apart)
    rw [note_of_apart regular owned apart]
    exact ⟨.trying unresolved within still (silent still), ordered⟩

/-- A move keeps the verdict up with what is seen. -/
theorem Verdict.moved (verdict : service.Verdict origin query wanted history)
    (ordered : history.Ordered) (regular : service.Regular schema)
    (regularAfter : after.Regular schema) (valid : query.predicate.check schema = .ok ())
    (calm : ∀ hook ∈ query.hook, ∀ run, Calm (hook run))
    (unhindered : after.Unhindered wanted origin.dispatcher)
    (moving : service.after? move = some after) (stays : move ≠ .dropOrigin origin.id) :
    after.Verdict origin query wanted (service.note wanted history move) ∧
      (service.note wanted history move).Ordered := by
  have moved := moved_of_after? regular.orderly.ready moving
  have same : ∀ {state attempts}, service.Over wanted state attempts →
      (service.note wanted history move).trials = history.trials :=
    fun settled => trials_note_of_idle settled.idle history move
  have kept : ∀ {state attempts}, service.Over wanted state attempts →
      (service.note wanted history move).Ordered := by
    intro _ _ settled
    exact ⟨same settled ▸ ordered.numbers, same settled ▸ ordered.taken⟩
  cases verdict with
  | trying unresolved within trying _ =>
      exact Verdict.tried unresolved within trying ordered regular regularAfter valid calm
        unhindered moving stays
  | converged trials unresolved resolvable within settled _ noticed =>
      obtain ⟨seen, noticed⟩ := noticed
      have still := settled.moved regular.orderly moved
      exact ⟨.converged ((same settled).trans trials) unresolved resolvable within still
        (still.called regularAfter (.inl rfl)) ⟨seen, moved.noticed noticed rfl⟩, kept settled⟩
  | failed trials unresolved budget spent taken older settled _ noticed =>
      have still := settled.moved regular.orderly moved
      exact ⟨.failed ((same settled).trans trials) (same settled ▸ unresolved) budget spent taken
        older still (still.called regularAfter (.inr rfl)) (moved.noticed noticed rfl),
        kept settled⟩

theorem Unhindered.earlier {pool : DispatcherId} {moves : List Move}
    (run : (Service.new schema).Reaches (fun _ move => move.Gentle) service)
    (later : service.afterAll? moves = some last) (gentle : ∀ move ∈ moves, move.Gentle)
    (unhindered : last.Unhindered wanted pool) : service.Unhindered wanted pool := by
  induction moves generalizing service with
  | nil =>
      obtain rfl := Option.some.inj later
      exact unhindered
  | cons move rest inductionHypothesis =>
      obtain ⟨after, moving, later⟩ := Option.bind_eq_some_iff.mp later
      have next := run.move move (gentle move List.mem_cons_self) moving
      have others := inductionHypothesis next later fun other member =>
        gentle other (List.mem_cons_of_mem move member)
      exact others.before (regular_of_reaches run) moving

/-- Moves one after the other keep the verdict up with what is seen. -/
theorem Verdict.watched {moves : List Move}
    (verdict : service.Verdict origin query wanted history) (ordered : history.Ordered)
    (run : (Service.new schema).Reaches (fun _ move => move.Gentle) service)
    (later : service.afterAll? moves = some last)
    (gentle : ∀ move ∈ moves, move.Gentle ∧ move ≠ .dropOrigin origin.id)
    (valid : query.predicate.check schema = .ok ())
    (calm : ∀ hook ∈ query.hook, ∀ run, Calm (hook run))
    (unhindered : last.Unhindered wanted origin.dispatcher) :
    last.Verdict origin query wanted (service.watch wanted history moves) ∧
      (service.watch wanted history moves).Ordered := by
  induction moves generalizing service history with
  | nil =>
      obtain rfl := Option.some.inj later
      exact ⟨verdict, ordered⟩
  | cons move rest inductionHypothesis =>
      obtain ⟨after, moving, later⟩ := Option.bind_eq_some_iff.mp later
      obtain ⟨allowed, stays⟩ := gentle move List.mem_cons_self
      have others : ∀ next ∈ rest, next.Gentle ∧ next ≠ .dropOrigin origin.id :=
        fun next member => gentle next (List.mem_cons_of_mem move member)
      have next := run.move move allowed moving
      have clear := unhindered.earlier next later fun other member => (others other member).1
      obtain ⟨verdict, ordered⟩ := verdict.moved ordered (regular_of_reaches run)
        (regular_of_reaches next) valid calm clear moving stays
      simp only [watch, moving]
      exact inductionHypothesis verdict ordered next later others

/-- A query is tried for the first time when it is submitted. -/
theorem trying_submitted (regular : service.Regular schema)
    (found : service.origin? id = some owner)
    (submits : service.after? (.submit id query) = some submitted)
    (opened : ¬ service.Shut owner.settings.dispatcher) :
    submitted.Trying owner.settings query ⟨service.requestsMade + 1⟩ [] 1 := by
  obtain rfl := origin?_id found
  let request := query.request ⟨service.requestsMade + 1⟩ owner.settings.id
  let counted := (service.countRequest.count owner.settings.registry .submitted).report
    (.submitted request.id owner.settings.id query.policy)
  have known : owner.settings ∈ service.originSettings :=
    List.mem_map_of_mem (List.mem_of_find?_eq_some found)
  have unused : ∀ attempt ∈ service.attempts, attempt.request ≠ ⟨service.requestsMade + 1⟩ := by
    intro attempt member same
    have made := regular.tracked.ticketsMade _ (mem_tickets.mpr (.inl ⟨attempt, member, rfl⟩))
    rw [same] at made
    exact Nat.not_succ_le_self _ made
  obtain ⟨pool, there, openPool, free⟩ :=
    exists_open_dispatcher regular.provided known opened unused
  have same : counted.dispatcher? owner.settings.dispatcher = some pool := there
  have tries : request.Tries query ⟨service.requestsMade + 1⟩ 0 := ⟨rfl, rfl, rfl, rfl, rfl, rfl⟩
  have launched : Service.Trying _ owner.settings query ⟨service.requestsMade + 1⟩ [] 1 :=
    trying_launched (.inl rfl) tries same openPool free known []
  let inserted := (counted.launchAttempt owner.settings request).1.putBack owner.settings.id
    (counted.launchAttempt owner.settings request).2
  have ends : inserted.keepHandle query.label ⟨request.id, owner.settings.id⟩ = submitted := by
    simp only [after?, found, Option.map_some, Option.some.injEq] at submits
    exact submits
  exact ends ▸ launched.spared (spares_keepHandle _ _)

theorem not_underway (idle : wanted ∉ service.tickets) : ¬ service.Underway id wanted := by
  have unused : ∀ attempt ∈ service.attempts, attempt.request ≠ wanted :=
    fun attempt member same => idle (mem_tickets.mpr (.inl ⟨attempt, member, same⟩))
  rintro (⟨completion, held, about⟩ | ⟨attempt, member, same, _⟩ | fewer)
  · exact idle (mem_tickets.mpr (.inr ⟨_, completion, held, about⟩))
  · exact unused attempt member same
  · have nothing : (service.attempts.find? fun attempt => attempt.request = wanted) = none :=
      List.find?_eq_none.mpr fun attempt member => by simpa using unused attempt member
    have left : service.stepsLeft wanted = 0 := by
      simp only [stepsLeft, nothing]
    exact Nat.not_lt_zero _ (left ▸ fewer)

/-- A request that is tried is under way, and one that is over is not. -/
theorem Verdict.silent_iff (verdict : service.Verdict origin query wanted history) :
    service.callsOf wanted = [] ↔ service.Underway origin.id wanted := by
  have worked : ∀ attempt ∈ service.attempts, attempt.request = wanted →
      service.Underway origin.id wanted := by
    rintro attempt member rfl
    by_cases starved : service.Starved attempt.request
    · exact .inr (.inl starved)
    · exact .inr (.inr (stepsLeft_advance_lt member starved))
  cases verdict with
  | trying _ _ trying silent =>
      refine iff_of_true silent ?_
      cases trying.awaited with
      | ahead member serves _ => exact worked _ member serves.request
      | found member serves _ _ _ => exact worked _ member serves.request
      | posted held about _ _ _ => exact .inl ⟨_, held, about⟩
  | converged _ _ _ _ settled called _ =>
      exact iff_of_false (called ▸ List.cons_ne_nil _ _) (not_underway settled.idle)
  | failed _ _ _ _ _ _ settled called _ =>
      exact iff_of_false (called ▸ List.cons_ne_nil _ _) (not_underway settled.idle)

/-- Bounded convergence.  A query is submitted, is neither cancelled nor refused, and its hook does
not panic; its origin stays, and the others write, collect, cancel and submit as they like.  As long
as none of its attempts was resolvable it is tried again within its budget, and nothing is called.
It succeeds on the first attempt that is resolvable, and if there is none it fails on the attempt
that follows the last retry.  Then no attempt of it is started any more.  While nothing is called
the result of the latest attempt is posted, or the attempt comes on with the next step of its
worker, unless all workers are busy. -/
theorem bounded_convergence
    (run : (Service.new schema).Reaches (fun _ move => move.Gentle) service)
    (found : service.origin? id = some owner)
    (submits : service.after? (.submit id query) = some submitted)
    {moves : List Move} (later : submitted.afterAll? moves = some last)
    (gentle : ∀ move ∈ moves, move.Gentle ∧ move ≠ .dropOrigin id)
    (valid : query.predicate.check schema = .ok ())
    (calm : ∀ hook ∈ query.hook, ∀ run, Calm (hook run))
    (unhindered : last.Unhindered ⟨service.requestsMade + 1⟩ owner.settings.dispatcher) :
    let wanted : RequestId := ⟨service.requestsMade + 1⟩
    let history := submitted.watch wanted .empty moves
    history.Ordered ∧ last.Verdict owner.settings query wanted history ∧
      (last.callsOf wanted = [] ↔ last.Underway id wanted) := by
  intro wanted history
  obtain rfl := origin?_id found
  have regular := regular_of_reaches run
  have next := run.move (.submit owner.settings.id query) trivial submits
  have clear : submitted.Unhindered wanted owner.settings.dispatcher :=
    unhindered.earlier next later fun move member => (gentle move member).1
  have trying : submitted.Trying owner.settings query wanted [] 1 :=
    trying_submitted regular found submits (clear.before regular submits).opened
  obtain ⟨request, owned, tries⟩ := trying.owned
  have silent : submitted.callsOf wanted = [] :=
    tries.id ▸ callsOf_of_owned (regular_of_reaches next) owned
  have first : submitted.Verdict owner.settings query wanted .empty := by
    refine .trying ?_ ?_ trying silent
    · exact fun _ member => absurd member List.not_mem_nil
    · exact fun limit _ => Nat.zero_le limit
  obtain ⟨verdict, ordered⟩ :=
    first.watched History.ordered_empty next later gentle valid calm unhindered
  exact ⟨ordered, verdict, verdict.silent_iff⟩

/-- The first attempt is overtaken by a write, and the query succeeds on the second one. -/
theorem bounded_convergence_of_overtaken :
    let query : Query := { allRows "overtaken" with policy := .indefinite }
    let moves : List Move := overtakenQuery.drop 4 ++ [.process ⟨1⟩]
    ∃ service owner submitted last,
      (Service.new itemsSchema).afterAll? (overtakenQuery.take 3) = some service ∧
      service.origin? ⟨1⟩ = some owner ∧
      service.after? (.submit ⟨1⟩ query) = some submitted ∧
      submitted.afterAll? moves = some last ∧
      last.Unhindered ⟨1⟩ owner.settings.dispatcher ∧
      last.Verdict owner.settings query ⟨1⟩ (submitted.watch ⟨1⟩ .empty moves) ∧
      (submitted.watch ⟨1⟩ .empty moves).trials.map Trial.number = [1, 2] ∧
      last.callsOf ⟨1⟩ = [.converged] := by
  intro query moves
  have sample : (((Service.new itemsSchema).afterAll? (overtakenQuery.take 3)).bind fun service =>
      (service.origin? ⟨1⟩).bind fun _ => (service.after? (.submit ⟨1⟩ query)).bind fun submitted =>
        (submitted.afterAll? moves).map fun last =>
          ((service.requestsMade, last.store.poisoned, last.cancelled),
            last.dispatchers.all fun pool => !pool.closed,
            (submitted.watch ⟨1⟩ .empty moves).trials.map Trial.number, last.callsOf ⟨1⟩)) =
      some ((0, false, []), true, [1, 2], [.converged]) := by
    decide +kernel
  obtain ⟨service, before, sample⟩ := Option.bind_eq_some_iff.mp sample
  obtain ⟨owner, found, sample⟩ := Option.bind_eq_some_iff.mp sample
  obtain ⟨submitted, submits, sample⟩ := Option.bind_eq_some_iff.mp sample
  obtain ⟨last, later, sample⟩ := Option.map_eq_some_iff.mp sample
  simp only [Prod.mk.injEq] at sample
  obtain ⟨⟨unused, sound, uncancelled⟩, opened, numbers, called⟩ := sample
  have allowed : ∀ move ∈ overtakenQuery, move.Gentle := by
    simp [overtakenQuery, Move.Gentle]
  have run : (Service.new itemsSchema).Reaches (fun _ move => move.Gentle) service :=
    reaches_of_afterAll? before fun move member _ => allowed move (List.mem_of_mem_take member)
  have gentle : ∀ move ∈ moves, move.Gentle ∧ move ≠ .dropOrigin ⟨1⟩ := by
    simp [moves, overtakenQuery, Move.Gentle]
  have unhindered : last.Unhindered ⟨service.requestsMade + 1⟩ owner.settings.dispatcher := by
    refine ⟨sound, uncancelled ▸ List.not_mem_nil, ?_⟩
    rintro ⟨pool, member, _, closed⟩
    simpa [closed] using List.all_eq_true.mp opened pool member
  have calm : ∀ hook ∈ query.hook, ∀ run, Calm (hook run) :=
    fun _ carried => absurd carried (Option.not_mem_none _)
  have converges := bounded_convergence run found submits later gentle rfl calm unhindered
  rw [unused] at converges unhindered
  exact ⟨service, owner, submitted, last, before, found, submits, later, unhindered, converges.2.1,
    numbers, called⟩

end Service

end SnapshotQuery
