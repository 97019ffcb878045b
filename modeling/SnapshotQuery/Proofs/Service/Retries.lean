import SnapshotQuery.Proofs.Service.Bystanders
import SnapshotQuery.Proofs.Service.Delivery
import SnapshotQuery.Proofs.Service.Evaluation
import SnapshotQuery.Proofs.Service.Provision

/-!
# A request between two results

A request that is neither cancelled nor refused always waits for one attempt.  A
worker takes the attempt from phase to phase, and its origin takes the result up:
the request is over, or it waits for the next attempt.
-/

namespace SnapshotQuery

/-- The request of a query, with so many attempts started. -/
structure Request.Tries (request : Request) (query : Query) (wanted : RequestId) (attempts : Nat) :
    Prop where
  id : request.id = wanted
  label : request.label = query.label
  predicate : request.predicate = query.predicate
  policy : request.policy = query.policy
  hook : request.hook = query.hook
  attempts : request.attempts = attempts

/-- An attempt of the request of a query with the dispatcher of its origin. -/
structure Attempt.Serves (attempt : Attempt) (origin : OriginSettings) (query : Query)
    (wanted : RequestId) (number : Nat) : Prop where
  request : attempt.request = wanted
  dispatcher : attempt.dispatcher = origin.dispatcher
  origin : attempt.origin = origin.id
  number : attempt.number = number
  predicate : attempt.predicate = query.predicate
  hook : ∀ hook ∈ attempt.hook, hook ∈ query.hook

/-- The attempt was not evaluated yet, nor given up. -/
def Phase.isAhead : Phase → Bool
  | queued | admitted | cleared => true
  | abandoned | finished _ | released _ | checked _ => false

variable {query : Query} {wanted : RequestId} {attempts : Nat}

theorem Request.Tries.armHook {request : Request} (tries : request.Tries query wanted attempts)
    (limit : Option Nat) :
    let armed := { request with state := .running, attempts := request.attempts + 1 }.armHook limit
    armed.1.Tries query wanted (attempts + 1) ∧ ∀ hook ∈ armed.2, hook ∈ query.hook := by
  obtain ⟨id, label, predicate, policy, hook, number⟩ := tries
  have next : request.attempts + 1 = attempts + 1 := congrArg (· + 1) number
  unfold Request.armHook
  split
  · exact ⟨⟨id, label, predicate, policy, hook, next⟩, nofun⟩
  · rename_i carried
    split
    · exact ⟨⟨id, label, predicate, policy, hook, next⟩, nofun⟩
    · refine ⟨⟨id, label, predicate, policy, hook, next⟩, ?_⟩
      intro given same
      obtain rfl := Option.some.inj same
      exact hook.symm.trans carried

namespace Service

/-- The request waits for an attempt: it is ahead of its evaluation, or it has found rows of the
version it was evaluated at, or these have been posted. -/
inductive Awaited (service : Service) (origin : OriginSettings) (query : Query)
    (wanted : RequestId) (evaluations : List (Nat × VersionStamp)) (number : Nat) : Prop
  | ahead {attempt} (member : attempt ∈ service.attempts)
      (serves : attempt.Serves origin query wanted number)
      (ahead : attempt.phase.isAhead = true)
  | found {attempt outcome version} (member : attempt ∈ service.attempts)
      (serves : attempt.Serves origin query wanted number)
      (passed : attempt.phase.outcome? = some outcome)
      (evaluated : evaluations.lookup number = some version)
      (genuine : Genuine version outcome.result outcome.snapshot)
  | posted {completion version} (held : service.Holds origin.id (.completed completion))
      (about : completion.request = wanted) (current : completion.attempt = number)
      (evaluated : evaluations.lookup number = some version)
      (genuine : Genuine version completion.result completion.snapshot)

/-- The request is owned by its origin and waits for its attempt of a number. -/
structure Trying (service : Service) (origin : OriginSettings) (query : Query)
    (wanted : RequestId) (evaluations : List (Nat × VersionStamp)) (number : Nat) : Prop where
  known : origin ∈ service.originSettings
  owned : ∃ request, service.Owns origin.id request ∧ request.Tries query wanted number
  awaited : service.Awaited origin query wanted evaluations number

/-- The request has ended in a state after so many attempts, and nothing of it is under way. -/
structure Over (service : Service) (wanted : RequestId) (state : RequestState) (attempts : Nat) :
    Prop where
  ended : ∃ final ∈ service.ended, final.id = wanted ∧ final.state = state ∧
    final.attempts = attempts
  idle : wanted ∉ service.tickets

/-- What holds of every service that is used gently. -/
structure Regular (schema : TableSchema) (service : Service) : Prop where
  orderly : service.Orderly
  tracked : service.Tracked
  accounted : service.Accounted
  provided : service.Provided
  gentle : Gentle service.faults
  coherent : service.store.Coherent
  schema : service.store.schema = schema

/-- Nothing has happened that ends a request from outside. -/
structure Unhindered (service : Service) (wanted : RequestId) (pool : DispatcherId) : Prop where
  sound : service.store.poisoned = false
  unset : wanted ∉ service.cancelled
  opened : ¬ service.Shut pool

/-- The attempt of a request that a worker is about to evaluate, with the current version. -/
def evaluating? (service : Service) (wanted : RequestId) : Option (Nat × VersionStamp) :=
  match service.attempts.find? fun attempt => attempt.request = wanted with
  | some attempt =>
      match attempt.phase with
      | .cleared => some (attempt.number, service.store.currentVersion)
      | _ => none
  | none => none

variable {service after moment : Service} {origin : OriginSettings} {owner : Origin}
  {evaluations : List (Nat × VersionStamp)} {number : Nat} {attempt : Attempt} {request : Request}
  {id : ContextId} {move : Move}

theorem Awaited.spared (awaited : service.Awaited origin query wanted evaluations number)
    (spares : Spares origin.id wanted service after) :
    after.Awaited origin query wanted evaluations number := by
  cases awaited with
  | ahead member serves ahead =>
      exact .ahead (spares.attempts _ member serves.request) serves ahead
  | found member serves passed evaluated genuine =>
      exact .found (spares.attempts _ member serves.request) serves passed evaluated genuine
  | posted held about current evaluated genuine =>
      exact .posted (spares.holds _ about held) about current evaluated genuine

theorem Trying.spared (trying : service.Trying origin query wanted evaluations number)
    (spares : Spares origin.id wanted service after) :
    after.Trying origin query wanted evaluations number where
  known := spares.settings origin trying.known rfl
  owned := by
    obtain ⟨request, owned, tries⟩ := trying.owned
    exact ⟨request, spares.owns request tries.id owned, tries⟩
  awaited := trying.awaited.spared spares

/-- A request that has ended stays so, and no attempt of it is started again. -/
theorem Over.moved {state : RequestState} (settled : service.Over wanted state attempts)
    (orderly : service.Orderly) (moved : service.Moved move after) :
    after.Over wanted state attempts := by
  obtain ⟨⟨final, member, rfl, ending⟩, idle⟩ := settled
  constructor
  · refine ⟨final, ?_, rfl, ending⟩
    rcases moved.grows with grows | ⟨faults, _, rfl⟩
    · exact grows.ended.subset member
    · exact member
  · intro ticket
    rcases moved.tickets orderly.contexts ticket with old | ⟨id, request, owned, about⟩ | new
    · exact idle old
    · exact orderly.apart id request owned final member about.symm
    · have made := orderly.endedMade final member
      omega

theorem mem_originSettings_of_origin? {owner : Origin} (found : service.origin? id = some owner) :
    owner.settings ∈ service.originSettings :=
  List.mem_map_of_mem (List.mem_of_find?_eq_some found)

theorem mem_contextIds_of_originSettings (known : origin ∈ service.originSettings) :
    origin.id ∈ service.contextIds := by
  obtain ⟨owner, among, rfl⟩ := List.mem_map.mp known
  exact List.mem_map_of_mem among

section Launching

/-- An open dispatcher that has no attempt of the request. -/
theorem exists_open_dispatcher (provided : service.Provided)
    (known : origin ∈ service.originSettings) (opened : ¬ service.Shut origin.dispatcher)
    (unused : ∀ attempt ∈ service.attempts, attempt.request ≠ wanted) :
    ∃ pool, service.dispatcher? origin.dispatcher = some pool ∧ pool.closed = false ∧
      wanted ∉ pool.inFlight := by
  obtain ⟨other, otherMember, same⟩ := List.mem_map.mp (provided.housed origin known)
  obtain ⟨pool, found⟩ : ∃ pool, service.dispatcher? origin.dispatcher = some pool :=
    Option.isSome_iff_exists.mp
      (List.find?_isSome.mpr ⟨other, otherMember, decide_eq_true same⟩)
  have member := List.mem_of_find?_eq_some found
  refine ⟨pool, found, ?_, ?_⟩
  · rw [← Bool.not_eq_true]
    exact fun closed => opened ⟨pool, member, dispatcher?_id found, closed⟩
  · intro flies
    obtain ⟨attempt, among, about, _⟩ :=
      exists_of_mem_flyingAmong ((provided.flown.inFlight pool member).mem_iff.mp flies)
    exact unused attempt among about

theorem launchAttempt_accepted {pool : Dispatcher}
    (idle : request.state = .pending ∨ request.state = .retrying)
    (tries : request.Tries query wanted attempts)
    (found : service.dispatcher? origin.dispatcher = some pool) (opened : pool.closed = false)
    (free : wanted ∉ pool.inFlight) :
    ∃ attempt started, attempt.Serves origin query wanted (attempts + 1) ∧
      attempt.phase = .queued ∧ started.Tries query wanted (attempts + 1) ∧
      (service.launchAttempt origin request).2 = started ∧
      attempt ∈ (service.launchAttempt origin request).1.attempts := by
  obtain ⟨next, carried⟩ := tries.armHook origin.config.simulation.maxBackgroundHookRuns
  simp only [launchAttempt, Request.startAttempt_eq idle]
  generalize Request.armHook _ _ = armed at next carried ⊢
  obtain ⟨started, hook⟩ := armed
  have same : (service.report
      (.attemptDispatched started.id started.attempts hook.isSome)).dispatcher? origin.dispatcher =
        some pool := found
  have unused : started.id ∉ pool.inFlight := next.id ▸ free
  simp only [dispatch, same, opened, if_neg Bool.false_ne_true, if_neg unused]
  exact ⟨_, started, ⟨next.id, rfl, rfl, next.attempts, next.predicate, carried⟩, rfl, next, rfl,
    List.mem_append_right _ List.mem_cons_self⟩

/-- A request whose next attempt is accepted waits for that attempt. -/
theorem trying_launched {pool : Dispatcher}
    (idle : request.state = .pending ∨ request.state = .retrying)
    (tries : request.Tries query wanted attempts)
    (found : service.dispatcher? origin.dispatcher = some pool) (opened : pool.closed = false)
    (free : wanted ∉ pool.inFlight) (known : origin ∈ service.originSettings)
    (evaluations : List (Nat × VersionStamp)) :
    ((service.launchAttempt origin request).1.putBack origin.id
      (service.launchAttempt origin request).2).Trying origin query wanted evaluations
        (attempts + 1) := by
  have launched : service.Launched origin request (service.launchAttempt origin request) :=
    launched_launchAttempt idle
  obtain ⟨attempt, started, serves, queued, next, same, member⟩ :=
    launchAttempt_accepted idle tries found opened free
  have spares : Spares origin.id wanted service (service.launchAttempt origin request).1 :=
    launched.spares
  have housed := spares.settings origin known rfl
  rw [launched.putBack]
  generalize service.launchAttempt origin request = result at *
  subst same
  have there := mem_contextIds_of_originSettings housed
  refine ⟨?_, ⟨_, owns_insertLive_self there result.2, next⟩, ?_⟩
  · rw [insertLive, originSettings_updateOrigin]
    · exact housed
    · exact fun _ => rfl
  · exact .ahead member serves (queued ▸ rfl)

end Launching

section Working

theorem find?_attempt (distinct : (service.attempts.map fun attempt => attempt.request).Nodup)
    (member : attempt ∈ service.attempts) :
    (service.attempts.find? fun other => other.request = attempt.request) = some attempt := by
  cases found : service.attempts.find? fun other => other.request = attempt.request with
  | none => exact absurd (decide_eq_true rfl) (List.find?_eq_none.mp found attempt member)
  | some other =>
      have same : other.request = attempt.request := request_of_find? found
      rw [List.inj_on_of_nodup_map distinct (List.mem_of_find?_eq_some found) member same]

/-- A request whose result is posted has no attempt. -/
theorem Holds.no_attempt {completion : Completion} (held : service.Holds id (.completed completion))
    (distinct : service.tickets.Nodup) :
    ∀ attempt ∈ service.attempts, attempt.request ≠ completion.request := by
  obtain ⟨origin, among, _, posted⟩ := held
  intro attempt member
  refine (List.nodup_append.mp distinct).2.2 _ (List.mem_map_of_mem member) _ ?_
  exact List.mem_flatMap.mpr ⟨origin, among, List.mem_filterMap.mpr ⟨_, posted, rfl⟩⟩

theorem Trying.setPhase (trying : service.Trying origin query wanted evaluations number)
    (interlude : Interlude [] service moment) (member : attempt ∈ service.attempts)
    (serves : attempt.Serves origin query wanted number) {phase : Phase}
    {later : List (Nat × VersionStamp)}
    (awaited : ∀ changed ∈ (moment.setPhase wanted phase).attempts,
      changed.Serves origin query wanted number → changed.phase = phase →
        (moment.setPhase wanted phase).Awaited origin query wanted later number) :
    (moment.setPhase wanted phase).Trying origin query wanted later number := by
  have spares : Spares origin.id wanted service moment := interlude.spares
  obtain ⟨request, owned, tries⟩ := trying.owned
  refine ⟨spares.settings origin trying.known rfl, ⟨request, spares.owns _ tries.id owned, tries⟩,
    awaited { attempt with phase } ?_ ?_ rfl⟩
  · exact List.mem_map.mpr ⟨attempt, interlude.attempts ▸ member, if_pos serves.request⟩
  · exact ⟨serves.request, serves.dispatcher, serves.origin, serves.number, serves.predicate,
      serves.hook⟩

theorem Trying.giveWorker (trying : service.Trying origin query wanted evaluations number)
    (member : attempt ∈ service.attempts) (serves : attempt.Serves origin query wanted number)
    (opened : ¬ service.Shut origin.dispatcher) :
    (service.giveWorker attempt).Trying origin query wanted evaluations number := by
  unfold Service.giveWorker
  cases found : service.dispatcher? attempt.dispatcher with
  | none => exact trying
  | some pool =>
      have same : pool.id = attempt.dispatcher := dispatcher?_id found
      simp only
      split
      · rename_i closed
        exact absurd ⟨pool, List.mem_of_find?_eq_some found, same.trans serves.dispatcher, closed⟩
          opened
      · split
        · exact trying
        · rw [serves.request]
          exact trying.setPhase (interlude_updateDispatcher _ _ _) member serves
            fun _ changed serves same => .ahead changed serves (same ▸ rfl)

theorem Trying.postOutcome (trying : service.Trying origin query wanted evaluations number)
    (serves : attempt.Serves origin query wanted number)
    {outcome : Outcome} {version : VersionStamp}
    (evaluated : evaluations.lookup number = some version)
    (genuine : Genuine version outcome.result outcome.snapshot) :
    (service.postOutcome attempt outcome).Trying origin query wanted evaluations number := by
  have freed : ∃ moment, Interlude [] service moment ∧
      (if outcome.evaluated then service.freeWorker attempt else service) = moment := by
    split
    · exact ⟨_, interlude_freeWorker, rfl⟩
    · exact ⟨service, .refl service, rfl⟩
  obtain ⟨moment, interlude, same⟩ := freed
  let posted := moment.post attempt.origin (.completed (attempt.completion outcome))
  have spares : Spares origin.id wanted service posted := interlude.spares.trans (spares_post _)
  have there : attempt.origin ∈ moment.contextIds := by
    rw [interlude.contextIds, serves.origin]
    exact mem_contextIds_of_originSettings trying.known
  have held : posted.Holds attempt.origin (.completed (attempt.completion outcome)) :=
    holds_post_self there
  rw [serves.origin] at held
  obtain ⟨request, owned, tries⟩ := trying.owned
  obtain ⟨owner, found⟩ := exists_origin? there
  simp only [Service.postOutcome, same, found]
  exact ⟨spares.settings origin trying.known rfl, ⟨request, spares.owns _ tries.id owned, tries⟩,
    .posted held serves.request serves.number evaluated genuine⟩

theorem Trying.evaluate {schema : TableSchema}
    (trying : service.Trying origin query wanted evaluations number)
    (regular : service.Regular schema) (valid : query.predicate.check schema = .ok ())
    (calm : ∀ hook ∈ query.hook, ∀ run, Calm (hook run)) (member : attempt ∈ service.attempts)
    (serves : attempt.Serves origin query wanted number)
    (sound : (service.evaluateAttempt attempt).1.store.poisoned = false) :
    ((service.evaluateAttempt attempt).1.setPhase wanted
      (.finished (service.evaluateAttempt attempt).2)).Trying origin query wanted
        ((attempt.number, service.store.currentVersion) :: evaluations) number := by
  have genuine := genuine_evaluateAttempt regular.gentle regular.coherent regular.provided.backs
    (regular.schema.symm ▸ serves.predicate ▸ valid)
    (fun hook carried => calm hook (serves.hook hook carried)) sound
  refine trying.setPhase (service.interlude_evaluateAttempt attempt) member serves ?_
  intro changed among still same
  refine .found among still (same ▸ rfl) ?_ genuine
  rw [serves.number, List.lookup_cons_self]

/-- A step of the worker brings the attempt closer to the mailbox. -/
theorem Trying.advance {schema : TableSchema}
    (trying : service.Trying origin query wanted evaluations number)
    (regular : service.Regular schema) (valid : query.predicate.check schema = .ok ())
    (calm : ∀ hook ∈ query.hook, ∀ run, Calm (hook run))
    (unhindered : service.Unhindered wanted origin.dispatcher)
    (sound : (service.advance wanted).store.poisoned = false) :
    (service.advance wanted).Trying origin query wanted
      ((service.evaluating? wanted).toList ++ evaluations) number := by
  have distinct := regular.tracked.distinct
  have unset : service.isCancelled wanted = false := decide_eq_false unhindered.unset
  cases trying.awaited with
  | posted held about _ _ _ =>
      have nothing : (service.attempts.find? fun attempt => attempt.request = wanted) = none := by
        refine List.find?_eq_none.mpr fun attempt member => ?_
        have other := held.no_attempt regular.tracked.tickets attempt member
        simpa using about ▸ other
      simp only [Service.advance, evaluating?, nothing]
      exact trying
  | @ahead attempt member serves ahead =>
      have found := find?_attempt distinct member
      rw [serves.request] at found
      simp only [Service.advance, evaluating?, found, advanceAttempt] at sound ⊢
      cases phase : attempt.phase with
      | queued => exact trying.giveWorker member serves unhindered.opened
      | admitted =>
          simp only [serves.request, unset]
          exact trying.setPhase (.refl service) member serves
            fun _ changed serves same => .ahead changed serves (same ▸ rfl)
      | cleared =>
          simp only [phase, serves.request] at sound ⊢
          exact trying.evaluate regular valid calm member serves sound
      | abandoned | finished | released | checked =>
          rw [phase] at ahead
          cases ahead
  | @found attempt outcome version member serves passed evaluated genuine =>
      have found := find?_attempt distinct member
      rw [serves.request] at found
      simp only [Service.advance, evaluating?, found, advanceAttempt]
      cases phase : attempt.phase with
      | queued | admitted | cleared | abandoned =>
          rw [phase] at passed
          cases passed
      | finished other =>
          rw [phase] at passed
          obtain rfl := Option.some.inj passed
          simp only [serves.request]
          exact trying.setPhase interlude_leaveFlight member serves
            fun _ changed serves same => .found changed serves (same ▸ rfl) evaluated genuine
      | released other =>
          rw [phase] at passed
          obtain rfl := Option.some.inj passed
          have reported : Interlude [] service (if other.evaluated then
              service.report (.attemptCompleted wanted attempt.number other.result)
            else service) := by
            split
            · exact service.interlude_report _
            · exact .refl service
          simp only [serves.request, unset, if_neg Bool.false_ne_true]
          exact trying.setPhase reported member serves
            fun _ changed serves same => .found changed serves (same ▸ rfl) evaluated genuine
      | checked other =>
          rw [phase] at passed
          obtain rfl := Option.some.inj passed
          exact trying.postOutcome serves evaluated genuine

end Working

section Results

variable {schema : TableSchema} {completion : Completion} {rest : List Message} {rows : RowSet}

/-- The result a request waits for is the oldest message of its origin, which takes it up. -/
structure Arrives (service : Service) (origin : OriginSettings) (query : Query)
    (wanted : RequestId) (number : Nat) (completion : Completion) (rest : List Message)
    (rows : RowSet) (request : Request) : Prop where
  live : (service.leaveMessages origin.id rest).liveRequest? origin.id completion.request =
    some request
  accepted : (service.leaveMessages origin.id rest).Accepted origin completion request
  ready : request.Ready
  tries : request.Tries query wanted number
  result : completion.result = .ok rows
  retained : service.store.Retained rows.version
  free : wanted ∉ (service.leaveMessages origin.id rest).tickets

theorem mem_holdings_of_holds {message : Message} {snapshot : Snapshot}
    (held : service.Holds id message) (carried : message.snapshot? = some snapshot) :
    snapshot ∈ service.holdings := by
  obtain ⟨origin, among, _, posted⟩ := held
  have member : snapshot ∈ origin.snapshots := List.mem_filterMap.mpr ⟨message, posted, carried⟩
  simp only [holdings, List.mem_append, List.mem_flatMap]
  exact .inr (.inr (.inr ⟨origin, among, member⟩))

/-- The result about a request is that of the attempt it waits for. -/
theorem Trying.genuine (trying : service.Trying origin query wanted evaluations number)
    (regular : service.Regular schema) (found : service.origin? origin.id = some owner)
    (oldest : owner.mailbox = .completed completion :: rest)
    (about : completion.request = wanted) :
    completion.attempt = number ∧ ∃ version, evaluations.lookup number = some version ∧
      Genuine version completion.result completion.snapshot := by
  have contexts := regular.orderly.contexts
  have others := (holds_of_origin? found oldest).no_attempt regular.tracked.tickets
  cases trying.awaited with
  | ahead member serves _ => exact absurd (serves.request.trans about.symm) (others _ member)
  | found member serves _ _ _ => exact absurd (serves.request.trans about.symm) (others _ member)
  | posted held same current evaluated genuine =>
      rcases held.leaveMessages contexts found oldest with left | ⟨_, taken⟩
      · have ticket := mem_tickets.mpr (.inr ⟨_, _, left, same.trans about.symm⟩)
        exact absurd ticket (regular.tracked.free contexts found oldest)
      · obtain rfl := Message.completed.inj taken
        exact ⟨current, _, evaluated, genuine⟩

/-- The request is found among those of its origin while a message is handled. -/
theorem Trying.live (trying : service.Trying origin query wanted evaluations number)
    (regular : service.Regular schema) (rest : List Message) :
    ∃ request, (service.leaveMessages origin.id rest).liveRequest? origin.id wanted =
      some request ∧ service.Owns origin.id request ∧ request.Tries query wanted number := by
  obtain ⟨request, owned, tries⟩ := trying.owned
  have within : (service.leaveMessages origin.id rest).Within service := within_leaveMessages rest
  have left : (service.leaveMessages origin.id rest).Owns origin.id request :=
    owns_leaveMessages_iff.mpr owned
  obtain ⟨held, live⟩ := Option.ne_none_iff_exists'.mp
    (liveRequest?_ne_none (regular.orderly.contexts.sublist within.contexts) left)
  obtain ⟨heldOwned, same⟩ := owns_of_liveRequest? live
  obtain rfl := (regular.orderly.within within).unique _ _ _ _ left heldOwned same
  exact ⟨held, tries.id ▸ live, owned, tries⟩

theorem Trying.arrives (trying : service.Trying origin query wanted evaluations number)
    (regular : service.Regular schema) (unset : wanted ∉ service.cancelled)
    (found : service.origin? origin.id = some owner)
    (oldest : owner.mailbox = .completed completion :: rest)
    (about : completion.request = wanted) :
    completion.attempt = number ∧ ∃ rows request,
      service.Arrives origin query wanted number completion rest rows request ∧
        evaluations.lookup number = some rows.version := by
  have contexts := regular.orderly.contexts
  have here : service.Holds origin.id (.completed completion) := holds_of_origin? found oldest
  obtain ⟨current, _, evaluated, rows, snapshot, result, rfl, carried, version, pinned⟩ :=
    trying.genuine regular found oldest about
  obtain ⟨held, live, owned, tries⟩ := trying.live regular rest
  rw [← about] at live
  refine ⟨current, rows, held, ⟨live, ⟨?_, ?_, ?_⟩, ?_, tries, result, ?_, ?_⟩, evaluated⟩
  · exact regular.tracked.own origin.id completion here
  · exact current.trans tries.attempts.symm
  · rw [tries.id]
    exact decide_eq_false unset
  · exact regular.orderly.ready origin.id held owned
  · exact version ▸ regular.provided.backs.retained snapshot (mem_holdings_of_holds here carried)
      pinned
  · exact about ▸ regular.tracked.free contexts found oldest

/-- A request that ends with the last result it waited for is over, and its calls were noticed. -/
theorem over_called {calls : List Observation} {held : Request} {state : RequestState}
    (tries : held.Tries query wanted number)
    (free : wanted ∉ (service.leaveMessages origin.id rest).tickets)
    (interlude : Interlude calls
      ((service.leaveMessages origin.id rest).removeLive origin.id held.id) moment)
    (terminal : state.isTerminal = true) {snapshots : List Snapshot}
    (ends : after = (moment.putBack origin.id (held.endedAs state)).releaseAll snapshots) :
    after.Over wanted state number ∧ calls ⊆ after.observations := by
  have retired : moment.putBack origin.id (held.endedAs state) =
      moment.retire (held.endedAs state) moment.cancelled := by
    simp only [putBack, Request.endedAs, terminal, if_true, retire]
  have closing := (moment.retire (held.endedAs state) moment.cancelled).interlude_releaseAll
    snapshots
  rw [← retired, ← ends] at closing
  rw [retired] at closing
  refine ⟨⟨?_, ?_⟩, ?_⟩
  · rw [closing.ended]
    exact ⟨_, List.mem_cons_self, tries.id, rfl, tries.attempts⟩
  · have same : (moment.retire (held.endedAs state) moment.cancelled).tickets = moment.tickets :=
      rfl
    rw [closing.tickets, same, interlude.tickets, tickets_removeLive]
    exact free
  · have made : after.callbacks = calls ++ _ := closing.callbacks.trans interlude.callbacks
    intro call member
    have noticed : call ∈ after.callbacks := made ▸ List.mem_append_left _ member
    exact (List.mem_filter.mp noticed).1

/-- The current attempt has succeeded if nothing was committed meanwhile, or its rows are brought
over without a loss. -/
theorem Arrives.converged
    (arrives : service.Arrives origin query wanted number completion rest rows request)
    (regular : service.Regular schema) (sound : service.store.poisoned = false)
    (resolvable : rows.version = service.store.currentVersion ∨
      origin.config.reconcileMode = .rederive ∧ service.store.Keeps rows) :
    ((service.leaveMessages origin.id rest).handle origin (.completed completion)).Over wanted
        .converged number ∧
      ∃ seen, .succeeded query.label wanted seen ∈
        ((service.leaveMessages origin.id rest).handle origin
          (.completed completion)).observations := by
  let taken := (service.leaveMessages origin.id rest).removeLive origin.id request.id
  have gentle : Gentle taken.faults := regular.gentle
  have coherent : taken.store.Coherent := regular.coherent
  obtain ⟨decided, outcome, view, reconciled, shown, same⟩ : ∃ decided outcome view,
      taken.reconcile origin.config.reconcileMode rows request.policy request.attempts false =
        (decided, outcome) ∧ outcome.view? = some view ∧ decided.cancelled = taken.cancelled :=
    reconcile_resolvable gentle sound coherent arrives.retained resolvable
  have unset : decided.isCancelled request.id = false := by
    rw [isCancelled, same]
    exact arrives.accepted.unset
  have delivers : taken.Delivers origin request rows outcome view
      (decided.announced origin request outcome) := ⟨⟨decided, reconciled, unset, rfl⟩, shown⟩
  obtain ⟨final, called⟩ := (decided.announced origin request outcome).interlude_deliverSuccess
    origin arrives.ready.onSuccess view
  have ends := handle_of_delivers arrives.live arrives.accepted arrives.ready arrives.result
    delivers
  rw [final] at ends
  obtain ⟨settled, noticed⟩ :=
    over_called arrives.tries arrives.free (delivers.interlude.trans called) rfl ends
  refine ⟨settled, ((decided.announced origin request outcome).inspect view).2, ?_⟩
  rw [← arrives.tries.label, ← arrives.tries.id]
  exact noticed List.mem_cons_self

theorem Arrives.unresolvable
    (arrives : service.Arrives origin query wanted number completion rest rows request)
    (regular : service.Regular schema) (sound : service.store.poisoned = false)
    (stale : rows.version ≠ service.store.currentVersion)
    (lost : origin.config.reconcileMode = .rederive → ¬ service.store.Keeps rows) :
    let taken := (service.leaveMessages origin.id rest).removeLive origin.id request.id
    let concluded := taken.conclude origin request.awaiting (query.policy.onMismatch rows.version
      service.store.currentVersion number false)
    (service.leaveMessages origin.id rest).handle origin (.completed completion) =
      (concluded.1.putBack origin.id concluded.2).releaseAll completion.snapshot.toList := by
  intro taken concluded
  have gentle : Gentle taken.faults := regular.gentle
  have coherent : taken.store.Coherent := regular.coherent
  have reconciled : taken.reconcile origin.config.reconcileMode rows request.policy
      request.attempts false = (taken, query.policy.onMismatch rows.version
        service.store.currentVersion number false) := by
    rw [arrives.tries.policy, arrives.tries.attempts]
    exact reconcile_unresolvable gentle sound coherent arrives.retained stale lost
  exact handle_of_reconciled arrives.live arrives.accepted arrives.ready arrives.result reconciled
    arrives.accepted.unset

theorem Arrives.retried
    (arrives : service.Arrives origin query wanted number completion rest rows request)
    (regular : service.Regular schema) (known : origin ∈ service.originSettings)
    (held : service.Holds origin.id (.completed completion)) (about : completion.request = wanted)
    (unhindered : service.Unhindered wanted origin.dispatcher)
    (stale : rows.version ≠ service.store.currentVersion)
    (lost : origin.config.reconcileMode = .rederive → ¬ service.store.Keeps rows)
    (allowed : ∀ limit ∈ query.policy.maxRetries?, number - 1 < limit)
    (evaluations : List (Nat × VersionStamp)) :
    ((service.leaveMessages origin.id rest).handle origin (.completed completion)).Trying origin
      query wanted evaluations (number + 1) := by
  have retry := RetryPolicy.onMismatch_allowed allowed rows.version service.store.currentVersion
  obtain ⟨pool, found, opened, free⟩ := exists_open_dispatcher regular.provided known
    unhindered.opened (about ▸ held.no_attempt regular.tracked.tickets)
  have tries : request.between.Tries query wanted number := { arrives.tries with }
  let taken := (service.leaveMessages origin.id rest).removeLive origin.id request.id
  have housed : origin ∈ taken.originSettings := by
    show origin ∈ ((service.leaveMessages origin.id rest).removeLive origin.id
      request.id).originSettings
    rw [removeLive, originSettings_updateOrigin, leaveMessages, originSettings_updateOrigin]
    · exact known
    · exact fun _ => rfl
    · exact fun _ => rfl
  let next := ((taken.reportMismatch origin request.awaiting rows.version
    service.store.currentVersion).count origin.registry .retries).report
      (.retrying request.id (request.attempts + 1))
  have same : next.dispatcher? origin.dispatcher = some pool := found
  have relaunched := trying_launched (.inr rfl) tries same opened free housed evaluations
  rw [arrives.unresolvable regular unhindered.sound stale lost, retry]
  simp only [conclude, Request.scheduleRetry_awaiting]
  exact relaunched.spared (interlude_releaseAll _ _).spares

theorem Arrives.failed
    (arrives : service.Arrives origin query wanted number completion rest rows request)
    (regular : service.Regular schema) (sound : service.store.poisoned = false)
    (stale : rows.version ≠ service.store.currentVersion)
    (lost : origin.config.reconcileMode = .rederive → ¬ service.store.Keeps rows)
    {limit : Nat} (budget : query.policy.maxRetries? = some limit) (spent : limit ≤ number - 1) :
    ((service.leaveMessages origin.id rest).handle origin (.completed completion)).Over wanted
        .failed number ∧
      .failed query.label wanted
          (.unreachableVersion number rows.version service.store.currentVersion) ∈
        ((service.leaveMessages origin.id rest).handle origin
          (.completed completion)).observations := by
  have giveUp := RetryPolicy.onMismatch_spent budget spent rows.version
    service.store.currentVersion
  have ends := arrives.unresolvable regular sound stale lost
  rw [giveUp] at ends
  let taken := (service.leaveMessages origin.id rest).removeLive origin.id request.id
  have reported : Interlude [] taken (taken.reportMismatch origin request.awaiting rows.version
    service.store.currentVersion) := interlude_reportMismatch _ _
  have going : request.awaiting.state.isTerminal = false := rfl
  obtain ⟨final, called⟩ := (taken.reportMismatch origin request.awaiting rows.version
    service.store.currentVersion).interlude_deliverError origin going arrives.ready.onError
      (.unreachableVersion number rows.version service.store.currentVersion)
  have tries : request.awaiting.Tries query wanted number := { arrives.tries with }
  simp only [conclude] at ends
  rw [final] at ends
  obtain ⟨settled, noticed⟩ := over_called tries arrives.free (reported.trans called) rfl ends
  refine ⟨settled, ?_⟩
  rw [← tries.label, ← tries.id]
  exact noticed List.mem_cons_self

end Results

end Service

end SnapshotQuery
