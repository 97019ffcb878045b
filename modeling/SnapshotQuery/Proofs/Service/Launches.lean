import SnapshotQuery.Proofs.Service.Registers

/-!
# Launches

An attempt is dispatched when a query is submitted or when the rows of a request
were stale.  A dispatcher takes it unless it is closed, since no other attempt of
the request is under way.
-/

namespace SnapshotQuery

/-- What is counted when the dispatcher is asked to take an attempt. -/
def Dispatcher.counts (pool : Dispatcher) : List Counter :=
  if pool.closed then [] else [.attempts]

/-- The attempts that the dispatcher turns away when it is asked to take one. -/
def Dispatcher.refusals (pool : Dispatcher) : Nat :=
  if pool.closed then 1 else 0

namespace Service

/-- In the move an attempt is dispatched, and this is the dispatcher as it is then. -/
inductive Dispatches (service : Service) : Move → Dispatcher → Prop
  | first {id query owner pool} (found : service.origin? id = some owner)
      (asked : service.dispatcher? owner.settings.dispatcher = some pool) :
      Dispatches service (.submit id query) pool
  | next {owner message rest completion request rows decided snapshot current pool}
      (found : service.origin? owner.settings.id = some owner)
      (oldest : owner.mailbox = message :: rest)
      (received : (service.leaveMessages owner.settings.id rest).Received owner.settings message
        completion request)
      (result : completion.result = .ok rows)
      (reconciled : ((service.leaveMessages owner.settings.id rest).removeLive owner.settings.id
        request.id).Reconciled owner.settings request rows decided (.retry snapshot current) false)
      (asked : decided.dispatcher? owner.settings.dispatcher = some pool) :
      Dispatches service (.process owner.settings.id) pool

/-- How many attempts a closed dispatcher turns away in the move. -/
inductive Refusals (service : Service) (move : Move) : Nat → Prop
  | closed {pool} (dispatches : service.Dispatches move pool) (closed : pool.closed = true) :
      Refusals service move 1
  | none (accepted : ∀ pool, service.Dispatches move pool → pool.closed = false) :
      Refusals service move 0

/-- A run, with the number of attempts that a closed dispatcher turned away in it. -/
inductive Tallied (permitted : Service → Move → Prop) (first : Service) : Nat → Service → Prop
  | start : Tallied permitted first 0 first
  | move {refused more service after} (move : Move)
      (earlier : Tallied permitted first refused service)
      (allowed : permitted service move) (moved : service.after? move = some after)
      (refusals : service.Refusals move more) : Tallied permitted first (refused + more) after

variable {service before after moment : Service} {registry : RegistryId} {id : ContextId}
  {origin : OriginSettings} {owner : Origin} {request : Request} {message : Message}
  {rest : List Message} {move : Move} {permitted : Service → Move → Prop} {schema : TableSchema}
  {pool other : Dispatcher} {attempt : Attempt}

section Dispatching

/-- There is one dispatch in a move at most. -/
theorem Dispatches.unique (one : service.Dispatches move pool)
    (two : service.Dispatches move other) : pool = other := by
  cases one with
  | first found asked =>
      cases two with
      | first foundAgain askedAgain =>
          obtain rfl := Option.some.inj (found.symm.trans foundAgain)
          exact Option.some.inj (asked.symm.trans askedAgain)
  | @next owner message rest completion request rows decided snapshot current pool found oldest
      received result reconciled asked =>
      generalize moving : Move.process owner.settings.id = move at two
      cases two with
      | first _ _ => exact absurd moving nofun
      | next foundAgain oldestAgain receivedAgain resultAgain reconciledAgain askedAgain =>
          rw [← Move.process.inj moving] at foundAgain
          obtain rfl := Option.some.inj (found.symm.trans foundAgain)
          obtain ⟨rfl, rfl⟩ := List.cons.inj (oldest.symm.trans oldestAgain)
          obtain rfl := Message.completed.inj (received.posted.symm.trans receivedAgain.posted)
          obtain rfl := Option.some.inj (received.found.symm.trans receivedAgain.found)
          obtain rfl := Except.ok.inj (result.symm.trans resultAgain)
          obtain ⟨rfl, _⟩ :=
            Prod.mk.inj (reconciled.reconciled.symm.trans reconciledAgain.reconciled)
          exact Option.some.inj (asked.symm.trans askedAgain)

theorem Refusals.unique {one two : Nat} (first : service.Refusals move one)
    (second : service.Refusals move two) : one = two := by
  cases first with
  | closed dispatches closed =>
      cases second with
      | closed _ _ => rfl
      | none accepted => exact absurd ((accepted _ dispatches).symm.trans closed) nofun
  | none accepted =>
      cases second with
      | closed dispatches closed =>
          exact absurd ((accepted _ dispatches).symm.trans closed) nofun
      | none _ => rfl

theorem refusals_of_dispatches (dispatches : service.Dispatches move pool) :
    service.Refusals move pool.refusals := by
  unfold Dispatcher.refusals
  cases closed : pool.closed with
  | true => exact .closed dispatches closed
  | false => exact .none fun other again => dispatches.unique again ▸ closed

theorem exists_refusals (service : Service) (move : Move) :
    ∃ refused, service.Refusals move refused := by
  by_cases dispatched : ∃ pool, service.Dispatches move pool
  · obtain ⟨pool, dispatches⟩ := dispatched
    exact ⟨_, refusals_of_dispatches dispatches⟩
  · exact ⟨0, .none fun pool dispatches => absurd ⟨pool, dispatches⟩ dispatched⟩

/-- Every run has its tally. -/
theorem exists_tallied {first : Service} (run : first.Reaches permitted service) :
    ∃ refused, Tallied permitted first refused service := by
  induction run with
  | start => exact ⟨0, .start⟩
  | @move service _ move _ allowed moved inductionHypothesis =>
      obtain ⟨refused, tallied⟩ := inductionHypothesis
      obtain ⟨more, refusals⟩ := service.exists_refusals move
      exact ⟨_, tallied.move move allowed moved refusals⟩

theorem Tallied.reaches {first : Service} {refused : Nat}
    (tallied : Tallied permitted first refused service) : first.Reaches permitted service := by
  induction tallied with
  | start => exact .start
  | move move _ allowed moved _ inductionHypothesis =>
      exact .move move inductionHypothesis allowed moved

/-- A dispatcher takes the attempt of a request that has no other unless it is closed. -/
theorem launchCounts_eq (common : service.Common registry) (flown : service.Flown)
    (known : origin ∈ service.originSettings) (housed : origin.dispatcher ∈ service.poolIds)
    (unused : ∀ attempt ∈ service.attempts, attempt.request ≠ request.id) :
    ∃ pool, service.dispatcher? origin.dispatcher = some pool ∧
      service.launchCounts origin request = pool.counts.map (Prod.mk registry) := by
  obtain ⟨pool, member, same⟩ := List.mem_map.mp housed
  obtain ⟨pool, found⟩ : ∃ pool, service.dispatcher? origin.dispatcher = some pool :=
    Option.isSome_iff_exists.mp (List.find?_isSome.mpr ⟨pool, member, decide_eq_true same⟩)
  have member := List.mem_of_find?_eq_some found
  have here : pool.id = origin.dispatcher := dispatcher?_id found
  have under : pool.registry = registry :=
    common.desks origin known (pool.id, pool.registry) (List.mem_map_of_mem member) here
  have free : request.id ∉ pool.inFlight := by
    intro flies
    obtain ⟨attempt, among, about, _⟩ :=
      exists_of_mem_flyingAmong ((flown.inFlight pool member).mem_iff.mp flies)
    exact unused attempt among about
  refine ⟨pool, found, ?_⟩
  simp only [launchCounts, found, free, or_false, under, Dispatcher.counts]
  cases pool.closed <;> rfl

end Dispatching

section Undecided

/-- Only an origin finds that a version cannot be reached. -/
def Undecided (result : Except QueryError RowSet) : Prop :=
  ∀ error, result = .error error → error.isUnreachableVersion = false

/-- No result that is on its way says that a version cannot be reached. -/
structure Candid (service : Service) : Prop where
  attempts : ∀ attempt ∈ service.attempts, ∀ outcome, attempt.phase.outcome? = some outcome →
    Undecided outcome.result
  posted : ∀ id completion, service.Holds id (.completed completion) → Undecided completion.result

theorem undecided_failOnWorker (service : Service) (attempt : Attempt) (failure : CallFailure) :
    Undecided (service.failOnWorker attempt failure).2.result := by
  cases failure <;> exact fun error same => Except.error.inj same ▸ rfl

theorem undecided_evaluateAttempt (service : Service) (attempt : Attempt) :
    Undecided (service.evaluateAttempt attempt).2.result := by
  unfold evaluateAttempt
  generalize service.reachSnapshot none = result
  obtain ⟨moment, snapshot⟩ := result
  cases snapshot with
  | error failure => exact moment.undecided_failOnWorker attempt failure
  | ok snapshot =>
      simp only
      generalize moment.reachRows snapshot attempt.predicate = result
      obtain ⟨later, rows⟩ := result
      cases rows with
      | error failure => exact undecided_failOnWorker _ attempt failure
      | ok rows =>
          simp only
          generalize later.runHook attempt rows.version = result
          obtain ⟨last, panic⟩ := result
          cases panic with
          | none => exact nofun
          | some message => exact undecided_failOnWorker _ attempt (.panicked message)

theorem Candid.lapsed (candid : before.Candid) (lapsed : before.Lapsed after) : after.Candid :=
  ⟨fun attempt member => candid.attempts attempt (lapsed.attempts member),
    fun id completion held => candid.posted id completion (lapsed.holds id completion held)⟩

theorem Candid.passes (candid : service.Candid) (member : attempt ∈ service.attempts)
    {phase : Phase} (passes : service.Passes attempt moment phase) :
    ∀ outcome, phase.outcome? = some outcome → Undecided outcome.result := by
  intro outcome come
  cases passes with
  | refused _ _ _ =>
      obtain rfl := Option.some.inj come
      exact fun error same => Except.error.inj same ▸ rfl
  | admitted _ => exact absurd come nofun
  | abandoned _ _ => exact absurd come nofun
  | cleared _ _ => exact absurd come nofun
  | finished _ evaluated =>
      obtain rfl := Option.some.inj come
      have undecided := service.undecided_evaluateAttempt attempt
      rw [evaluated] at undecided
      exact undecided
  | released finished => exact candid.attempts attempt member outcome (finished ▸ come)
  | checked released _ _ => exact candid.attempts attempt member outcome (released ▸ come)

theorem Candid.advanced (candid : service.Candid)
    (distinct : (service.attempts.map fun attempt => attempt.request).Nodup)
    {wanted : RequestId} (advanced : service.Advanced wanted after) : after.Candid := by
  have dropped : ∀ moment, service.Lapsed moment → (moment.dropAttempt wanted).Candid :=
    fun moment lapsed => candid.lapsed (lapsed.trans (reduced_dropAttempt wanted).lapsed)
  cases advanced with
  | waiting => exact candid
  | @moved attempt moment phase member same passes =>
      have interlude := passes.interlude
      refine ⟨?_, fun id completion held =>
        candid.posted id completion (interlude.holds_completed_iff.mp held)⟩
      intro other among
      subst same
      have distinct := interlude.attempts ▸ distinct
      rcases of_mem_setPhase distinct (interlude.attempts ▸ member) among with old | rfl
      · exact candid.attempts other (interlude.attempts ▸ old)
      · exact candid.passes member passes
  | skipped _ _ _ interlude => exact dropped _ interlude.lapsed
  | orphaned _ _ _ interlude => exact dropped _ interlude.lapsed
  | @posted attempt outcome moment _ member same checked interlude _ =>
      have held := dropped moment interlude.lapsed
      refine ⟨held.attempts, fun id completion posted => ?_⟩
      rcases holds_of_post posted with old | ⟨_, new⟩
      · exact held.posted id completion old
      · obtain rfl := Message.completed.inj new
        exact candid.attempts attempt member outcome (checked ▸ rfl)

theorem Candid.launch (candid : service.Candid) {result : Service × Request}
    (launch : service.Launch origin request result) : result.1.Candid := by
  cases launch with
  | accepted _ _ _ _ =>
      refine ⟨?_, candid.posted⟩
      intro attempt member outcome come
      rcases List.mem_append.mp member with old | new
      · exact candid.attempts attempt old outcome come
      · obtain rfl := List.mem_singleton.mp new
        exact absurd come nofun
  | refused refuses =>
      refine ⟨candid.attempts, fun id completion posted => ?_⟩
      rcases holds_of_post posted with old | ⟨_, new⟩
      · exact candid.posted id completion old
      · obtain rfl := Message.completed.inj new
        intro error same
        obtain rfl := Except.error.inj same
        cases refuses <;> rfl

theorem Candid.insertLive (candid : service.Candid) (id : ContextId) (request : Request) :
    (service.insertLive id request).Candid :=
  ⟨candid.attempts, fun id completion held =>
    candid.posted id completion (holds_insertLive_iff.mp held)⟩

theorem Candid.moved (candid : service.Candid) (orderly : service.Orderly)
    (tracked : service.Tracked) (moved : service.after? move = some after) : after.Candid := by
  rcases (moved_of_after? orderly.ready moved).lapsed with
    lapsed | ⟨request, rfl⟩ | ⟨id, rfl⟩ | ⟨id, query, rfl⟩
  · exact candid.lapsed lapsed
  · obtain rfl := Option.some.inj moved
    exact candid.advanced tracked.distinct
      (service.advanced_advance request)
  · obtain ⟨owner, message, rest, rfl, processed⟩ := exists_processed orderly moved
    rcases processed.lapsed_or_relaunched orderly.contexts with
      lapsed | ⟨request, rows, moment, result, relaunched⟩
    · exact candid.lapsed lapsed
    · have left := (reduced_leaveMessages orderly.contexts processed.found processed.oldest).lapsed
      have taken := (left.trans (lapsed_taken _ _ _)).trans relaunched.interlude.lapsed
      have launched := ((candid.lapsed taken).launch relaunched.launch).insertLive
        owner.settings.id result.2
      rw [relaunched.closing]
      exact launched.lapsed (interlude_releaseAll _ _).lapsed
  · obtain ⟨owner, _, rfl⟩ := Option.map_eq_some_iff.mp moved
    obtain ⟨result, launch, submitted⟩ := service.submit_eq owner.settings query
    have counted : ((service.countRequest.count owner.settings.registry .submitted).report
        (.submitted ⟨service.requestsMade + 1⟩ owner.settings.id query.policy)).Candid :=
      ⟨candid.attempts, candid.posted⟩
    rw [submitted]
    have inserted := (counted.launch launch).insertLive owner.settings.id result.2
    exact ⟨inserted.attempts, inserted.posted⟩

theorem candid_of_reaches (run : (Service.new schema).Reaches permitted service) :
    service.Candid := by
  induction run with
  | start =>
      have nothing : ∀ id message, ¬ (Service.new schema).Holds id message := by simp [Holds, new]
      exact ⟨List.forall_mem_nil _, fun id _ held => absurd held (nothing id _)⟩
  | move move earlier _ moved inductionHypothesis =>
      have orderly := orderly_of_reaches earlier
      exact inductionHypothesis.moved orderly (tracked_of_reaches earlier) moved

end Undecided

end Service

end SnapshotQuery
