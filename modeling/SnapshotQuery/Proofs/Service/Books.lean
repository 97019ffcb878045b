import SnapshotQuery.Proofs.Service.Launches
import SnapshotQuery.Proofs.Service.LiveRequests

/-!
# The counters balance

What a move counts fits what it does: how many requests begin and end and how,
which results are found stale and what comes of it, and how many attempts are
launched.  So the counters agree with each other after any number of moves.
-/

namespace SnapshotQuery

/-- The counter of the requests that end in the state. -/
def RequestState.counter? : RequestState → Option Counter
  | converged => some .converged
  | failed => some .failed
  | cancelled => some .cancelled
  | pending | running | awaitingReconciliation | retrying => none

/-- The request that failed because a version could not be reached. -/
def Observation.unreached? : Observation → Option RequestId
  | failed _ request (.unreachableVersion ..) => some request
  | failed .. | succeeded .. | acted _ | hookRan .. | panicked .. => none

namespace Service

/-- The requests that failed because a version could not be reached, latest first. -/
def unreached (service : Service) : List RequestId :=
  service.callbacks.filterMap Observation.unreached?

/-- The counters of a registry agree with the requests, with each other, and with the number of
attempts that were refused. -/
structure Books (registry : RegistryId) (refused : Nat) (service : Service) : Prop where
  submitted : (service.metrics registry).submitted =
    (service.metrics registry).converged + (service.metrics registry).failed +
      (service.metrics registry).cancelled + (service.contextIds.map service.liveRequests).sum
  ended : ∀ state counter, state.counter? = some counter → (service.metrics registry).get counter =
    service.ended.countP fun final => decide (final.state = state)
  once : (service.ended.map fun final => final.id).Nodup
  mismatches : (service.metrics registry).versionMismatches =
    (service.metrics registry).retries + (service.metrics registry).rederived +
      service.unreached.length
  unreached : service.unreached.Nodup ∧ ∀ id ∈ service.unreached,
    ∃ final ∈ service.ended, final.id = id ∧ final.state = .failed
  launches : (service.metrics registry).submitted + (service.metrics registry).retries =
    (service.metrics registry).attempts + refused

/-- What is counted in a move, which callbacks are called and which request ends. -/
structure Entered (registry : RegistryId) (counts : List Counter) (calls : List Observation)
    (final : Option Request) (before after : Service) : Prop where
  metrics : ∀ counter, (after.metrics registry).get counter =
    (before.metrics registry).get counter + counts.count counter
  callbacks : after.callbacks = calls ++ before.callbacks
  ended : after.ended = final.toList ++ before.ended
  live : after.liveTotal + final.toList.length = before.liveTotal + counts.count .submitted

end Service

/-- What is counted fits what happens. -/
structure Balanced (counts : List Counter) (calls : List Observation) (final : Option Request)
    (refused : Nat) : Prop where
  ended : ∀ state counter, state.counter? = some counter →
    counts.count counter = final.toList.countP fun final => decide (final.state = state)
  mismatches : counts.count .versionMismatches =
    counts.count .retries + counts.count .rederived +
      (calls.filterMap Observation.unreached?).length
  launches : counts.count .submitted + counts.count .retries = counts.count .attempts + refused

namespace Service

variable {service before after moment decided : Service} {registry : RegistryId} {id : ContextId}
  {origin : OriginSettings} {owner : Origin} {request final : Request} {message : Message}
  {rest : List Message} {move : Move} {schema : TableSchema} {counts : List Counter}
  {pool : Dispatcher} {calls : List Observation} {refused more : Nat}

section Books

/-- The books as they are kept: requests that have ended are all counted. -/
structure Kept (registry : RegistryId) (refused : Nat) (service : Service) : Prop where
  submitted : (service.metrics registry).get .submitted =
    service.ended.length + service.liveTotal
  ended : ∀ state counter, state.counter? = some counter → (service.metrics registry).get counter =
    service.ended.countP fun final => decide (final.state = state)
  mismatches : (service.metrics registry).get .versionMismatches =
    (service.metrics registry).get .retries + (service.metrics registry).get .rederived +
      service.unreached.length
  launches : (service.metrics registry).get .submitted + (service.metrics registry).get .retries =
    (service.metrics registry).get .attempts + refused

theorem kept_new (schema : TableSchema) : (Service.new schema).Kept registry 0 := by
  refine ⟨rfl, ?_, rfl, rfl⟩
  intro state counter same
  cases state <;> cases same <;> rfl

theorem Kept.entered {final : Option Request} (kept : before.Kept registry refused)
    (entered : Entered registry counts calls final before after)
    (balanced : Balanced counts calls final more) : after.Kept registry (refused + more) where
  submitted := by
    have live := entered.live
    have submitted := kept.submitted
    rw [entered.metrics, entered.ended, List.length_append]
    omega
  ended state counter same := by
    rw [entered.metrics, entered.ended, List.countP_append, kept.ended state counter same,
      balanced.ended state counter same, Nat.add_comm]
  mismatches := by
    have mismatches := kept.mismatches
    have more := balanced.mismatches
    rw [entered.metrics, entered.metrics, entered.metrics, unreached, entered.callbacks,
      List.filterMap_append, List.length_append]
    rw [unreached] at mismatches
    omega
  launches := by
    have launches := kept.launches
    have more := balanced.launches
    rw [entered.metrics, entered.metrics, entered.metrics]
    omega

end Books

section Quiet

theorem Proceeds.get_metrics (proceeds : Proceeds (counts.map (Prod.mk registry)) before after)
    (known : (before.registries.lookup registry).isSome = true) (counter : Counter) :
    (after.metrics registry).get counter =
      (before.metrics registry).get counter + counts.count counter := by
  rw [Service.get_metrics known proceeds.registries counter,
    List.count_map_of_injective counts _ (Prod.mk_right_injective registry)]

theorem metrics_addDispatcher (name : String) (workers : Nat) (shared : Option RegistryId) :
    (service.addDispatcher name workers shared).1.metrics registry = service.metrics registry := by
  simp only [Service.metrics, Service.addDispatcher]
  split
  · rfl
  · rw [List.lookup_append]
    cases service.registries.lookup registry with
    | some metrics => rfl
    | none =>
        by_cases here : registry = shared.getD ⟨service.dispatchersMade + 1⟩
        · simp [here]
        · simp [List.lookup_cons, beq_false_of_ne here]

theorem balanced_nil : Balanced [] [] none 0 :=
  ⟨fun _ _ _ => rfl, rfl, rfl⟩

end Quiet

section Turns

/-- Callbacks are called, and no request comes or goes. -/
structure Recorded (calls : List Observation) (before after : Service) : Prop where
  callbacks : after.callbacks = calls ++ before.callbacks
  ended : after.ended = before.ended
  lives : after.lives = before.lives

theorem Interlude.recorded (interlude : Interlude calls before after) :
    Recorded calls before after :=
  ⟨interlude.callbacks, interlude.ended, interlude.lives⟩

/-- Calls after a way without any. -/
theorem Recorded.following {first middle last : Service} (later : Recorded calls middle last)
    (earlier : Recorded [] first middle) : Recorded calls first last :=
  ⟨later.callbacks.trans (congrArg (calls ++ ·) earlier.callbacks),
    later.ended.trans earlier.ended, later.lives.trans earlier.lives⟩

theorem recorded_endCancelled (going : request.state.isTerminal = false) :
    Recorded [] service (service.endCancelled origin request).1 := by
  rw [endCancelled_eq going]
  exact ⟨rfl, rfl, rfl⟩

/-- Everything that holds of a service whose origins share their counters. -/
structure Steady (registry : RegistryId) (service : Service) : Prop where
  orderly : service.Orderly
  tracked : service.Tracked
  provided : service.Provided
  common : service.Common registry
  unrepeated : service.Unrepeated
  candid : service.Candid

theorem steady_of_reaches (run : (Service.new schema).Reaches (Shares registry) service) :
    service.Steady registry :=
  ⟨orderly_of_reaches run, tracked_of_reaches run, provided_of_reaches run, common_of_reaches run,
    unrepeated_of_reaches run, candid_of_reaches run⟩

/-- The message of an origin is taken out, with the request it is about. -/
structure Taken (service : Service) (owner : Origin) (message : Message) (rest : List Message)
    (request : Request) (taken : Service) : Prop where
  found : service.origin? owner.settings.id = some owner
  oldest : owner.mailbox = message :: rest
  live : (service.leaveMessages owner.settings.id rest).liveRequest? owner.settings.id
    message.request = some request
  taken : taken = (service.leaveMessages owner.settings.id rest).removeLive owner.settings.id
    request.id

variable {taken : Service}

theorem Taken.known (hand : service.Taken owner message rest request taken) :
    owner.settings ∈ service.originSettings :=
  mem_originSettings_of_origin? hand.found

theorem Taken.proceeds (hand : service.Taken owner message rest request taken) :
    Proceeds [] service taken := by
  obtain ⟨_, _, _, rfl⟩ := hand
  exact (service.proceeds_updateOrigin _ _).then (proceeds_updateOrigin _ _ _)

theorem Taken.liveTotal (hand : service.Taken owner message rest request taken)
    (steady : service.Steady registry) : taken.liveTotal + 1 = service.liveTotal := by
  obtain ⟨found, oldest, live, rfl⟩ := hand
  have lives : (service.leaveMessages owner.settings.id rest).lives = service.lives :=
    lives_updateOrigin fun _ => rfl
  have contexts : (service.leaveMessages owner.settings.id rest).contextIds.Nodup :=
    (steady.orderly.within (within_leaveMessages rest)).contexts
  have about := (owns_of_liveRequest? live).2
  have less := liveTotal_removeLive contexts (steady.unrepeated.of_lives lives) (about ▸ live)
  exact less.trans (liveTotal_congr lives)

theorem Taken.contextIds (hand : service.Taken owner message rest request taken) :
    taken.contextIds = service.contextIds := by
  obtain ⟨_, _, _, rfl⟩ := hand
  exact (contextIds_removeLive request.id).trans (contextIds_updateOrigin fun _ => rfl)

theorem Launched.callbacks {result : Service × Request}
    (launched : service.Launched origin request result) :
    result.1.callbacks = service.callbacks := by
  cases launched with
  | accepted interlude _ _ _ => exact interlude.callbacks
  | refused interlude _ _ => exact interlude.callbacks

/-- A request is taken in hand and ends. -/
theorem Taken.entered (hand : service.Taken owner message rest request taken)
    (steady : service.Steady registry)
    (proceeds : Proceeds (counts.map (Prod.mk registry)) taken moment)
    (called : Recorded calls taken moment) (ended : final.state.isTerminal = true)
    (unsubmitted : counts.count .submitted = 0) (snapshots : List Snapshot) :
    Entered registry counts calls (some final) service
      ((moment.putBack owner.settings.id final).releaseAll snapshots) := by
  have known := steady.common.known _ hand.known
  have whole : Proceeds (counts.map (Prod.mk registry)) service
      ((moment.putBack owner.settings.id final).releaseAll snapshots) :=
    ((hand.proceeds.trans proceeds).then (proceeds_putBack _ _ _)).then (proceeds_releaseAll _ _)
  have closing := interlude_releaseAll (moment.putBack owner.settings.id final) snapshots
  have total := hand.liveTotal steady
  obtain ⟨_, _, _, rfl⟩ := hand
  refine ⟨whole.get_metrics known, ?_, ?_, ?_⟩
  · rw [closing.callbacks, putBack, if_pos ended]
    exact called.callbacks
  · rw [closing.ended, putBack, if_pos ended]
    exact congrArg (final :: ·) called.ended
  · have lives := closing.lives
    rw [putBack, if_pos ended] at lives
    rw [putBack, if_pos ended, liveTotal_congr (lives.trans called.lives), unsubmitted]
    exact total

/-- The rows of the request in hand are stale, and its next attempt is launched. -/
theorem Taken.entered_retry (hand : service.Taken owner message rest request taken)
    (steady : service.Steady registry) {pool : Dispatcher}
    (proceeds : Proceeds [] taken decided) (interlude : Interlude [] taken decided)
    (launches : decided.launchCounts owner.settings request =
      pool.counts.map (Prod.mk registry))
    (snapshot current : VersionStamp) (snapshots : List Snapshot) :
    Entered registry ([.versionMismatches, .retries] ++ pool.counts) [] none service
      (((decided.conclude owner.settings request.awaiting (.retry snapshot current)).1.putBack
        owner.settings.id
        (decided.conclude owner.settings request.awaiting (.retry snapshot current)).2).releaseAll
          snapshots) := by
  have under := steady.common.settings _ hand.known
  have counted : Proceeds
      (([.versionMismatches, .retries] ++ pool.counts : List Counter).map (Prod.mk registry))
      decided (decided.conclude owner.settings request.awaiting (.retry snapshot current)).1 := by
    have concluded := decided.proceeds_retry owner.settings request snapshot current
    rw [concludeCounts, launches, under] at concluded
    rw [List.map_append]
    exact concluded
  have whole := (hand.proceeds.trans proceeds).trans counted
  simp only [conclude, Request.scheduleRetry_awaiting] at whole ⊢
  have announced : Interlude [] taken (((decided.reportMismatch owner.settings request.awaiting
      snapshot current).count owner.settings.registry .retries).report
        (.retrying request.between.id (request.between.attempts + 1))) :=
    ((interlude.then (interlude_reportMismatch snapshot current)).then (interlude_count _ _ _)).then
      (interlude_report _ _)
  generalize ((decided.reportMismatch owner.settings request.awaiting snapshot current).count
    owner.settings.registry .retries).report
      (.retrying request.between.id (request.between.attempts + 1)) = moment at announced whole ⊢
  have launched : moment.Launched owner.settings request.between
      (moment.launchAttempt owner.settings request.between) := launched_launchAttempt (.inr rfl)
  generalize moment.launchAttempt owner.settings request.between = result at launched whole ⊢
  rw [launched.putBack]
  have closed := (whole.then (proceeds_updateOrigin _ owner.settings.id _)).then
    (proceeds_releaseAll (result.1.insertLive owner.settings.id result.2) snapshots)
  have closing := interlude_releaseAll (result.1.insertLive owner.settings.id result.2) snapshots
  have ids := (launched.contextIds.trans announced.contextIds).trans hand.contextIds
  have back := liveTotal_insertLive (ids ▸ steady.orderly.contexts)
    (ids ▸ mem_contextIds_of_origin? hand.found) result.2
  have same := liveTotal_congr (launched.lives.trans announced.lives)
  have total := hand.liveTotal steady
  have unsubmitted : ([.versionMismatches, .retries] ++ pool.counts : List Counter).count
      .submitted = 0 := by
    unfold Dispatcher.counts
    cases pool.closed <;> rfl
  refine ⟨closed.get_metrics (steady.common.known _ hand.known), ?_, ?_, ?_⟩
  · obtain ⟨_, _, _, rfl⟩ := hand
    exact closing.callbacks.trans (launched.callbacks.trans announced.callbacks)
  · obtain ⟨_, _, _, rfl⟩ := hand
    exact closing.ended.trans (launched.within.ended.trans announced.ended)
  · rw [liveTotal_congr closing.lives, back, same, unsubmitted]
    exact total

/-- The dispatcher of an origin takes the next attempt of a request in hand unless it is closed. -/
theorem Taken.launchCounts (hand : service.Taken owner message rest request taken)
    (steady : service.Steady registry) {completion : Completion}
    (posted : message = .completed completion) {given : List Snapshot}
    (proceeds : Proceeds [] taken decided) (interlude : Interlude [] taken decided)
    (exchange : Exchange [] given taken decided) :
    ∃ pool, decided.dispatcher? owner.settings.dispatcher = some pool ∧
      decided.launchCounts owner.settings request = pool.counts.map (Prod.mk registry) := by
  have known := hand.known
  have moved := hand.proceeds.trans proceeds
  obtain ⟨found, oldest, live, rfl⟩ := hand
  subst posted
  have left : (service.leaveMessages owner.settings.id rest).originSettings =
      service.originSettings := service.originSettings_updateOrigin _ fun _ => rfl
  have settings : decided.originSettings = service.originSettings :=
    (exchange.originSettings.trans (exchange_removeLive _ _ _).originSettings).trans left
  have flown := steady.provided.flown
  have taken : ((service.leaveMessages owner.settings.id rest).removeLive owner.settings.id
      request.id).Flown := ⟨flown.inFlight, flown.known, flown.made⟩
  refine launchCounts_eq (steady.common.of_desks settings moved.roster moved.registries)
    (exchange.flown taken) (settings ▸ known) (exchange.poolIds ▸ steady.provided.housed _ known) ?_
  intro attempt member
  rw [(owns_of_liveRequest? live).2]
  exact (holds_of_origin? found oldest).no_attempt steady.tracked.tickets attempt
    (interlude.attempts ▸ member)

/-- What a move counts fits what it does. -/
def Balances (registry : RegistryId) (service : Service) (move : Move) (after : Service) : Prop :=
  ∃ refused counts calls final, service.Refusals move refused ∧
    Balanced counts calls final refused ∧ Entered registry counts calls final service after

/-- A request ends, and its state tells what is counted besides a mismatch. -/
theorem balanced_final {state : RequestState} {counter : Counter} {extra : List Counter}
    (ends : final.state = state) (own : state.counter? = some counter)
    (aside : extra ⊆ [.versionMismatches, .rederived])
    (mismatches : extra.count .versionMismatches =
      extra.count .rederived + (calls.filterMap Observation.unreached?).length) :
    Balanced (extra ++ [counter]) calls (some final) 0 := by
  have absent : ∀ other, other ∉ [Counter.versionMismatches, .rederived] → extra.count other = 0 :=
    fun other outside => List.count_eq_zero.mpr fun member => outside (aside member)
  refine ⟨?_, ?_, ?_⟩
  · intro other counted same
    have outside : counted ∉ [Counter.versionMismatches, .rederived] := by
      cases other <;> cases same <;> decide
    rw [List.count_append, absent counted outside, Nat.zero_add]
    cases state <;> cases own <;> cases other <;> cases same <;> simp [ends]
  · have retries := absent .retries (by decide)
    simp only [List.count_append, retries]
    cases state <;> cases own <;> simpa using mismatches
  · have submitted := absent .submitted (by decide)
    have retries := absent .retries (by decide)
    have attempts := absent .attempts (by decide)
    simp only [List.count_append, submitted, retries, attempts]
    cases state <;> cases own <;> rfl

/-- A request in hand ends, with what is counted for its state and for a mismatch. -/
theorem Taken.balances (hand : service.Taken owner message rest request taken)
    (steady : service.Steady registry) (refusals : service.Refusals move 0) {state : RequestState}
    {counter : Counter} {extra : List Counter} (ends : final.state = state)
    (own : state.counter? = some counter) (aside : extra ⊆ [.versionMismatches, .rederived])
    (mismatches : extra.count .versionMismatches =
      extra.count .rederived + (calls.filterMap Observation.unreached?).length)
    (proceeds : Proceeds ((extra ++ [counter]).map (Prod.mk registry)) taken moment)
    (recorded : Recorded calls taken moment) (snapshots : List Snapshot) :
    service.Balances registry move
      ((moment.putBack owner.settings.id final).releaseAll snapshots) := by
  have balanced := balanced_final ends own aside mismatches
  have unsubmitted : (extra ++ [counter]).count .submitted = 0 := by
    refine List.count_eq_zero.mpr fun member => ?_
    rcases List.mem_append.mp member with besides | last
    · exact absurd (aside besides) (by decide)
    · rw [← List.mem_singleton.mp last] at own
      cases state <;> exact absurd own nofun
  have terminal : final.state.isTerminal = true := by
    rw [ends]
    cases state <;> cases own <;> rfl
  exact ⟨0, _, _, _, refusals, balanced,
    hand.entered steady proceeds recorded terminal unsubmitted snapshots⟩

/-- The rows of a request in hand are dealt with, and it ends. -/
theorem Taken.balances_conclude (hand : service.Taken owner message rest request taken)
    (steady : service.Steady registry) (refusals : service.Refusals move 0) (ready : request.Ready)
    (proceeds : Proceeds [] taken decided) (interlude : Interlude [] taken decided)
    {outcome : Reconciliation} (ends : ∀ snapshot current, outcome ≠ .retry snapshot current)
    (snapshots : List Snapshot)
    (composed : (((decided.conclude owner.settings request.awaiting outcome).1.putBack
      owner.settings.id (decided.conclude owner.settings request.awaiting outcome).2).releaseAll
        snapshots).Composed request.id) :
    service.Balances registry move
      (((decided.conclude owner.settings request.awaiting outcome).1.putBack owner.settings.id
        (decided.conclude owner.settings request.awaiting outcome).2).releaseAll snapshots) := by
  have concluded := (decided.attends_conclude owner.settings request outcome).proceeds
    (composed_of_putBack _ composed)
  have counted := proceeds.trans concluded
  have under := steady.common.settings _ hand.known
  have going : request.awaiting.state.isTerminal = false := rfl
  have onError : request.awaiting.onError.isSome = true := ready.onError
  have recorded := interlude.recorded
  rw [concludeCounts.eq_def, under] at counted
  cases outcome with
  | retry snapshot current => exact absurd rfl (ends snapshot current)
  | converged view =>
      obtain ⟨same, called⟩ := decided.interlude_deliverSuccess owner.settings ready.onSuccess view
      simp only [conclude] at counted ⊢
      rw [same]
      exact hand.balances steady refusals rfl rfl (List.nil_subset _) rfl counted
        (called.recorded.following recorded) snapshots
  | rederived view =>
      have announced : Interlude [] decided
          (decided.announced owner.settings request.awaiting (.rederived view)) :=
        interlude_announced _
      obtain ⟨same, called⟩ :=
        (decided.announced owner.settings request.awaiting (.rederived view)
          ).interlude_deliverSuccess owner.settings ready.onSuccess view
      have concluded : decided.conclude owner.settings request.awaiting (.rederived view) =
          (decided.announced owner.settings request.awaiting (.rederived view)).deliverSuccess
            owner.settings request.awaiting view := rfl
      rw [concluded] at counted ⊢
      rw [same]
      exact hand.balances steady refusals rfl rfl (List.Subset.refl _) rfl counted
        (called.recorded.following (announced.recorded.following recorded)) snapshots
  | giveUp error =>
      have failed : ∀ moment : Service, Interlude [] decided moment → ∀ {extra : List Counter},
          extra ⊆ [.versionMismatches, .rederived] →
          extra.count .versionMismatches = extra.count .rederived +
            ([Observation.failed request.label request.id error].filterMap
              Observation.unreached?).length →
          Proceeds ((extra ++ [Counter.failed]).map (Prod.mk registry)) taken
            (moment.deliverError owner.settings request.awaiting error).1 →
          service.Balances registry move
            (((moment.deliverError owner.settings request.awaiting error).1.putBack
              owner.settings.id
              (moment.deliverError owner.settings request.awaiting error).2).releaseAll
                snapshots) := by
        intro moment reported extra aside mismatches proceeded
        obtain ⟨same, called⟩ := moment.interlude_deliverError owner.settings going onError error
        rw [same]
        exact hand.balances steady refusals rfl rfl aside mismatches proceeded
          (called.recorded.following (reported.recorded.following recorded)) snapshots
      cases error with
      | unreachableVersion attempts snapshot current =>
          have aside : [Counter.versionMismatches] ⊆ [.versionMismatches, .rederived] :=
            List.cons_subset_cons _ (List.nil_subset _)
          exact failed _ (interlude_reportMismatch snapshot current) aside rfl counted
      | store _ | handoverMismatch _ _ | contextMismatch _ _ | invalidTransition _ _ _
      | alreadyInFlight _ | dispatcherClosed | noRuntime _ | workerPanicked _ | config _ =>
          exact failed decided (.refl decided) (List.nil_subset _) rfl counted

theorem balanced_dropped : Balanced [.droppedMessages] [] none 0 := by
  refine ⟨?_, rfl, rfl⟩
  intro state counter same
  cases state <;> cases same <;> rfl

/-- What is counted before a launch, be it the first one of a request or the next one, is counted
together with the attempt, or the attempt is refused. -/
theorem balanced_launch {begun : List Counter}
    (launching : begun = [.submitted] ∨ begun = [.versionMismatches, .retries])
    (pool : Dispatcher) : Balanced (begun ++ pool.counts) [] none pool.refusals := by
  unfold Dispatcher.counts Dispatcher.refusals
  rcases launching with rfl | rfl <;> cases pool.closed <;> refine ⟨?_, rfl, rfl⟩ <;>
    intro state counter same <;> cases state <;> cases same <;> rfl

theorem Dispatches.balances (dispatches : service.Dispatches (.process id) pool)
    (steady : service.Steady registry) (moved : service.process? id = some after) :
    service.Balances registry (.process id) after := by
  generalize moving : Move.process id = move at dispatches
  have refusals := refusals_of_dispatches dispatches
  cases dispatches with
  | first _ _ => exact absurd moving nofun
  | @next owner message rest completion request rows decided snapshot current pool found oldest
      received result reconciled asked =>
      obtain rfl := Move.process.inj moving
      have hand : service.Taken owner message rest request _ :=
        ⟨found, oldest, received.found, rfl⟩
      obtain ⟨_, here, launches⟩ := hand.launchCounts steady received.posted reconciled.proceeds
        reconciled.interlude reconciled.exchange
      obtain rfl := Option.some.inj (asked.symm.trans here)
      obtain ⟨rfl, live, ready, accepted⟩ := received
      have handled := handle_of_reconciled live accepted ready result reconciled.reconciled
        reconciled.token
      have turned : service.process? owner.settings.id =
          some ((service.leaveMessages owner.settings.id rest).handle owner.settings
            (.completed completion)) := by
        simp only [process?, found, oldest]
        rfl
      rw [turned, handled] at moved
      obtain rfl := Option.some.inj moved
      exact ⟨_, _, _, _, refusals, balanced_launch (.inr rfl) pool, hand.entered_retry steady
        reconciled.proceeds reconciled.interlude launches snapshot current _⟩

/-- A message that is dropped is counted, and nothing else happens. -/
theorem balances_dropped (steady : service.Steady registry) (refusals : service.Refusals move 0)
    (known : owner.settings ∈ service.originSettings) {reason : StaleReason}
    (plain : reason ≠ .supersededAttempt) :
    service.Balances registry move
      (((service.leaveMessages owner.settings.id rest).dropStale owner.settings message.request
        reason).releaseAll message.snapshot?.toList) := by
  have proceeds := (service.proceeds_updateOrigin owner.settings.id fun owner =>
    { owner with mailbox := rest }).trans
      ((proceeds_dropStale _ owner.settings message.request plain).then
        (proceeds_releaseAll _ message.snapshot?.toList))
  rw [steady.common.settings _ known] at proceeds
  have counted : Proceeds ([Counter.droppedMessages].map (Prod.mk registry)) service _ := proceeds
  have interlude : Interlude [] (service.leaveMessages owner.settings.id rest)
      (((service.leaveMessages owner.settings.id rest).dropStale owner.settings
        message.request reason).releaseAll message.snapshot?.toList) :=
    (interlude_dropStale message.request reason).then (interlude_releaseAll _ _)
  have lives : (service.leaveMessages owner.settings.id rest).lives = service.lives :=
    lives_updateOrigin fun _ => rfl
  exact ⟨0, _, [], none, refusals, balanced_dropped, ⟨counted.get_metrics
    (steady.common.known _ known), interlude.callbacks, interlude.ended,
    liveTotal_congr (interlude.lives.trans lives)⟩⟩

/-- The turn of an origin in which no attempt is dispatched. -/
theorem Processed.balances (processed : service.Processed owner message rest after)
    (steady : service.Steady registry)
    (undispatched : ∀ pool, ¬ service.Dispatches (.process owner.settings.id) pool)
    (composed : ∀ request, after.Composed request) :
    service.Balances registry (.process owner.settings.id) after := by
  have refusals : service.Refusals (.process owner.settings.id) 0 :=
    .none fun pool dispatches => absurd dispatches (undispatched pool)
  have held := holds_of_origin? processed.found processed.oldest
  have known := mem_originSettings_of_origin? processed.found
  have under := steady.common.settings _ known
  cases processed.settled with
  | @dropped reason superseded =>
      refine balances_dropped steady refusals known fun same => ?_
      obtain ⟨completion, request, posted, live, older⟩ := superseded same
      exact older (processed.current steady.tracked posted live)
  | @cancelled request live ready =>
      have hand : service.Taken owner message rest request _ :=
        ⟨processed.found, processed.oldest, live, rfl⟩
      have counted := proceeds_endCancelled ((service.leaveMessages owner.settings.id rest
        ).removeLive owner.settings.id request.id) owner.settings ready.going
      rw [under] at counted
      exact hand.balances steady refusals rfl rfl (List.nil_subset _) rfl counted
        (recorded_endCancelled ready.going) _
  | @overtaken completion request rows decided outcome received result reconciled =>
      have hand : service.Taken owner message rest request _ :=
        ⟨processed.found, processed.oldest, received.found, rfl⟩
      have going : request.awaiting.state.isTerminal = false := rfl
      have counted := (reconciled.proceeds.trans
        (decided.proceeds_endCancelled owner.settings going)).then
          (proceeds_releaseAll _ outcome.snapshots)
      rw [under] at counted
      exact hand.balances steady refusals rfl rfl (List.nil_subset _) rfl counted
        ((interlude_releaseAll _ _).recorded.following
          ((recorded_endCancelled going).following reconciled.interlude.recorded)) _
  | @failed completion request error received result =>
      have hand : service.Taken owner message rest request _ :=
        ⟨processed.found, processed.oldest, received.found, rfl⟩
      have counted := (attends_deliverError ((service.leaveMessages owner.settings.id rest
        ).removeLive owner.settings.id request.id) owner.settings received.ready.going
          error).proceeds (composed_of_putBack _ (composed request.id))
      have called := (interlude_deliverError ((service.leaveMessages owner.settings.id rest
        ).removeLive owner.settings.id request.id) owner.settings received.ready.going
          received.ready.onError error).2
      rw [received.posted] at held
      have plain := steady.candid.posted _ completion held error result
      have reached : ([Observation.failed request.label request.id error].filterMap
          Observation.unreached?).length = 0 := by
        cases error <;> first | rfl | exact absurd plain nofun
      rw [under] at counted
      exact hand.balances steady refusals rfl rfl (List.nil_subset _) (reached ▸ rfl) counted
        called.recorded _
  | @concluded completion request rows decided outcome received result reconciled =>
      have hand : service.Taken owner message rest request _ :=
        ⟨processed.found, processed.oldest, received.found, rfl⟩
      have ends : ∀ snapshot current, outcome ≠ .retry snapshot current := by
        rintro snapshot current rfl
        obtain ⟨pool, asked, _⟩ := hand.launchCounts steady received.posted reconciled.proceeds
          reconciled.interlude reconciled.exchange
        exact undispatched pool
          (.next processed.found processed.oldest received result reconciled asked)
      exact hand.balances_conclude steady refusals received.ready reconciled.proceeds
        reconciled.interlude ends _ (composed request.id)

end Turns

section Moves

/-- A query that is submitted is counted with the launch of its first attempt. -/
theorem balances_submit (steady : service.Steady registry)
    (found : service.origin? id = some owner) (query : Query) :
    service.Balances registry (.submit id query) (service.submit owner.settings query).1 := by
  obtain rfl := origin?_id found
  have known := mem_originSettings_of_origin? found
  have under := steady.common.settings _ known
  let request := query.request ⟨service.requestsMade + 1⟩ owner.settings.id
  have unused : ∀ attempt ∈ service.attempts, attempt.request ≠ request.id := by
    intro attempt member same
    have made := steady.tracked.ticketsMade _ (mem_tickets.mpr (.inl ⟨attempt, member, rfl⟩))
    rw [same] at made
    exact Nat.not_succ_le_self _ made
  obtain ⟨pool, asked, launches⟩ := launchCounts_eq steady.common steady.provided.flown known
    (steady.provided.housed _ known) unused
  have proceeds := service.proceeds_submit owner.settings query
  rw [launches, under] at proceeds
  have counted : Proceeds (([Counter.submitted] ++ pool.counts).map (Prod.mk registry)) service
      (service.submit owner.settings query).1 := proceeds
  let moment := (service.countRequest.count owner.settings.registry .submitted).report
    (.submitted request.id owner.settings.id query.policy)
  have launched : moment.Launched owner.settings request
      (moment.launchAttempt owner.settings request) := launched_launchAttempt (.inl rfl)
  have submitted : (service.submit owner.settings query).1 =
      (((moment.launchAttempt owner.settings request).1.putBack owner.settings.id
        (moment.launchAttempt owner.settings request).2).keepHandle query.label
          ⟨request.id, owner.settings.id⟩) := rfl
  rw [launched.putBack] at submitted
  have ids : (moment.launchAttempt owner.settings request).1.contextIds = service.contextIds :=
    launched.contextIds
  have back := liveTotal_insertLive (ids ▸ steady.orderly.contexts)
    (ids ▸ mem_contextIds_of_origin? found) (moment.launchAttempt owner.settings request).2
  have same : (moment.launchAttempt owner.settings request).1.liveTotal = service.liveTotal :=
    liveTotal_congr launched.lives
  have once : ([.submitted] ++ pool.counts : List Counter).count .submitted = 1 := by
    unfold Dispatcher.counts
    cases pool.closed <;> rfl
  refine ⟨_, _, [], none, refusals_of_dispatches (.first found asked),
    balanced_launch (.inl rfl) pool,
    ⟨counted.get_metrics (steady.common.known _ known), ?_, ?_, ?_⟩⟩
  · rw [submitted]
    exact launched.callbacks
  · rw [submitted]
    exact launched.within.ended
  · rw [submitted, once, ← same]
    exact back

theorem not_dispatches (processing : ∀ id, move ≠ .process id)
    (submitting : ∀ id query, move ≠ .submit id query) : ¬ service.Dispatches move pool := by
  rintro (_ | _)
  · exact submitting _ _ rfl
  · exact processing _ rfl

theorem Advanced.recorded {wanted : RequestId} (advanced : service.Advanced wanted after) :
    Recorded [] service after := by
  refine ⟨?_, advanced.within.ended, advanced.lives⟩
  cases advanced with
  | waiting => rfl
  | moved _ _ passes => exact passes.interlude.callbacks
  | skipped _ _ _ interlude => exact interlude.callbacks
  | orphaned _ _ _ interlude => exact interlude.callbacks
  | posted _ _ _ interlude _ => exact interlude.callbacks

/-- Nothing ends and no callback is called unless an origin takes a turn, and no request comes or
goes without a query as long as its origin stays. -/
theorem Moved.quiet (moved : service.Moved move after) (processing : ∀ id, move ≠ .process id)
    (submitting : ∀ id query, move ≠ .submit id query) (staying : ∀ id, move ≠ .dropOrigin id) :
    after.callbacks = service.callbacks ∧ after.ended = service.ended ∧
      after.liveTotal = service.liveTotal := by
  have recorded : Recorded [] service after → after.callbacks = service.callbacks ∧
      after.ended = service.ended ∧ after.liveTotal = service.liveTotal :=
    fun same => ⟨same.callbacks, same.ended, liveTotal_congr same.lives⟩
  cases moved with
  | interlude interlude => exact recorded interlude.recorded
  | interposed => exact ⟨rfl, rfl, rfl⟩
  | woken _ => exact recorded ⟨rfl, rfl, lives_post _⟩
  | advanced advanced => exact recorded advanced.recorded
  | processed _ _ _ => exact absurd rfl (processing _)
  | submitted _ _ _ => exact absurd rfl (submitting _ _)
  | @originAdded id config pool =>
      refine ⟨rfl, rfl, ?_⟩
      simp [liveTotal, lives, addOrigin]
  | originDropped _ => exact absurd rfl (staying _)

theorem metrics_of_after? (processing : ∀ id, move ≠ .process id)
    (submitting : ∀ id query, move ≠ .submit id query) (moved : service.after? move = some after) :
    after.metrics registry = service.metrics registry := by
  have same : after.registries = service.registries →
      after.metrics registry = service.metrics registry :=
    fun same => by rw [Service.metrics, same, Service.metrics]
  cases move with
  | advance request =>
      exact same (Option.some.inj moved ▸ congrArg Prod.fst (service.desks_advance request))
  | process id => exact absurd rfl (processing id)
  | submit id query => exact absurd rfl (submitting id query)
  | addDispatcher name workers shared =>
      exact Option.some.inj moved ▸ metrics_addDispatcher name workers shared
  | interpose faults => exact Option.some.inj moved ▸ rfl
  | _ => exact same (proceeds_of_minor rfl moved).registries

/-- What every move counts fits what it does. -/
theorem balances_of_after? (steady : service.Steady registry)
    (shares : service.Shares registry move) (moved : service.after? move = some after) :
    service.Balances registry move after := by
  by_cases processing : ∃ id, move = .process id
  · obtain ⟨id, rfl⟩ := processing
    by_cases dispatched : ∃ pool, service.Dispatches (.process id) pool
    · obtain ⟨pool, dispatches⟩ := dispatched
      exact dispatches.balances steady moved
    · obtain ⟨owner, message, rest, rfl, processed⟩ := exists_processed steady.orderly moved
      exact processed.balances steady (fun pool dispatches => dispatched ⟨pool, dispatches⟩)
        fun request => shares after request moved
  by_cases submitting : ∃ id query, move = .submit id query
  · obtain ⟨id, query, rfl⟩ := submitting
    obtain ⟨owner, found, rfl⟩ := Option.map_eq_some_iff.mp moved
    exact balances_submit steady found query
  have processing : ∀ id, move ≠ .process id := fun id same => processing ⟨id, same⟩
  have submitting : ∀ id query, move ≠ .submit id query :=
    fun id query same => submitting ⟨id, query, same⟩
  have staying : ∀ id, move ≠ .dropOrigin id := by
    rintro id rfl
    exact shares
  have refusals : service.Refusals move 0 := .none fun pool dispatches =>
    absurd dispatches (not_dispatches processing submitting)
  obtain ⟨callbacks, ended, live⟩ :=
    (moved_of_after? steady.orderly.ready moved).quiet processing submitting staying
  exact ⟨0, [], [], none, refusals, balanced_nil,
    fun _ => metrics_of_after? processing submitting moved ▸ rfl, callbacks, ended, live⟩

/-- The books are kept on every run. -/
theorem Tallied.kept (tallied : Tallied (Shares registry) (Service.new schema) refused service) :
    service.Kept registry refused := by
  induction tallied with
  | start => exact kept_new schema
  | move move earlier shares moved refusals inductionHypothesis =>
      obtain ⟨_, counts, calls, final, counted, balanced, entered⟩ :=
        balances_of_after? (steady_of_reaches earlier.reaches) shares moved
      obtain rfl := counted.unique refusals
      exact inductionHypothesis.entered entered balanced

/-- A move that ends a request counts the state it ends in, and no other one. -/
theorem Balances.ends (balances : service.Balances registry move after)
    (terminal : final.state.isTerminal = true) (ended : final ∈ after.ended)
    (going : final ∉ service.ended) :
    ∃ counter, final.state.counter? = some counter ∧
      ∀ other ∈ [Counter.converged, .failed, .cancelled], (after.metrics registry).get other =
        (service.metrics registry).get other + if other = counter then 1 else 0 := by
  obtain ⟨_, counts, calls, last, _, balanced, entered⟩ := balances
  rw [entered.ended] at ended
  obtain rfl := Option.mem_toList.mp ((List.mem_append.mp ended).resolve_right going)
  have counted := balanced.ended
  obtain ⟨counter, same⟩ : ∃ counter, final.state.counter? = some counter := by
    cases state : final.state <;> first | exact ⟨_, rfl⟩ | exact absurd (state ▸ terminal) nofun
  refine ⟨counter, same, fun other among => ?_⟩
  obtain ⟨state, own⟩ : ∃ state : RequestState, state.counter? = some other := by
    simp only [List.mem_cons, List.not_mem_nil, or_false] at among
    rcases among with rfl | rfl | rfl
    · exact ⟨.converged, rfl⟩
    · exact ⟨.failed, rfl⟩
    · exact ⟨.cancelled, rfl⟩
  rw [entered.metrics, counted state other own]
  congr 1
  cases ends : final.state <;> rw [ends] at same <;> cases same <;>
    cases state <;> cases own <;> simp [ends]

end Moves

section Conservation

theorem length_ended {ended : List Request}
    (terminal : ∀ final ∈ ended, final.state.isTerminal = true) :
    ended.length = (ended.countP fun final => decide (final.state = .converged)) +
      (ended.countP fun final => decide (final.state = .failed)) +
        ended.countP fun final => decide (final.state = .cancelled) := by
  induction ended with
  | nil => rfl
  | cons final rest inductionHypothesis =>
      have others := inductionHypothesis fun other member =>
        terminal other (List.mem_cons_of_mem _ member)
      have ends := terminal final List.mem_cons_self
      simp only [List.length_cons, List.countP_cons]
      cases state : final.state with
      | converged | failed | cancelled =>
          simp only [decide_true, reduceCtorEq, decide_false, if_true, Bool.false_eq_true, if_false]
          omega
      | pending | running | awaitingReconciliation | retrying =>
          exact absurd (state ▸ ends) nofun

/-- A request fails for an unreachable version once at most. -/
theorem nodup_unreached (orderly : service.Orderly) (accounted : service.Accounted) :
    service.unreached.Nodup := by
  refine List.nodup_iff_count_le_one.mpr fun wanted => ?_
  calc service.unreached.count wanted
      ≤ (service.callsOf wanted).length := by
        rw [unreached, callsOf_eq, List.count_filterMap, List.length_filterMap_eq_countP]
        refine List.countP_mono_left fun observation _ named => ?_
        cases observation with
        | failed label request error =>
            cases error <;> simp_all [Observation.unreached?, Observation.callOf?]
        | succeeded _ _ _ | acted _ | hookRan _ _ | panicked _ _ =>
            exact absurd named Bool.false_ne_true
    _ ≤ (service.ended.map fun final => final.id).count wanted := by
        rw [accounted.calls, List.length_filterMap_eq_countP, List.count, List.countP_map]
        refine List.countP_mono_left fun final _ called => ?_
        by_cases here : final.id = wanted
        · exact beq_iff_eq.mpr here
        · simp [Request.callOf?, here] at called
    _ ≤ 1 := List.nodup_iff_count_le_one.mp orderly.ended wanted

theorem failed_of_mem_unreached (accounted : service.Accounted) {wanted : RequestId}
    (member : wanted ∈ service.unreached) :
    ∃ final ∈ service.ended, final.id = wanted ∧ final.state = .failed := by
  obtain ⟨observation, called, named⟩ := List.mem_filterMap.mp member
  have call : RequestState.failed ∈ service.callsOf wanted := by
    rw [callsOf_eq]
    refine List.mem_filterMap.mpr ⟨observation, called, ?_⟩
    cases observation with
    | failed label request error =>
        cases error <;> simp_all [Observation.unreached?, Observation.callOf?]
    | succeeded _ _ _ | acted _ | hookRan _ _ | panicked _ _ =>
        exact absurd named.symm (Option.some_ne_none wanted)
  rw [accounted.calls] at call
  obtain ⟨final, ended, same⟩ := List.mem_filterMap.mp call
  refine ⟨final, ended, ?_⟩
  simp only [Request.callOf?] at same
  split at same
  · rename_i ends
    exact ⟨ends.1, Option.some.inj same⟩
  · cases same

theorem Kept.books (kept : service.Kept registry refused) (orderly : service.Orderly)
    (accounted : service.Accounted) : service.Books registry refused where
  submitted := by
    have total := length_ended accounted.terminal
    rw [← kept.ended .converged .converged rfl, ← kept.ended .failed .failed rfl,
      ← kept.ended .cancelled .cancelled rfl] at total
    rw [sum_liveRequests orderly.contexts]
    exact kept.submitted.trans (congrArg (· + service.liveTotal) total)
  ended := kept.ended
  once := orderly.ended
  mismatches := kept.mismatches
  unreached := ⟨nodup_unreached orderly accounted, fun _ => failed_of_mem_unreached accounted⟩
  launches := kept.launches

/-- The counters that contexts share are conserved.  Every request that was submitted has ended or
is live, every mismatch was retried, rederived or given up, and every launch was accepted or
refused.  A move that ends a request counts the state it ends in, once. -/
theorem metrics_conserved (run : (Service.new schema).Reaches (Shares registry) service) :
    (∃ refused, Tallied (Shares registry) (Service.new schema) refused service) ∧
    (∀ refused, Tallied (Shares registry) (Service.new schema) refused service →
      service.Books registry refused) ∧
    ∀ move after, service.Shares registry move → service.after? move = some after →
      ∀ final ∈ after.ended, final ∉ service.ended →
        ∃ counter, final.state.counter? = some counter ∧
          ∀ other ∈ [Counter.converged, .failed, .cancelled],
            (after.metrics registry).get other =
              (service.metrics registry).get other + if other = counter then 1 else 0 := by
  refine ⟨exists_tallied run, ?_, ?_⟩
  · intro refused tallied
    exact tallied.kept.books (orderly_of_reaches run) (accounted_of_reaches run)
  · intro move after shares moved final ended going
    have terminal := (accounted_of_reaches (run.move move shares moved)).terminal final ended
    exact (balances_of_after? (steady_of_reaches run) shares moved).ends terminal ended going

/-- One query is evaluated and another one is refused; then the first one is delivered. -/
theorem metrics_conserved_of_closed : ∃ service after final refused,
    (Service.new itemsSchema).Reaches (Shares ⟨1⟩) service ∧ service.Books ⟨1⟩ refused ∧
    refused = 1 ∧ service.Shares ⟨1⟩ (.process ⟨1⟩) ∧
    service.after? (.process ⟨1⟩) = some after ∧ final ∈ after.ended ∧ final ∉ service.ended ∧
    ∃ counter, final.state.counter? = some counter ∧
      ∀ other ∈ [Counter.converged, .failed, .cancelled], (after.metrics ⟨1⟩).get other =
        (service.metrics ⟨1⟩).get other + if other = counter then 1 else 0 := by
  let early : List Move := [.act (.write (insertItem 5)), .addDispatcher "pool" 1 none]
  let late : List Move := [.submit ⟨1⟩ (allRows "kept"), .advance ⟨1⟩, .advance ⟨1⟩, .advance ⟨1⟩,
    .advance ⟨1⟩, .advance ⟨1⟩, .advance ⟨1⟩, .act (.close "pool"), .submit ⟨1⟩ (allRows "late")]
  have sample : ∃ first second service after final,
      (Service.new itemsSchema).afterAll? early = some first ∧
      (first.registries.lookup ⟨1⟩).isSome = true ∧
      first.dispatchers.all (fun pool => pool.registry = ⟨1⟩) = true ∧
      first.after? (.addOrigin ⟨1⟩ .default) = some second ∧
      second.afterAll? late = some service ∧ service.after? (.process ⟨1⟩) = some after ∧
      service.ended = [] ∧ after.ended.head? = some final ∧
      (service.metrics ⟨1⟩).submitted = 2 ∧ (service.metrics ⟨1⟩).retries = 0 ∧
      (service.metrics ⟨1⟩).attempts = 1 ∧
      after.observations.filterMap Observation.panic? = [] :=
    ⟨_, _, _, _, _, rfl, rfl, rfl, rfl, rfl, rfl, rfl, rfl, rfl, rfl, rfl, rfl⟩
  obtain ⟨first, second, service, after, final, setUp, known, pools, added, used, processed,
    nothing, ends, submitted, retries, attempts, calm⟩ := sample
  have opened : (Service.new itemsSchema).Reaches (Shares ⟨1⟩) first :=
    reaches_of_afterAll? setUp (by simp [early, Shares])
  have shares : first.Shares ⟨1⟩ (.addOrigin ⟨1⟩ .default) :=
    ⟨known, fun pool member _ => of_decide_eq_true (List.all_eq_true.mp pools pool member)⟩
  have run : (Service.new itemsSchema).Reaches (Shares ⟨1⟩) service :=
    (opened.move _ shares added).trans (reaches_of_afterAll? used (by simp [late, Shares]))
  obtain ⟨⟨refused, tallied⟩, books, counted⟩ := metrics_conserved run
  have kept := books refused tallied
  have launches := kept.launches
  have ended : final ∈ after.ended := List.mem_of_head? ends
  have going : final ∉ service.ended := nothing ▸ List.not_mem_nil
  have composed : service.Shares ⟨1⟩ (.process ⟨1⟩) := fun other request moved =>
    composed_of_calm (Option.some.inj (processed.symm.trans moved) ▸ calm) request
  refine ⟨service, after, final, refused, run, kept, ?_, composed, processed, ended, going,
    counted (.process ⟨1⟩) after composed processed final ended going⟩
  omega

end Conservation

end Service

end SnapshotQuery
