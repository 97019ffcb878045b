import SnapshotQuery.Proofs.Service.Retries
import SnapshotQuery.Proofs.Service.Turns

/-!
# Where results come from

Every result on its way back comes from an attempt of a query: it is rows that a
pinned snapshot keeps complete, or an error there is a reason for.  An attempt
after the first one has a valid predicate, since the rows before it were found.
-/

namespace SnapshotQuery

/-- Faults are interposed only if they are transparent. -/
def Move.Transparent : Move → Prop
  | interpose faults => ∀ method, ∀ fault ∈ faults method, fault.Transparent
  | _ => True

namespace Service

/-- What never is taken back. -/
structure Abides (before after : Service) : Prop where
  develops : before.Develops after
  shut : ∀ id, before.Shut id → after.Shut id
  settings : ∀ settings ∈ before.originSettings, settings.id ∈ after.contextIds →
    settings ∈ after.originSettings

/-- The attempt is one of the request of an origin. -/
structure Suits (service : Service) (id : ContextId) (request : Request) (attempt : Attempt) :
    Prop where
  label : attempt.label = request.label
  predicate : attempt.predicate = request.predicate
  hook : ∀ hook ∈ attempt.hook, request.hook = some hook
  dispatcher : ∃ settings ∈ service.originSettings, settings.id = id ∧
    settings.dispatcher = attempt.dispatcher

/-- The attempt is one of its request, and the first one unless the predicate is valid. -/
structure Grounded (service : Service) (attempt : Attempt) : Prop where
  admissible : attempt.number = 1 ∨ attempt.predicate.check service.store.schema = .ok ()
  suits : ∀ id request, service.Owns id request → request.id = attempt.request →
    service.Suits id request attempt

/-- A result that an attempt has come to, or would have if it had not been refused. -/
structure Stems (service : Service) (completion : Completion) (attempt : Attempt) : Prop where
  request : attempt.request = completion.request
  number : attempt.number = completion.attempt
  grounded : service.Grounded attempt
  vouched : service.Vouched attempt completion.result completion.snapshot

/-- Attempts are those of requests, and results come from attempts. -/
structure Vouches (service : Service) : Prop where
  transparent : service.Transparent
  coherent : service.store.Coherent
  attempts : ∀ attempt ∈ service.attempts, service.Grounded attempt
  evaluated : ∀ attempt ∈ service.attempts, ∀ outcome, attempt.phase.outcome? = some outcome →
    service.Vouched attempt outcome.result outcome.snapshot
  posted : ∀ id completion, service.Holds id (.completed completion) →
    ∃ attempt, service.Stems completion attempt

theorem vouches_new (schema : TableSchema) : (Service.new schema).Vouches where
  transparent := by simp [new, Transparent]
  coherent := Store.coherent_new schema
  attempts := by simp [new]
  evaluated := by simp [new]
  posted := by simp [new, Holds]

variable {service before after moment : Service} {id : ContextId} {request : Request}
  {origin : OriginSettings} {owner : Origin} {message : Message} {rest : List Message}
  {move : Move} {attempt : Attempt} {wanted : RequestId}

section Keeping

theorem abides_of_exchange {counts : List (RegistryId × Counter)} {given taken : List Snapshot}
    (proceeds : Proceeds counts before after) (exchange : Exchange given taken before after) :
    before.Abides after where
  develops := proceeds.toDevelops
  shut := exchange.shut
  settings _ known _ := exchange.originSettings ▸ known

theorem Interlude.originSettings {calls : List Observation}
    (interlude : Interlude calls before after) : after.originSettings = before.originSettings := by
  obtain ⟨wakes, origins, _⟩ := interlude.told
  simp [Service.originSettings, origins, Origin.notified]

theorem originSettings_post (service : Service) (id : ContextId) (message : Message) :
    (service.post id message).originSettings = service.originSettings :=
  service.originSettings_updateOrigin id fun _ => rfl

theorem originSettings_advance (service : Service) (request : RequestId) :
    (service.advance request).originSettings = service.originSettings := by
  have advanced := service.advanced_advance request
  generalize service.advance request = after at advanced
  cases advanced with
  | waiting => rfl
  | moved _ _ passes => exact passes.interlude.originSettings
  | skipped _ _ _ interlude => exact interlude.originSettings
  | orphaned _ _ _ interlude => exact interlude.originSettings
  | @posted attempt _ moment _ _ _ _ interlude _ =>
      exact (moment.originSettings_post attempt.origin _).trans interlude.originSettings

/-- The origins stay as they are unless one is added or dropped. -/
theorem originSettings_of_after? (moved : service.after? move = some after) :
    after.originSettings = service.originSettings ∨
      (∃ id config pool, move = .addOrigin id config ∧ service.dispatcher? id = some pool ∧
        after = (service.addOrigin pool config).1) ∨
      ∃ id, move = .dropOrigin id ∧ after = service.dropOrigin id := by
  cases move with
  | act action => exact .inl (Option.some.inj moved ▸ (service.exchange_act action).originSettings)
  | wake handle =>
      simp only [after?] at moved
      split at moved
      · exact .inl (Option.some.inj moved ▸ (service.exchange_wake handle).originSettings)
      · cases moved
  | advance request => exact .inl (Option.some.inj moved ▸ service.originSettings_advance request)
  | process origin =>
      simp only [after?, process?] at moved
      split at moved
      · cases moved
      · split at moved
        · cases moved
        · refine .inl (Option.some.inj moved ▸ (exchange_handle _ _ _).originSettings.trans ?_)
          exact service.originSettings_updateOrigin _ fun _ => rfl
  | submit origin query =>
      obtain ⟨owner, _, rfl⟩ := Option.map_eq_some_iff.mp moved
      exact .inl (service.exchange_submit owner.settings query).originSettings
  | addDispatcher name workers shared => exact .inl (Option.some.inj moved ▸ rfl)
  | addOrigin dispatcher config =>
      obtain ⟨pool, found, rfl⟩ := Option.map_eq_some_iff.mp moved
      exact .inr (.inl ⟨dispatcher, config, pool, rfl, found, rfl⟩)
  | dropOrigin origin => exact .inr (.inr ⟨origin, rfl, (Option.some.inj moved).symm⟩)
  | openSnapshot name version =>
      have opened := (service.exchange_openSnapshot version).originSettings
      simp only [after?] at moved
      generalize service.openSnapshot version = result at opened moved
      obtain ⟨moment, snapshot⟩ := result
      cases snapshot with
      | error refusal => exact .inl (Option.some.inj moved ▸ opened)
      | ok snapshot =>
          exact .inl (Option.some.inj moved ▸
            (moment.exchange_keepSnapshot name snapshot).originSettings.trans opened)
  | copySnapshot source name =>
      obtain ⟨snapshot, found, rfl⟩ := Option.map_eq_some_iff.mp moved
      exact .inl (service.exchange_copySnapshot found name).originSettings
  | dropSnapshot name =>
      exact .inl (Option.some.inj moved ▸ (service.exchange_dropSnapshot name).originSettings)
  | dropView name =>
      exact .inl (Option.some.inj moved ▸ (service.exchange_dropView name).originSettings)
  | interpose faults => exact .inl (Option.some.inj moved ▸ rfl)

theorem originSettings_dropOrigin (id : ContextId) :
    (service.dropOrigin id).originSettings = (service.withoutOrigin id).originSettings :=
  (interlude_releaseAll (service.withoutOrigin id) _).originSettings

/-- An origin that stays keeps its settings. -/
theorem settings_of_after? (moved : service.after? move = some after) :
    ∀ settings ∈ service.originSettings, settings.id ∈ after.contextIds →
      settings ∈ after.originSettings := by
  rcases originSettings_of_after? moved with same | ⟨id, config, pool, rfl, _, rfl⟩ | ⟨id, rfl, rfl⟩
  · exact fun settings member _ => same ▸ member
  · intro settings member _
    obtain ⟨origin, among, rfl⟩ := List.mem_map.mp member
    exact List.mem_map_of_mem (List.mem_append_left _ among)
  · intro settings member stays
    have ids : (service.dropOrigin id).contextIds = (service.withoutOrigin id).contextIds :=
      (interlude_releaseAll (service.withoutOrigin id) _).contextIds
    rw [ids] at stays
    rw [originSettings_dropOrigin]
    obtain ⟨owner, among, rfl⟩ := List.mem_map.mp member
    obtain ⟨other, kept, same⟩ := List.mem_map.mp stays
    have different := of_decide_eq_true (List.mem_filter.mp kept).2
    exact List.mem_map_of_mem (List.mem_filter.mpr ⟨among, decide_eq_true (same ▸ different)⟩)

theorem abides_of_after? (orderly : service.Orderly) (tracked : service.Tracked)
    (provided : service.Provided) (moved : service.after? move = some after) :
    service.Abides after :=
  ⟨develops_of_after? orderly tracked moved,
    (provided.follows.moved orderly tracked moved).shut, settings_of_after? moved⟩

/-- The attempts under way are not what a service abides by. -/
theorem Abides.attempts {attempts : List Attempt}
    (abides : before.Abides { moment with attempts }) : before.Abides moment :=
  ⟨⟨abides.develops.store, abides.develops.trail, abides.develops.observations⟩, abides.shut,
    abides.settings⟩

theorem abides_attempts (service : Service) (attempts : List Attempt) :
    service.Abides { service with attempts } :=
  ⟨develops_of_same .start rfl rfl, fun _ => id, fun _ known _ => known⟩

theorem Vouched.abides {result : Except QueryError RowSet} {snapshot : Option Snapshot}
    (vouched : before.Vouched attempt result snapshot) (abides : before.Abides after) :
    after.Vouched attempt result snapshot :=
  vouched.develops abides.develops abides.shut

/-- What an attempt comes to does not depend on its phase. -/
theorem Vouched.setPhase {result : Except QueryError RowSet} {snapshot : Option Snapshot}
    (vouched : service.Vouched attempt result snapshot) (phase : Phase) :
    service.Vouched { attempt with phase } result snapshot := by
  cases vouched with
  | found valid shows => exact .found valid shows
  | failed warrants =>
      refine .failed ?_
      cases warrants with
      | invalid check => exact .invalid check
      | poisoned poisoned => exact .poisoned poisoned
      | panicked carried own ran panics => exact .panicked carried own ran panics
      | closed shut => exact .closed shut

theorem Grounded.abides (grounded : before.Grounded attempt) (abides : before.Abides after)
    (owns : ∀ id request, after.Owns id request → request.id = attempt.request →
      before.Owns id request) : after.Grounded attempt where
  admissible := abides.develops.store.precedes.schema ▸ grounded.admissible
  suits id request owned about := by
    obtain ⟨label, predicate, hook, settings, known, rfl, same⟩ :=
      grounded.suits id request (owns id request owned about) about
    exact ⟨label, predicate, hook, settings, abides.settings settings known owned.mem_contextIds,
      rfl, same⟩

theorem Grounded.setPhase (grounded : service.Grounded attempt) (phase : Phase) :
    service.Grounded { attempt with phase } where
  admissible := grounded.admissible
  suits id request owned about := by
    obtain ⟨label, predicate, hook, dispatcher⟩ := grounded.suits id request owned about
    exact ⟨label, predicate, hook, dispatcher⟩

theorem Stems.abides {completion : Completion} (stems : before.Stems completion attempt)
    (abides : before.Abides after)
    (owns : ∀ id request, after.Owns id request → request.id = attempt.request →
      before.Owns id request) : after.Stems completion attempt :=
  ⟨stems.request, stems.number, stems.grounded.abides abides owns, stems.vouched.abides abides⟩

/-- What was vouched for stays so, beside new requests, attempts and results. -/
theorem Vouches.carry (vouches : before.Vouches) (honest : after.Transparent)
    (abides : before.Abides after)
    (owns : ∀ id request, after.Owns id request →
      before.Owns id request ∨ request.id ∉ before.tickets)
    (attempts : ∀ attempt ∈ after.attempts, attempt ∈ before.attempts ∨
      after.Grounded attempt ∧ ∀ outcome, attempt.phase.outcome? = some outcome →
        after.Vouched attempt outcome.result outcome.snapshot)
    (posted : ∀ id completion, after.Holds id (.completed completion) →
      before.Holds id (.completed completion) ∨ ∃ attempt, after.Stems completion attempt) :
    after.Vouches where
  transparent := honest
  coherent := abides.develops.store.precedes.coherent vouches.coherent
  attempts attempt member := by
    rcases attempts attempt member with old | new
    · refine (vouches.attempts attempt old).abides abides fun id request owned about => ?_
      exact (owns id request owned).resolve_right
        (not_not.mpr (mem_tickets.mpr (.inl ⟨attempt, old, about.symm⟩)))
    · exact new.1
  evaluated attempt member outcome passed := by
    rcases attempts attempt member with old | new
    · exact (vouches.evaluated attempt old outcome passed).abides abides
    · exact new.2 outcome passed
  posted id completion held := by
    rcases posted id completion held with old | new
    · obtain ⟨attempt, stems⟩ := vouches.posted id completion old
      refine ⟨attempt, stems.abides abides fun other request owned about => ?_⟩
      have ticket : request.id ∈ before.tickets :=
        mem_tickets.mpr (.inr ⟨id, completion, old, (about.trans stems.request).symm⟩)
      exact (owns other request owned).resolve_right (not_not.mpr ticket)
    · exact new

/-- Where nothing new is under way, everything is vouched for as before. -/
theorem Vouches.lapsed (vouches : before.Vouches) (honest : after.Transparent)
    (abides : before.Abides after) (lapsed : before.Lapsed after) : after.Vouches :=
  vouches.carry honest abides (fun id request owned => .inl (lapsed.owns id request owned))
    (fun _ member => .inl (lapsed.attempts member))
    fun id completion held => .inl (lapsed.holds id completion held)

end Keeping

section Working

/-- What an attempt comes to in its next phase is vouched for. -/
theorem Vouches.passes (vouches : service.Vouches) (backs : service.store.Backs service.holdings)
    (member : attempt ∈ service.attempts) {phase : Phase}
    (passes : service.Passes attempt moment phase) (abides : service.Abides moment)
    {outcome : Outcome} (passed : phase.outcome? = some outcome) :
    moment.Vouched attempt outcome.result outcome.snapshot := by
  cases passes with
  | @refused pool _ found closed =>
      obtain rfl := Option.some.inj passed
      have same : pool.id = attempt.dispatcher := dispatcher?_id found
      exact .failed (.closed ⟨pool, List.mem_of_find?_eq_some found, same, closed⟩)
  | admitted _ => exact absurd passed nofun
  | abandoned _ _ => exact absurd passed nofun
  | cleared _ _ => exact absurd passed nofun
  | finished _ evaluated =>
      obtain rfl := Option.some.inj passed
      have vouched := vouched_evaluateAttempt vouches.transparent vouches.coherent backs attempt
      rw [evaluated] at vouched
      exact vouched
  | @released other finished =>
      obtain rfl := Option.some.inj passed
      exact (vouches.evaluated attempt member other (finished ▸ rfl)).abides abides
  | @checked other _ released _ _ =>
      obtain rfl := Option.some.inj passed
      exact (vouches.evaluated attempt member other (released ▸ rfl)).abides abides

theorem of_mem_setPhase (distinct : (service.attempts.map fun attempt => attempt.request).Nodup)
    (member : attempt ∈ service.attempts) {phase : Phase} {other : Attempt}
    (among : other ∈ (service.setPhase attempt.request phase).attempts) :
    other ∈ service.attempts ∨ other = { attempt with phase } := by
  obtain ⟨old, oldMember, rfl⟩ := List.mem_map.mp among
  by_cases here : old.request = attempt.request
  · obtain rfl := List.inj_on_of_nodup_map distinct oldMember member here
    exact .inr (if_pos rfl)
  · rw [if_neg here]
    exact .inl oldMember

/-- A step of a worker leaves everything vouched for. -/
theorem Vouches.advanced (vouches : service.Vouches)
    (backs : service.store.Backs service.holdings)
    (distinct : (service.attempts.map fun attempt => attempt.request).Nodup)
    (advanced : service.Advanced wanted after) (honest : after.Transparent)
    (abides : service.Abides after) : after.Vouches := by
  have dropped : ∀ moment, Interlude [] service moment → after = moment.dropAttempt wanted →
      after.Vouches := by
    rintro moment interlude rfl
    exact vouches.lapsed honest abides (interlude.lapsed.trans (reduced_dropAttempt wanted).lapsed)
  cases advanced with
  | waiting => exact vouches
  | @moved attempt moment phase member same passes =>
      subst same
      have interlude := passes.interlude
      have grounded := (vouches.attempts attempt member).abides abides
        fun id request owned _ => interlude.owns_iff.mp owned
      refine vouches.carry honest abides
        (fun id request owned => .inl (interlude.owns_iff.mp owned)) ?_
        fun id completion held => .inl (interlude.holds_completed_iff.mp held)
      intro other among
      have still : attempt ∈ moment.attempts := interlude.attempts ▸ member
      rcases of_mem_setPhase (interlude.attempts ▸ distinct) still among with old | rfl
      · exact .inl (interlude.attempts ▸ old)
      · refine .inr ⟨grounded.setPhase phase, fun outcome passed => ?_⟩
        exact ((vouches.passes backs member passes abides.attempts passed).abides
          (moment.abides_attempts _)).setPhase phase
  | skipped _ _ _ interlude => exact dropped _ interlude rfl
  | orphaned _ _ _ interlude => exact dropped _ interlude rfl
  | @posted attempt outcome moment owner member same checked interlude found =>
      subst same
      have owns : ∀ id request, ((moment.post attempt.origin (.completed
          (attempt.completion outcome))).dropAttempt attempt.request).Owns id request →
            service.Owns id request :=
        fun id request owned => interlude.owns_iff.mp (owns_post_iff.mp owned)
      refine vouches.carry honest abides (fun id request owned => .inl (owns id request owned))
        (fun other among => .inl (interlude.attempts ▸ (List.mem_filter.mp among).1)) ?_
      intro id completion held
      rcases holds_of_post held with old | ⟨_, new⟩
      · exact .inl (interlude.holds_completed_iff.mp old)
      · obtain rfl := Message.completed.inj new
        have grounded := (vouches.attempts attempt member).abides abides
          fun id request owned _ => owns id request owned
        exact .inr ⟨attempt, rfl, rfl, grounded,
          (vouches.evaluated attempt member outcome (checked ▸ rfl)).abides abides⟩

end Working

section Launching

theorem Launch.exchange {result : Service × Request}
    (launch : service.Launch origin request result) : Exchange [] [] service result.1 := by
  have announced : ∀ hook, Exchange [] [] service (service.announceAttempt request hook) :=
    fun hook => service.exchange_report _
  cases launch with
  | @accepted pool hook _ _ found _ _ =>
      have own : pool.id = origin.dispatcher := dispatcher?_id found
      have member : pool ∈ (service.announceAttempt request hook).dispatchers :=
        List.mem_of_find?_eq_some found
      exact (announced hook).trans (exchange_accept _ member own.symm rfl)
  | refused _ => exact (announced _).trans (exchange_post _ _ rfl)

theorem Launch.abides {result : Service × Request}
    (launch : service.Launch origin request result) (id : ContextId) (added : Request) :
    service.Abides (result.1.insertLive id added) :=
  abides_of_exchange (launch.proceeds.then (proceeds_updateOrigin _ _ _))
    (launch.exchange.trans (exchange_insertLive _ _ _))

theorem Launch.owns_iff {result : Service × Request}
    (launch : service.Launch origin request result) {other : Request} :
    result.1.Owns id other ↔ service.Owns id other := by
  cases launch with
  | accepted _ _ _ _ => exact Iff.rfl
  | refused _ => exact owns_post_iff

/-- The next attempt of a request in hand is grounded once the request is back. -/
theorem Launch.grounded {result : Service × Request}
    (launch : service.Launch origin request result) (known : origin ∈ service.originSettings)
    (vacant : service.Vacant request.id)
    (valid : request.attempts = 0 ∨ request.predicate.check service.store.schema = .ok ())
    (abides : service.Abides (result.1.insertLive origin.id result.2)) {hook : Option Hook}
    (carried : ∀ carried ∈ hook, request.hook = some carried) :
    (result.1.insertLive origin.id result.2).Grounded (request.attempt origin hook) where
  admissible := by
    rcases valid with first | valid
    · exact .inl (congrArg (· + 1) first)
    · exact .inr (abides.develops.store.precedes.schema ▸ valid)
  suits id held owned about := by
    obtain ⟨runs, same⟩ := launch.started
    rcases owns_insertLive owned with old | ⟨rfl, rfl⟩
    · exact absurd about (vacant.live id held (launch.owns_iff.mp old))
    · have settings := abides.settings origin known owned.mem_contextIds
      rw [same] at settings ⊢
      exact ⟨rfl, rfl, carried, origin, settings, rfl, rfl⟩

/-- The next attempt of a request in hand, accepted or refused, is vouched for. -/
theorem Vouches.launched (vouches : service.Vouches) (flown : service.Flown)
    (known : origin ∈ service.originSettings) (housed : origin.dispatcher ∈ service.poolIds)
    {result : Service × Request} (launch : service.Launch origin request result)
    (vacant : service.Vacant request.id) (free : request.id ∉ service.tickets)
    (valid : request.attempts = 0 ∨ request.predicate.check service.store.schema = .ok ()) :
    (result.1.insertLive origin.id result.2).Vouches := by
  have honest : (result.1.insertLive origin.id result.2).Transparent :=
    vouches.transparent.mono launch.proceeds.faults
  have abides : service.Abides (result.1.insertLive origin.id result.2) := launch.abides _ _
  have owns : ∀ id held, (result.1.insertLive origin.id result.2).Owns id held →
      service.Owns id held ∨ held.id ∉ service.tickets := by
    intro id held owned
    rcases owns_insertLive owned with old | ⟨_, rfl⟩
    · exact .inl (launch.owns_iff.mp old)
    · obtain ⟨runs, same⟩ := launch.started
      exact .inr (same ▸ free)
  cases launch with
  | @accepted pool hook runs carried found opened unused =>
      have grounded := (Launch.accepted carried found opened unused).grounded known vacant valid
        abides carried
      refine vouches.carry honest abides owns ?_ fun id completion held =>
        .inl (holds_insertLive_iff.mp held)
      intro attempt member
      rcases List.mem_append.mp member with old | new
      · exact .inl old
      · obtain rfl := List.mem_singleton.mp new
        exact .inr ⟨grounded, nofun⟩
  | @refused hook runs error refuses =>
      have bare : ∀ carried ∈ (none : Option Hook), request.hook = some carried := nofun
      have grounded := (Launch.refused refuses).grounded known vacant valid abides bare
      obtain ⟨rfl, shut⟩ := refuses.shut flown housed
        fun attempt member same => free (mem_tickets.mpr (.inl ⟨attempt, member, same⟩))
      refine vouches.carry honest abides owns (fun attempt member => .inl member) ?_
      intro id completion held
      rcases holds_of_post (holds_insertLive_iff.mp held) with old | ⟨_, new⟩
      · exact .inl old
      · obtain rfl := Message.completed.inj new
        have down : Warrants _ (request.attempt origin none) _ := .closed (abides.shut _ shut)
        exact .inr ⟨request.attempt origin none, rfl, rfl, grounded, .failed down⟩

/-- A request whose rows were stale has a valid predicate. -/
theorem Vouches.relaunched (vouches : service.Vouches) (orderly : service.Orderly)
    (tracked : service.Tracked) (provided : service.Provided)
    (found : service.origin? owner.settings.id = some owner)
    (oldest : owner.mailbox = message :: rest) {rows : RowSet} {result : Service × Request}
    (relaunched : service.Relaunched owner message rest request rows moment result after)
    (honest : after.Transparent) : after.Vouches := by
  have contexts := orderly.contexts
  obtain ⟨⟨completion, ⟨rfl, live, _, _⟩, answered⟩, unset, interlude, between, ⟨_, proceeds⟩,
    launch, rfl⟩ := relaunched
  obtain ⟨owned, about⟩ := owns_of_liveRequest? live
  have exchange := ((exchange_leaveMessages contexts found oldest).then
    (exchange_removeLive _ _ _)).then between
  have proceeded := ((service.proceeds_updateOrigin _ _).trans
    (proceeds_updateOrigin _ _ _)).trans proceeds
  have abides : service.Abides moment := abides_of_exchange proceeded exchange
  have lapsed := ((reduced_leaveMessages contexts found oldest).lapsed.trans
    (lapsed_taken _ _ _)).trans interlude.lapsed
  obtain ⟨attempt, stems⟩ := vouches.posted _ completion (holds_of_origin? found oldest)
  have suits := stems.grounded.suits _ request (owns_leaveMessages_iff.mp owned)
    (about.trans stems.request.symm)
  have valid : request.predicate.check service.store.schema = .ok () := by
    have vouched := stems.vouched
    generalize completion.snapshot = snapshot at vouched
    rw [answered] at vouched
    cases vouched with
    | found valid _ => exact suits.predicate ▸ valid
  have known := mem_originSettings_of_origin? found
  have vacant := (orderly.within (within_leaveMessages rest)).vacant_removeLive owned
  have free := tracked.free contexts found oldest
  have between := vouches.lapsed (vouches.transparent.mono proceeded.faults) abides lapsed
  have launched := between.launched (exchange.flown provided.flown)
    (exchange.originSettings ▸ known) (exchange.poolIds ▸ provided.housed _ known) launch
    (vacant.within interlude.within)
    (by
      rw [interlude.tickets, tickets_removeLive]
      exact about ▸ free)
    (.inr (abides.develops.store.precedes.schema ▸ valid))
  exact launched.lapsed honest
    (abides_of_exchange (proceeds_releaseAll _ _) (exchange_releaseAll _ _))
    (interlude_releaseAll _ _).lapsed

/-- The first attempt of a new request needs no rows before it. -/
theorem Vouches.submitted (vouches : service.Vouches) (orderly : service.Orderly)
    (tracked : service.Tracked) (provided : service.Provided)
    (known : origin ∈ service.originSettings) (query : Query) :
    (service.submit origin query).1.Vouches := by
  obtain ⟨result, launch, submitted⟩ := service.submit_eq origin query
  let counted := (service.countRequest.count origin.registry .submitted).report
    (.submitted ⟨service.requestsMade + 1⟩ origin.id query.policy)
  have interlude : Interlude [] service.countRequest counted :=
    (interlude_count _ _ _).then (interlude_report _ _)
  have proceeds : Proceeds [] service service.countRequest := proceeds_of_proceedings rfl .start
  have abides : service.Abides counted :=
    ⟨(proceeds.trans ((proceeds_count _ _ _).then (proceeds_report _ _ rfl))).toDevelops,
      fun _ => id, fun _ known _ => known⟩
  have lapsed : service.Lapsed counted :=
    ⟨List.Subset.refl _, fun _ _ owned => owned, fun _ _ held => held⟩
  have vacant : counted.Vacant (query.request ⟨service.requestsMade + 1⟩ origin.id).id :=
    orderly.vacant_next.within interlude.within
  have free : (⟨service.requestsMade + 1⟩ : RequestId) ∉ counted.tickets := by
    rw [interlude.tickets]
    exact fun member => Nat.not_succ_le_self _ (tracked.ticketsMade _ member)
  have honest : counted.Transparent := vouches.transparent
  have launched := (vouches.lapsed honest abides lapsed).launched
    ⟨provided.flown.inFlight, provided.flown.known, provided.flown.made⟩ known
    (provided.housed origin known) launch vacant free (.inl rfl)
  rw [submitted]
  refine launched.lapsed launched.transparent ?_
    ⟨List.Subset.refl _, fun _ _ owned => owned, fun _ _ held => held⟩
  exact ⟨develops_of_same .start rfl rfl, fun _ => id, fun _ known _ => known⟩

end Launching

section Moves

/-- Nothing new is under way unless a step of a worker, a turn of an origin or a query begins it. -/
theorem Moved.lapsed (moved : service.Moved move after) :
    service.Lapsed after ∨ (∃ request, move = .advance request) ∨ (∃ id, move = .process id) ∨
      ∃ id query, move = .submit id query := by
  cases moved with
  | interlude interlude => exact .inl interlude.lapsed
  | interposed => exact .inl ⟨List.Subset.refl _, fun _ _ owned => owned, fun _ _ held => held⟩
  | woken _ => exact .inl (reduced_wake _).lapsed
  | originAdded => exact .inl (reduced_addOrigin _ _).lapsed
  | originDropped interlude => exact .inl (reduced_withoutOrigin.lapsed.trans interlude.lapsed)
  | advanced _ => exact .inr (.inl ⟨_, rfl⟩)
  | processed _ _ _ => exact .inr (.inr (.inl ⟨_, rfl⟩))
  | submitted _ _ _ => exact .inr (.inr (.inr ⟨_, _, rfl⟩))

theorem Transparent.moved (transparent : service.Transparent) (honest : move.Transparent)
    (moved : service.Moved move after) : after.Transparent := by
  rcases moved.grows with grows | ⟨faults, rfl, rfl⟩
  · exact transparent.mono grows.faults
  · exact honest

theorem Vouches.moved (vouches : service.Vouches) (orderly : service.Orderly)
    (tracked : service.Tracked) (provided : service.Provided) (honest : move.Transparent)
    (moved : service.after? move = some after) : after.Vouches := by
  have abides := abides_of_after? orderly tracked provided moved
  have transparent := vouches.transparent.moved honest (moved_of_after? orderly.ready moved)
  rcases (moved_of_after? orderly.ready moved).lapsed with
    lapsed | ⟨request, rfl⟩ | ⟨id, rfl⟩ | ⟨id, query, rfl⟩
  · exact vouches.lapsed transparent abides lapsed
  · obtain rfl := Option.some.inj moved
    exact vouches.advanced provided.backs tracked.distinct
      (service.advanced_advance request) transparent abides
  · obtain ⟨owner, message, rest, rfl, processed⟩ := exists_processed orderly moved
    rcases processed.lapsed_or_relaunched orderly.contexts with
      lapsed | ⟨request, rows, moment, result, relaunched⟩
    · exact vouches.lapsed transparent abides lapsed
    · exact vouches.relaunched orderly tracked provided processed.found processed.oldest
        relaunched transparent
  · obtain ⟨owner, found, rfl⟩ := Option.map_eq_some_iff.mp moved
    exact vouches.submitted orderly tracked provided
      (mem_originSettings_of_origin? found) query

/-- In a run in which others act before calls but the store answers them, every result is vouched
for. -/
theorem vouches_of_reaches {schema : TableSchema}
    (run : (Service.new schema).Reaches (fun _ move => move.Transparent) service) :
    service.Vouches := by
  induction run with
  | start => exact vouches_new schema
  | move move earlier honest moved inductionHypothesis =>
      exact inductionHypothesis.moved (orderly_of_reaches earlier) (tracked_of_reaches earlier)
        (provided_of_reaches earlier) honest moved

end Moves

section Results

/-- Rows that are taken out of a mailbox come with a snapshot that keeps them complete. -/
theorem Vouches.shows (vouches : service.Vouches) (contexts : service.contextIds.Nodup)
    (backs : service.store.Backs service.holdings)
    (found : service.origin? owner.settings.id = some owner) {completion : Completion}
    (oldest : owner.mailbox = .completed completion :: rest) {rows : RowSet}
    (answered : completion.result = .ok rows) (removed : RequestId) :
    ∃ snapshot, completion.snapshot = some snapshot ∧ service.store.Shows rows snapshot ∧
      service.store.Backs (snapshot ::
        ((service.leaveMessages owner.settings.id rest).removeLive owner.settings.id
          removed).holdings) := by
  obtain ⟨attempt, stems⟩ := vouches.posted _ completion (holds_of_origin? found oldest)
  have exchange := (exchange_leaveMessages contexts found oldest).then
    (exchange_removeLive _ owner.settings.id removed)
  have vouched := stems.vouched
  generalize carried : completion.snapshot = snapshot at vouched
  rw [answered] at vouched
  cases vouched with
  | @found _ snapshot _ shows =>
      have taken : (Message.completed completion).snapshot? = some snapshot := carried
      rw [taken] at exchange
      exact ⟨snapshot, rfl, shows, exchange.backs [] backs⟩

/-- A result that is taken up is resolved as the policy says. -/
theorem Vouches.resolved (vouches : service.Vouches) (contexts : service.contextIds.Nodup)
    (backs : service.store.Backs service.holdings)
    (found : service.origin? owner.settings.id = some owner) {completion : Completion}
    (oldest : owner.mailbox = .completed completion :: rest) {rows : RowSet}
    (answered : completion.result = .ok rows) {decided : Service} {outcome : Reconciliation}
    {set : Bool}
    (reconciled : ((service.leaveMessages owner.settings.id rest).removeLive owner.settings.id
      request.id).Reconciled owner.settings request rows decided outcome set) :
    decided.store.Resolved request.policy request.attempts outcome := by
  obtain ⟨snapshot, _, shows, held⟩ :=
    vouches.shows contexts backs found oldest answered request.id
  let taken := (service.leaveMessages owner.settings.id rest).removeLive owner.settings.id
    request.id
  have honest : taken.Transparent := vouches.transparent
  have coherent : taken.store.Coherent := vouches.coherent
  have resolved : (taken.reconcile owner.settings.config.reconcileMode rows request.policy
      request.attempts false).1.store.Resolved request.policy request.attempts
        (taken.reconcile owner.settings.config.reconcileMode rows request.policy request.attempts
          false).2 := resolved_reconcile honest coherent shows held
  rw [reconciled.reconciled] at resolved
  exact resolved

end Results

end Service

end SnapshotQuery
