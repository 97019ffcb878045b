import SnapshotQuery.Proofs.Service.Chronicle
import SnapshotQuery.Proofs.Service.Reports

/-!
# Requests at rest

In a move at most one request is launched.  All the others rest, but for the one
whose attempt is taken on by a worker: nothing of them is begun or reported.
-/

namespace SnapshotQuery

/-- The request has ended with these counts. -/
structure Request.Closes (final request : Request) : Prop where
  id : final.id = request.id
  attempts : final.attempts = request.attempts
  hookRuns : final.hookRuns = request.hookRuns

namespace Service

/-- Of a request nothing is begun or reported, no hook of it runs, and it ends as it was. -/
structure Rests (wanted : RequestId) (before after : Service) : Prop extends
    Silent wanted before after where
  attempts : ∀ attempt ∈ after.attempts, attempt.request = wanted → attempt ∈ before.attempts
  owns : ∀ id request, after.Owns id request → request.id = wanted → before.Owns id request
  holds : ∀ id completion, after.Holds id (.completed completion) →
    completion.request = wanted → before.Holds id (.completed completion)
  ended : ∀ final ∈ after.ended, final.id = wanted → final ∈ before.ended ∨
    ∃ id request, before.Owns id request ∧ final.Closes request

/-- The next attempt of a request has been announced, and it is accepted or refused. -/
inductive Sent (service : Service) (origin : OriginSettings) (request : Request)
    (hook : Option Hook) : Service → Prop
  | accepted {pool} : Sent service origin request hook
      ((service.announceAttempt request hook).accept pool (request.attempt origin hook))
  | refused {error} : Sent service origin request hook
      ((service.announceAttempt request hook).post origin.id
        (.completed (request.refusal origin error)))

/-- At a moment the next attempt of a request in hand is launched, or the first one of a new
request. -/
structure Launches (service moment : Service) (origin : OriginSettings) (request : Request)
    (after : Service) : Prop where
  rests : ∀ wanted, Rests wanted service moment
  known : origin ∈ service.originSettings
  idle : request.state = .pending ∨ request.state = .retrying
  free : request.id ∉ moment.tickets
  vacant : moment.Vacant request.id
  source : (∃ held, service.Owns origin.id held ∧ request = held.between) ∨
    (∃ query : Query, request = query.request ⟨service.requestsMade + 1⟩ origin.id) ∧
      after.requestsMade = service.requestsMade + 1
  closing : ∀ wanted, Rests wanted ((moment.launchAttempt origin request).1.insertLive origin.id
    (moment.launchAttempt origin request).2) after

variable {wanted : RequestId} {calls : List Observation} {service before after moment : Service}
  {origin : OriginSettings} {owner : Origin} {request final : Request} {message : Message}
  {rest : List Message} {id : ContextId} {move : Move} {hook : Option Hook} {query : Query}

section Resting

/-- With the same origins and attempts a request of which nothing is said rests. -/
theorem Silent.rests (silent : Silent wanted before after)
    (origins : after.origins = before.origins) (attempts : after.attempts = before.attempts)
    (ended : after.ended = before.ended) : Rests wanted before after := by
  refine ⟨silent, fun _ member _ => attempts ▸ member, fun id request owned _ => ?_,
    fun id completion held _ => ?_, fun _ member _ => .inl (ended ▸ member)⟩
  · rwa [Owns, ← origins]
  · rwa [Holds, ← origins]

theorem Rests.trans {first middle last : Service} (earlier : Rests wanted first middle)
    (later : Rests wanted middle last) : Rests wanted first last where
  toSilent := earlier.toSilent.trans later.toSilent
  attempts attempt member about :=
    earlier.attempts attempt (later.attempts attempt member about) about
  owns id request owned about := earlier.owns id request (later.owns id request owned about) about
  holds id completion held about :=
    earlier.holds id completion (later.holds id completion held about) about
  ended final member about := by
    rcases later.ended final member about with old | ⟨id, request, owned, closes⟩
    · exact earlier.ended final old about
    · exact .inr ⟨id, request, earlier.owns id request owned (closes.id ▸ about), closes⟩

theorem Lapsed.rests (lapsed : before.Lapsed after) (silent : Silent wanted before after)
    (ended : after.ended = before.ended) : Rests wanted before after where
  toSilent := silent
  attempts _ member _ := lapsed.attempts member
  owns id request owned _ := lapsed.owns id request owned
  holds id completion held _ := lapsed.holds id completion held
  ended _ member _ := .inl (ended ▸ member)

theorem Interlude.rests (interlude : Interlude calls before after)
    (silent : Silent wanted before after) : Rests wanted before after :=
  interlude.lapsed.rests silent interlude.ended

theorem rests_releaseAll (service : Service) (snapshots : List Snapshot) :
    Rests wanted service (service.releaseAll snapshots) :=
  (service.interlude_releaseAll snapshots).rests (service.silent_releaseAll snapshots)

/-- A request that was owned ends. -/
theorem Rests.retire (rests : Rests wanted service moment) (owned : service.Owns id request)
    (closes : final.Closes request) (terminal : final.state.isTerminal = true)
    (other : ContextId) : Rests wanted service (moment.putBack other final) := by
  have put : moment.putBack other final = { moment with ended := final :: moment.ended } :=
    if_pos terminal
  rw [put]
  refine ⟨rests.toSilent.trans (silent_of_log rfl rfl), rests.attempts, rests.owns, rests.holds,
    ?_⟩
  intro another member about
  rcases List.mem_cons.mp member with rfl | old
  · exact .inr ⟨id, request, owned, closes⟩
  · exact rests.ended another old about

end Resting

section Launching

theorem dispatch_cases (service : Service) (attempt : Attempt) :
    (∃ error, service.dispatch attempt = (service, .error error)) ∨
      ∃ pool, service.dispatch attempt = (service.accept pool attempt, .ok ()) := by
  unfold dispatch
  cases service.dispatcher? attempt.dispatcher with
  | none => exact .inl ⟨_, rfl⟩
  | some pool =>
      by_cases closed : pool.closed = true
      · exact .inl ⟨_, if_pos closed⟩
      · simp only [if_neg closed]
        by_cases flies : attempt.request ∈ pool.inFlight
        · exact .inl ⟨_, if_pos flies⟩
        · exact .inr ⟨pool, if_neg flies⟩

/-- An attempt is launched with the hook that is armed for it. -/
theorem sent_launchAttempt (idle : request.state = .pending ∨ request.state = .retrying)
    {runs : Nat}
    (armed : { request with state := .running, attempts := request.attempts + 1 }.armHook
      origin.config.simulation.maxBackgroundHookRuns = (request.started runs, hook)) :
    (service.launchAttempt origin request).2 = request.started runs ∧
      service.Sent origin request hook (service.launchAttempt origin request).1 := by
  have starts := Request.startAttempt_eq idle
  rcases dispatch_cases (service.announceAttempt request hook) (request.attempt origin hook) with
    ⟨error, refused⟩ | ⟨pool, accepted⟩
  · rw [launchAttempt_of_refused starts armed refused]
    exact ⟨rfl, .refused⟩
  · rw [launchAttempt_of_accepted starts armed accepted]
    exact ⟨rfl, .accepted⟩

theorem Sent.notes (sent : service.Sent origin request hook after) :
    Notes wanted (if request.id = wanted then
        [.attemptDispatched request.id (request.attempts + 1) hook.isSome] else []) []
      service after := by
  have announced : Notes wanted (if request.id = wanted then
      [.attemptDispatched request.id (request.attempts + 1) hook.isSome] else []) [] service
        (service.announceAttempt request hook) := notes_report service rfl
  cases sent with
  | accepted => exact announced.then (silent_of_log rfl rfl)
  | refused => exact announced.then (silent_of_log rfl rfl)

theorem Sent.attempts (sent : service.Sent origin request hook after) :
    ∀ attempt ∈ after.attempts, attempt ∈ service.attempts ∨
      attempt = request.attempt origin hook := by
  intro attempt member
  cases sent with
  | accepted => exact (List.mem_append.mp member).imp_right List.mem_singleton.mp
  | refused => exact .inl member

theorem Sent.owns_iff (sent : service.Sent origin request hook after) {held : Request} :
    after.Owns id held ↔ service.Owns id held := by
  cases sent with
  | accepted => exact Iff.rfl
  | refused => exact owns_post_iff

theorem Sent.holds (sent : service.Sent origin request hook after) {completion : Completion}
    (held : after.Holds id (.completed completion)) :
    service.Holds id (.completed completion) ∨ after.attempts = service.attempts ∧
      ∃ error, completion = request.refusal origin error := by
  cases sent with
  | accepted => exact .inl held
  | @refused error =>
      rcases holds_of_post held with old | ⟨_, new⟩
      · exact .inl old
      · exact .inr ⟨rfl, error, Message.completed.inj new⟩

theorem Sent.ended (sent : service.Sent origin request hook after) :
    after.ended = service.ended := by
  cases sent <;> rfl

/-- The launch of another request does not touch this one. -/
theorem Sent.rests (sent : service.Sent origin request hook after) (other : request.id ≠ wanted)
    (runs : Nat) :
    Rests wanted service (after.insertLive origin.id (request.started runs)) where
  toSilent := by
    have notes : Notes wanted _ _ service after := sent.notes
    rw [if_neg other] at notes
    exact notes.silent.trans (silent_of_log rfl rfl)
  attempts attempt member about := by
    rcases sent.attempts attempt member with old | rfl
    · exact old
    · exact absurd about other
  owns id held owned about := by
    rcases owns_insertLive owned with old | ⟨_, rfl⟩
    · exact sent.owns_iff.mp old
    · exact absurd about other
  holds id completion held about := by
    rcases sent.holds (holds_insertLive_iff.mp held) with old | ⟨_, error, rfl⟩
    · exact old
    · exact absurd about other
  ended final member _ := .inl (sent.ended ▸ member)

theorem rests_launched (idle : request.state = .pending ∨ request.state = .retrying)
    (other : request.id ≠ wanted) :
    Rests wanted service ((service.launchAttempt origin request).1.insertLive origin.id
      (service.launchAttempt origin request).2) := by
  obtain ⟨runs, same, _⟩ :=
    request.armHook_started origin.config.simulation.maxBackgroundHookRuns
  obtain ⟨started, sent⟩ : (service.launchAttempt origin request).2 = request.started runs ∧
      service.Sent origin request _ (service.launchAttempt origin request).1 :=
    sent_launchAttempt idle (Prod.ext same rfl)
  rw [started]
  exact sent.rests other runs

theorem Launches.sent (launches : service.Launches moment origin request after) :
    ∃ hook runs, (moment.launchAttempt origin request).2 = request.started runs ∧
      moment.Sent origin request hook (moment.launchAttempt origin request).1 := by
  obtain ⟨runs, same, _⟩ :=
    request.armHook_started origin.config.simulation.maxBackgroundHookRuns
  exact ⟨_, runs, sent_launchAttempt launches.idle (Prod.ext same rfl)⟩

/-- Of a request that is launched only the new attempt is under way. -/
theorem Launches.attempts (launches : service.Launches moment origin request after) :
    ∀ attempt ∈ after.attempts, attempt.request = request.id →
      attempt.number = request.attempts + 1 ∧ attempt.phase = .queued := by
  obtain ⟨hook, runs, _, sent⟩ := launches.sent
  intro attempt member about
  rcases sent.attempts attempt ((launches.closing request.id).attempts attempt member about) with
    old | rfl
  · exact absurd about.symm ((ne_of_not_mem_tickets launches.free).1 attempt old)
  · exact ⟨rfl, rfl⟩

theorem Launches.owns (launches : service.Launches moment origin request after) :
    ∀ id held, after.Owns id held → held.id = request.id →
      held.attempts = request.attempts + 1 := by
  obtain ⟨hook, runs, started, sent⟩ := launches.sent
  intro id held owned about
  rcases owns_insertLive ((launches.closing request.id).owns id held owned about) with
    old | ⟨_, rfl⟩
  · exact absurd about (launches.vacant.live id held (sent.owns_iff.mp old))
  · exact congrArg Request.attempts started

/-- A result of a request that is launched says that the attempt was refused. -/
theorem Launches.posted (launches : service.Launches moment origin request after) :
    ∀ id completion, after.Holds id (.completed completion) → completion.request = request.id →
      ∃ error, completion.result = .error error := by
  obtain ⟨hook, runs, _, sent⟩ := launches.sent
  intro id completion held about
  have before := (launches.closing request.id).holds id completion held about
  rcases sent.holds (holds_insertLive_iff.mp before) with old | ⟨_, error, rfl⟩
  · exact absurd about.symm ((ne_of_not_mem_tickets launches.free).2 id completion old)
  · exact ⟨error, rfl⟩

theorem Launches.notes (launches : service.Launches moment origin request after) :
    ∃ hook, Notes request.id [.attemptDispatched request.id (request.attempts + 1) hook] [] service
      after := by
  obtain ⟨hook, runs, _, sent⟩ := launches.sent
  have notes : Notes request.id _ [] moment _ := sent.notes
  rw [if_pos rfl] at notes
  have inserted : Silent request.id (moment.launchAttempt origin request).1
      ((moment.launchAttempt origin request).1.insertLive origin.id
        (moment.launchAttempt origin request).2) := silent_of_log rfl rfl
  exact ⟨_, (((launches.rests request.id).toSilent.then notes).then inserted).then
    (launches.closing request.id).toSilent⟩

end Launching

section Turns

theorem closes_endedAs (request : Request) (state : RequestState) :
    (request.endedAs state).Closes request :=
  ⟨rfl, rfl, rfl⟩

theorem closes_abandoned (request : Request) : request.abandoned.Closes request :=
  ⟨rfl, rfl, rfl⟩

theorem closes_of_awaiting (closes : final.Closes request.awaiting) : final.Closes request :=
  ⟨closes.id, closes.attempts, closes.hookRuns⟩

theorem rests_deliverError (service : Service) (going : request.state.isTerminal = false)
    (ready : request.onError.isSome = true) (error : QueryError) :
    Rests wanted service (service.deliverError origin request error).1 :=
  (service.interlude_deliverError origin going ready error).2.rests
    (silent_deliverError _ _ _ _)

theorem rests_endCancelled (service : Service) (going : request.state.isTerminal = false) :
    Rests wanted service (service.endCancelled origin request).1 := by
  refine (lapsed_endCancelled going).rests (silent_endCancelled _ _ _) ?_
  rw [endCancelled_eq going]
  exact interlude_recordCancelled.ended

theorem Reconciled.rests {decided : Service} {rows : RowSet} {outcome : Reconciliation} {set : Bool}
    (reconciled : service.Reconciled origin request rows decided outcome set) :
    Rests wanted service decided := by
  have silent : Silent wanted service _ := Silent.kept.reconcile service
    origin.config.reconcileMode rows request.policy request.attempts false
  rw [reconciled.reconciled] at silent
  exact reconciled.interlude.rests silent

/-- Unless its rows are computed again a request ends when a decision is acted on. -/
theorem rests_conclude (rests : Rests wanted service moment) (owned : service.Owns id request)
    (ready : request.Ready) {outcome : Reconciliation}
    (ends : ∀ snapshot current, outcome ≠ .retry snapshot current) :
    Rests wanted service ((moment.conclude origin request.awaiting outcome).1.putBack origin.id
      (moment.conclude origin request.awaiting outcome).2) := by
  have going : request.awaiting.state.isTerminal = false := rfl
  have failed : ∀ (decided : Service) error, Rests wanted service decided →
      Rests wanted service ((decided.deliverError origin request.awaiting error).1.putBack origin.id
        (decided.deliverError origin request.awaiting error).2) := by
    intro decided error rested
    obtain ⟨final, _⟩ :=
      decided.interlude_deliverError origin going ready.onError error
    rw [final]
    exact (rested.trans (rests_deliverError decided going ready.onError error)).retire owned
      (closes_of_awaiting (closes_endedAs _ .failed)) rfl _
  have succeeded : ∀ (decided : Service) view, Rests wanted service decided →
      Rests wanted service ((decided.deliverSuccess origin request.awaiting view).1.putBack
        origin.id (decided.deliverSuccess origin request.awaiting view).2) := by
    intro decided view rested
    obtain ⟨final, interlude⟩ := decided.interlude_deliverSuccess origin ready.onSuccess view
    rw [final]
    exact (rested.trans (interlude.rests (silent_deliverSuccess _ _ _ _))).retire owned
      (closes_of_awaiting (closes_endedAs _ .converged)) rfl _
  cases outcome with
  | converged view => exact succeeded moment view rests
  | rederived view =>
      exact succeeded _ view (rests.trans ((interlude_announced (.rederived view)).rests
        (silent_announced _ _ _ _)))
  | retry snapshot current => exact absurd rfl (ends snapshot current)
  | giveUp error =>
      cases error with
      | unreachableVersion attempts snapshot current =>
          exact failed _ _ (rests.trans ((interlude_reportMismatch snapshot current).rests
            (silent_reportMismatch _ _ _ _ _)))
      | store _ | handoverMismatch _ _ | contextMismatch _ _ | invalidTransition _ _ _
      | alreadyInFlight _ | dispatcherClosed | noRuntime _ | workerPanicked _ | config _ =>
          exact failed moment _ rests

/-- After a turn all requests rest, or one is launched again because its rows were stale. -/
theorem Processed.rests_or_launches (processed : service.Processed owner message rest after)
    (orderly : service.Orderly) (tracked : service.Tracked) :
    (∀ wanted, Rests wanted service after) ∨
      ∃ moment request, service.Launches moment owner.settings request after := by
  obtain ⟨found, oldest, settled⟩ := processed
  have contexts := orderly.contexts
  let left := service.leaveMessages owner.settings.id rest
  have leaving : ∀ {wanted}, Rests wanted service left :=
    (reduced_leaveMessages contexts found oldest).lapsed.rests (silent_of_log rfl rfl) rfl
  have taken : ∀ {wanted} removed,
      Rests wanted service (left.removeLive owner.settings.id removed) :=
    fun removed => leaving.trans ((lapsed_taken _ _ removed).rests (silent_of_log rfl rfl) rfl)
  have owned : ∀ request, left.liveRequest? owner.settings.id message.request = some request →
      service.Owns owner.settings.id request :=
    fun request live => owns_leaveMessages_iff.mp (owns_of_liveRequest? live).1
  have dropped : ∀ moment : Service, (∀ wanted, Rests wanted service moment) →
      ∀ wanted, Rests wanted service (moment.releaseAll message.snapshot?.toList) :=
    fun moment rests wanted => (rests wanted).trans (rests_releaseAll moment _)
  cases settled with
  | dropped _ =>
      exact .inl (dropped _ fun wanted => leaving.trans ((interlude_dropStale _ _).rests
        (silent_dropStale _ _ _ _)))
  | @cancelled request live ready =>
      refine .inl (dropped _ fun wanted => ?_)
      exact ((taken request.id).trans (rests_endCancelled _ ready.going)).retire
        (owned request live) (closes_abandoned request) rfl _
  | @overtaken completion request rows decided outcome received result reconciled =>
      refine .inl (dropped _ fun wanted => ?_)
      have going : request.awaiting.state.isTerminal = false := rfl
      have ended : Rests wanted decided (decided.endCancelled owner.settings request.awaiting).1 :=
        rests_endCancelled decided going
      have rests := (((taken request.id).trans reconciled.rests).trans ended).trans
        (rests_releaseAll _ outcome.snapshots)
      exact rests.retire (owned request received.found) (closes_of_awaiting (closes_abandoned _))
        rfl _
  | @failed completion request error received result =>
      refine .inl (dropped _ fun wanted => ?_)
      exact ((taken request.id).trans (rests_deliverError _ received.ready.going
        received.ready.onError error)).retire (owned request received.found)
          (closes_endedAs request .failed) rfl _
  | @concluded completion request rows decided outcome received result reconciled =>
      have rests : ∀ {wanted}, Rests wanted service decided :=
        (taken request.id).trans reconciled.rests
      by_cases retried : ∃ snapshot current, outcome = .retry snapshot current
      · obtain ⟨snapshot, current, rfl⟩ := retried
        let reported := decided.reportMismatch owner.settings request.awaiting snapshot current
        let counted := reported.count owner.settings.registry .retries
        let moment := counted.report (.retrying request.id (request.attempts + 1))
        have interlude : Interlude [] decided moment :=
          ((interlude_reportMismatch snapshot current).then (interlude_count _ _ _)).then
            (interlude_report _ _)
        have silent : ∀ wanted, Silent wanted decided moment := by
          intro wanted
          have mismatch : Silent wanted decided reported := silent_reportMismatch _ _ _ _ _
          have count : Silent wanted reported counted := silent_of_log rfl rfl
          exact (mismatch.trans count).trans (silent_report _ rfl)
        have launch : moment.Launch owner.settings request.between
          (moment.launchAttempt owner.settings request.between) := launch_launchAttempt (.inr rfl)
        have within : left.Within service := within_leaveMessages rest
        have vacant := (orderly.within within).vacant_removeLive
          (owns_leaveMessages_iff.mpr (owned request received.found))
        refine .inr ⟨moment, request.between,
          fun wanted => rests.trans (interlude.rests (silent wanted)),
          mem_originSettings_of_origin? found, .inr rfl, ?_,
          vacant.within (reconciled.interlude.then interlude).within,
          .inl ⟨request, owned request received.found, rfl⟩, ?_⟩
        · have about := (owns_of_liveRequest? received.found).2
          obtain rfl := received.posted
          rw [(reconciled.interlude.then interlude).tickets, tickets_removeLive]
          exact about ▸ tracked.free contexts found oldest
        · rw [← launch.putBack]
          exact fun wanted => rests_releaseAll _ _
      · refine .inl (dropped _ fun wanted => rests_conclude rests (owned request received.found)
          received.ready ?_)
        exact fun snapshot current same => retried ⟨snapshot, current, same⟩

end Turns

section Moves

/-- A step of a worker does nothing to the requests of others. -/
theorem rests_advance {other : RequestId} (apart : other ≠ wanted) :
    Rests wanted service (service.advance other) := by
  have advanced := service.advanced_advance other
  have silent := service.silent_advance apart
  generalize service.advance other = after at advanced silent
  have dropped : ∀ moment : Service, Interlude [] service moment →
      Silent wanted service (moment.dropAttempt other) →
        Rests wanted service (moment.dropAttempt other) :=
    fun moment interlude silent =>
      (interlude.lapsed.trans (reduced_dropAttempt other).lapsed).rests silent interlude.ended
  cases advanced with
  | waiting => exact silent.rests rfl rfl rfl
  | @moved attempt moment phase member same passes =>
      have interlude := passes.interlude
      refine ⟨silent, ?_, fun _ _ owned _ => interlude.owns_iff.mp owned,
        fun _ _ held _ => interlude.holds_completed_iff.mp held,
        fun final member _ => .inl (interlude.ended ▸ member)⟩
      intro changed among about
      obtain ⟨old, oldMember, rfl⟩ := List.mem_map.mp among
      split at about
      · rename_i here
        exact absurd (here.symm.trans about) apart
      · rename_i away
        rw [if_neg away]
        exact interlude.attempts ▸ oldMember
  | skipped _ _ _ interlude => exact dropped _ interlude silent
  | orphaned _ _ _ interlude => exact dropped _ interlude silent
  | @posted attempt outcome moment owner member same checked interlude found =>
      refine ⟨silent, fun changed among _ => interlude.attempts ▸ (List.mem_filter.mp among).1,
        fun _ _ owned _ => interlude.owns_iff.mp (owns_post_iff.mp owned), ?_,
        fun final member _ => .inl (interlude.ended ▸ member)⟩
      intro id completion held about
      rcases holds_of_post held with old | ⟨_, new⟩
      · exact interlude.holds_completed_iff.mp old
      · obtain rfl := Message.completed.inj new
        exact absurd (same.symm.trans about) apart

/-- The first attempt of a new request is launched. -/
theorem launches_submit (orderly : service.Orderly) (tracked : service.Tracked)
    (found : service.origin? owner.settings.id = some owner) (query : Query) :
    ∃ moment, service.Launches moment owner.settings
      (query.request ⟨service.requestsMade + 1⟩ owner.settings.id)
      (service.submit owner.settings query).1 := by
  let request := query.request ⟨service.requestsMade + 1⟩ owner.settings.id
  let counted := service.countRequest.count owner.settings.registry .submitted
  let moment := counted.report (.submitted request.id owner.settings.id query.policy)
  have interlude : Interlude [] service.countRequest moment :=
    (interlude_count _ _ _).then (interlude_report _ _)
  have launch : moment.Launch owner.settings request
    (moment.launchAttempt owner.settings request) := launch_launchAttempt (.inl rfl)
  have submitted : (service.submit owner.settings query).1 =
      (((moment.launchAttempt owner.settings request).1.putBack owner.settings.id
        (moment.launchAttempt owner.settings request).2).keepHandle query.label
          ⟨request.id, owner.settings.id⟩) := rfl
  refine ⟨moment, ?_, mem_originSettings_of_origin? found, .inl rfl, ?_,
    orderly.vacant_next.within interlude.within, .inr ⟨⟨query, rfl⟩, ?_⟩, ?_⟩
  · intro wanted
    have count : Silent wanted service counted := silent_of_log rfl rfl
    have silent : Silent wanted service moment := count.trans (silent_report _ rfl)
    exact silent.rests rfl rfl rfl
  · rw [interlude.tickets]
    exact fun member => Nat.not_succ_le_self _ (tracked.ticketsMade _ member)
  · have launched : moment.Launched owner.settings request _ := launched_launchAttempt (.inl rfl)
    rw [submitted, launch.putBack]
    exact launched.requestsMade
  · rw [submitted, launch.putBack]
    exact fun wanted => Silent.rests (silent_of_log rfl rfl) rfl rfl rfl

/-- Other requests rest while one is launched. -/
theorem Launches.rests_or_launches (launches : service.Launches moment origin request after)
    (wanted : RequestId) : Rests wanted service after ∨ ∃ moment origin request,
      service.Launches moment origin request after ∧ request.id = wanted := by
  by_cases same : request.id = wanted
  · exact .inr ⟨moment, origin, request, launches, same⟩
  · exact .inl (((launches.rests wanted).trans (rests_launched launches.idle same)).trans
      (launches.closing wanted))

/-- A request rests in a move unless a worker takes its attempt on, or the next one is launched. -/
theorem rests_or_launches_of_after? (orderly : service.Orderly) (tracked : service.Tracked)
    (moved : service.after? move = some after) (working : move ≠ .advance wanted) :
    Rests wanted service after ∨ ∃ moment origin request,
      service.Launches moment origin request after ∧ request.id = wanted := by
  by_cases processing : ∃ id, move = .process id
  · obtain ⟨id, rfl⟩ := processing
    obtain ⟨owner, message, rest, rfl, processed⟩ := exists_processed orderly moved
    rcases processed.rests_or_launches orderly tracked with rests | ⟨moment, request, launches⟩
    · exact .inl (rests wanted)
    · exact launches.rests_or_launches wanted
  by_cases submitting : ∃ id query, move = .submit id query
  · obtain ⟨id, query, rfl⟩ := submitting
    obtain ⟨owner, found, rfl⟩ := Option.map_eq_some_iff.mp moved
    obtain rfl := origin?_id found
    obtain ⟨moment, launches⟩ := launches_submit orderly tracked found query
    exact launches.rests_or_launches wanted
  have silent : Silent wanted service after := silent_of_after? moved working
    (fun id same => processing ⟨id, same⟩) fun id query same => submitting ⟨id, query, same⟩
  left
  cases moved_of_after? orderly.ready moved with
  | interlude interlude => exact interlude.rests silent
  | interposed => exact silent.rests rfl rfl rfl
  | woken _ => exact (reduced_wake _).lapsed.rests silent rfl
  | originAdded => exact (reduced_addOrigin _ _).lapsed.rests silent rfl
  | originDropped interlude =>
      exact (reduced_withoutOrigin.lapsed.trans interlude.lapsed).rests silent interlude.ended
  | @advanced other after _ =>
      have apart : other ≠ wanted := fun same => working (congrArg Move.advance same)
      exact Option.some.inj moved ▸ rests_advance apart
  | processed _ _ _ => exact absurd ⟨_, rfl⟩ processing
  | submitted _ _ _ => exact absurd ⟨_, _, rfl⟩ submitting

end Moves

end Service

end SnapshotQuery
