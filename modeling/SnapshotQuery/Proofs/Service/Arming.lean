import SnapshotQuery.Proofs.Service.Resting

/-!
# Arming the hook

The hook of a request is attached to its first attempts, as many as the limit of
its origin allows, and the request counts them.  The hook of an attempt does not
change any more once the attempt is launched.
-/

namespace SnapshotQuery

/-- The hook is attached to the attempt of a number. -/
def attaches (limit : Option Nat) (number : Nat) : Bool :=
  limit.all fun most => decide (number ≤ most)

/-- The number of attempts, of so many, that the hook is attached to. -/
def attached (limit : Option Nat) (attempts : Nat) : Nat :=
  limit.elim attempts fun most => min attempts most

/-- The attempt that is dispatched, and whether it carries a hook. -/
def Event.armed? : Event → Option (Nat × Bool)
  | attemptDispatched _ number hook => some (number, hook)
  | _ => none

namespace Service

/-- The attempts of a request that were dispatched, in order, and whether they carry a hook. -/
def dispatchesOf (service : Service) (wanted : RequestId) : List (Nat × Bool) :=
  (service.reportsOf wanted).filterMap Event.armed?

/-- The request is known, and its origin keeps the limit. -/
structure Limits (service : Service) (wanted : RequestId) (home : ContextId)
    (limit : Option Nat) : Prop where
  made : wanted.number ≤ service.requestsMade
  homeMade : home.number ≤ service.contextsMade
  limited : ∀ origin ∈ service.originSettings, origin.id = home →
    origin.config.simulation.maxBackgroundHookRuns = limit

/-- The hook is attached to the attempts of a request up to the limit, and to no others. -/
structure Armed (service : Service) (wanted : RequestId) (home : ContextId) (hook : Hook)
    (limit : Option Nat) (attempts : Nat) : Prop where
  dispatches : service.dispatchesOf wanted =
    (List.range' 1 attempts).map fun number => (number, attaches limit number)
  carried : ∀ attempt ∈ service.attempts, attempt.request = wanted →
    0 < attempt.number ∧ attempt.number ≤ attempts ∧
      attempt.hook = if attaches limit attempt.number then some hook else none
  owned : ∀ id request, service.Owns id request → request.id = wanted →
    id = home ∧ request.hook = some hook ∧ request.attempts = attempts ∧
      request.hookRuns = attached limit attempts
  ended : ∀ final ∈ service.ended, final.id = wanted →
    final.attempts = attempts ∧ final.hookRuns = attached limit attempts

variable {wanted : RequestId} {home : ContextId} {hook : Hook} {limit : Option Nat}
  {attempts : Nat} {schema : TableSchema} {permitted : Service → Move → Prop}
  {service before after moment : Service} {origin : OriginSettings} {request : Request}
  {move : Move} {attempt : Attempt}

section Arming

theorem armHook_of_attached (carried : request.hook = some hook)
    (counted : request.hookRuns = attached limit request.attempts) :
    { request with state := .running, attempts := request.attempts + 1 }.armHook limit =
      (request.started (attached limit (request.attempts + 1)),
        if attaches limit (request.attempts + 1) then some hook else none) := by
  simp only [Request.armHook, carried, counted, attaches, attached, Request.started]
  cases limit with
  | none => rfl
  | some most =>
      rcases Nat.lt_or_ge request.attempts most with below | used
      · have held : min request.attempts most = request.attempts := Nat.min_eq_left below.le
        simp [held, below.not_ge, Nat.succ_le_of_lt below]
      · have held : min request.attempts most = most := Nat.min_eq_right used
        have next : min (request.attempts + 1) most = most :=
          Nat.min_eq_right (Nat.le_succ_of_le used)
        have beyond : ¬ request.attempts + 1 ≤ most := Nat.not_le_of_lt (Nat.lt_succ_of_le used)
        simp only [held, next, beyond, Option.map_some, Option.getD_some, Option.all_some,
          Option.elim_some, Nat.le_refl, decide_true, decide_false, if_true, Bool.false_eq_true,
          if_false]

/-- A request at rest stays as it is armed. -/
theorem Armed.rested (armed : service.Armed wanted home hook limit attempts)
    (rests : Rests wanted service after) : after.Armed wanted home hook limit attempts where
  dispatches := by
    rw [dispatchesOf, rests.reportsOf]
    exact armed.dispatches
  carried attempt member about :=
    armed.carried attempt (rests.attempts attempt member about) about
  owned id request owned about := armed.owned id request (rests.owns id request owned about) about
  ended final member about := by
    rcases rests.ended final member about with old | ⟨id, request, owned, closes⟩
    · exact armed.ended final old about
    · obtain ⟨_, _, counted, runs⟩ := armed.owned id request owned (closes.id.symm.trans about)
      exact ⟨closes.attempts.trans counted, closes.hookRuns.trans runs⟩

/-- The hook is attached to the next attempt of a request while the limit allows it. -/
theorem Launches.armed (launches : service.Launches moment origin request after)
    (limited : origin.config.simulation.maxBackgroundHookRuns = limit)
    (dispatches : service.dispatchesOf request.id =
      (List.range' 1 request.attempts).map fun number => (number, attaches limit number))
    (carried : request.hook = some hook)
    (counted : request.hookRuns = attached limit request.attempts) :
    after.Armed request.id origin.id hook limit (request.attempts + 1) := by
  subst limited
  let limit := origin.config.simulation.maxBackgroundHookRuns
  obtain ⟨started, sent⟩ : (moment.launchAttempt origin request).2 =
        request.started (attached limit (request.attempts + 1)) ∧
      moment.Sent origin request (if attaches limit (request.attempts + 1) then some hook else none)
        (moment.launchAttempt origin request).1 :=
    sent_launchAttempt launches.idle (armHook_of_attached carried counted)
  have unused := (ne_of_not_mem_tickets launches.free).1
  refine Armed.rested (?_ : Armed _ _ _ _ _ _) (launches.closing request.id)
  rw [started]
  refine ⟨?_, ?_, ?_, ?_⟩
  · have notes : Notes request.id _ [] moment _ := sent.notes
    have reports : (moment.launchAttempt origin request).1.dispatchesOf request.id =
        moment.dispatchesOf request.id ++
          [(request.attempts + 1, attaches limit (request.attempts + 1))] := by
      rw [dispatchesOf, notes.reportsOf, if_pos rfl, List.filterMap_append]
      cases attaches limit (request.attempts + 1) <;> rfl
    have before : moment.dispatchesOf request.id = service.dispatchesOf request.id :=
      congrArg _ (launches.rests request.id).reportsOf
    have same : ((moment.launchAttempt origin request).1.insertLive origin.id
        (request.started (attached limit (request.attempts + 1)))).dispatchesOf request.id =
          (moment.launchAttempt origin request).1.dispatchesOf request.id := rfl
    rw [same, reports, before, dispatches, List.range'_concat, List.map_append, Nat.one_mul,
      Nat.add_comm 1]
    rfl
  · intro attempt member about
    rcases sent.attempts attempt member with old | rfl
    · exact absurd about.symm (unused attempt old)
    · exact ⟨Nat.succ_pos _, Nat.le_refl _, rfl⟩
  · intro id held owned about
    rcases owns_insertLive owned with old | ⟨rfl, rfl⟩
    · exact absurd about (launches.vacant.live id held (sent.owns_iff.mp old))
    · exact ⟨rfl, carried, rfl, rfl⟩
  · intro final member about
    have old : final ∈ moment.ended := sent.ended ▸ member
    exact absurd about (launches.vacant.ended final old)

end Arming

section Moves

/-- A step of a worker changes an attempt in its phase only, and what was found stays found. -/
theorem Advanced.phases (advanced : service.Advanced wanted after)
    (distinct : (service.attempts.map fun attempt => attempt.request).Nodup) :
    ∀ other ∈ after.attempts, ∃ old ∈ service.attempts,
      other = { old with phase := other.phase } ∧
        (other.phase.outcome? = none → old.phase.outcome? = none) := by
  have dropped : ∀ moment : Service, moment.attempts = service.attempts →
      ∀ other ∈ (moment.dropAttempt wanted).attempts, ∃ old ∈ service.attempts,
        other = { old with phase := other.phase } ∧
          (other.phase.outcome? = none → old.phase.outcome? = none) :=
    fun moment kept other member => ⟨other, kept ▸ (List.mem_filter.mp member).1, rfl, id⟩
  cases advanced with
  | waiting => exact fun other member => ⟨other, member, rfl, id⟩
  | @moved attempt moment phase member same passes =>
      subst same
      have kept := passes.interlude.attempts
      intro other among
      rcases of_mem_setPhase (kept ▸ distinct) (kept ▸ member) among with old | rfl
      · exact ⟨other, kept ▸ old, rfl, id⟩
      · refine ⟨attempt, member, rfl, fun unfound => ?_⟩
        cases passes with
        | admitted queued => exact queued ▸ rfl
        | abandoned admitted _ => exact admitted ▸ rfl
        | cleared admitted _ => exact admitted ▸ rfl
        | refused _ _ _ | finished _ _ | released _ | checked _ _ _ => exact absurd unfound nofun
  | skipped _ _ _ interlude => exact dropped _ interlude.attempts
  | orphaned _ _ _ interlude => exact dropped _ interlude.attempts
  | posted _ _ _ interlude _ => exact dropped _ interlude.attempts

theorem dispatchesOf_advance (service : Service) (request : RequestId) :
    (service.advance request).dispatchesOf wanted = service.dispatchesOf wanted := by
  by_cases apart : request ≠ wanted
  · exact congrArg _ (service.silent_advance apart).reportsOf
  obtain rfl := not_not.mp apart
  cases found : service.attempts.find? fun attempt => attempt.request = request with
  | none => rw [advance_of_idle found]
  | some attempt =>
      have none : (attempt.reports (service.isCancelled attempt.request)).filterMap
          Event.armed? = [] := by
        refine List.filterMap_eq_nil_iff.mpr fun event member => ?_
        rcases of_mem_reports member with ⟨_, rfl⟩ | ⟨outcome, _, rfl | rfl⟩ <;> rfl
      rw [dispatchesOf, (notes_advance found).reportsOf, List.filterMap_append, none,
        List.append_nil, dispatchesOf]

/-- A worker does not attach the hook to an attempt, nor take it away. -/
theorem Armed.advance (armed : service.Armed wanted home hook limit attempts)
    (tracked : service.Tracked) (request : RequestId) :
    (service.advance request).Armed wanted home hook limit attempts := by
  have advanced := service.advanced_advance request
  have within := advanced.within
  refine ⟨(dispatchesOf_advance service request).trans armed.dispatches, ?_,
    fun id held owned => armed.owned id held (within.owns id held owned),
    fun final member => armed.ended final (within.ended ▸ member)⟩
  intro attempt member about
  obtain ⟨old, oldMember, same, _⟩ :=
    advanced.phases tracked.distinct attempt member
  rw [same] at about ⊢
  exact armed.carried old oldMember about

theorem requestsMade_le (orderly : service.Orderly) (moved : service.after? move = some after) :
    service.requestsMade ≤ after.requestsMade := by
  rcases begins_of_after? orderly.ready moved with begins | ⟨request, rfl, advanced⟩
  · exact requestsMade_taking ▸ begins.requestsMade
  · exact advanced.within.requestsMade

/-- An origin keeps its limit, and no other one comes in its place. -/
theorem Limits.moved (limits : service.Limits wanted home limit) (orderly : service.Orderly)
    (moved : service.after? move = some after) : after.Limits wanted home limit where
  made := Nat.le_trans limits.made (requestsMade_le orderly moved)
  homeMade := Nat.le_trans limits.homeMade (contextsMade_le orderly moved)
  limited origin known here := by
    rcases originSettings_of_after? moved with
      same | ⟨id, config, pool, rfl, _, rfl⟩ | ⟨id, rfl, rfl⟩
    · exact limits.limited origin (same ▸ known) here
    · obtain ⟨owner, among, rfl⟩ := List.mem_map.mp known
      rcases List.mem_append.mp among with old | new
      · exact limits.limited _ (List.mem_map_of_mem old) here
      · obtain rfl := List.mem_singleton.mp new
        have made := limits.homeMade
        rw [← here] at made
        exact absurd made (Nat.not_succ_le_self _)
    · rw [originSettings_dropOrigin] at known
      obtain ⟨owner, among, rfl⟩ := List.mem_map.mp known
      exact limits.limited _ (List.mem_map_of_mem (List.mem_filter.mp among).1) here

/-- A move launches one more attempt of a request or none, and leaves it armed. -/
theorem Armed.moved (armed : service.Armed wanted home hook limit attempts)
    (limits : service.Limits wanted home limit) (orderly : service.Orderly)
    (tracked : service.Tracked) (moved : service.after? move = some after) :
    ∃ later, attempts ≤ later ∧ after.Armed wanted home hook limit later := by
  by_cases working : move = .advance wanted
  · subst working
    exact ⟨attempts, Nat.le_refl _, Option.some.inj moved ▸ armed.advance tracked wanted⟩
  rcases rests_or_launches_of_after? orderly tracked moved working with
    rests | ⟨moment, origin, request, launches, rfl⟩
  · exact ⟨attempts, Nat.le_refl _, armed.rested rests⟩
  rcases launches.source with ⟨held, owned, rfl⟩ | ⟨⟨query, rfl⟩, _⟩
  · obtain ⟨here, carried, counted, runs⟩ := armed.owned origin.id held owned rfl
    subst here
    have limited := limits.limited origin launches.known rfl
    exact ⟨attempts + 1, Nat.le_succ _, counted ▸ launches.armed limited
      (counted.symm ▸ armed.dispatches) carried (counted.symm ▸ runs)⟩
  · exact absurd limits.made (Nat.not_succ_le_self _)

end Moves

section Runs

/-- Nothing is heard of a request before it is made. -/
theorem unheard_of_reaches (run : (Service.new schema).Reaches permitted service)
    (unmade : service.requestsMade < wanted.number) :
    service.reportsOf wanted = [] ∧ service.hookRunsOf wanted = [] := by
  induction run with
  | start => exact ⟨rfl, rfl⟩
  | @move service after move earlier allowed moved inductionHypothesis =>
      have orderly := orderly_of_reaches earlier
      have tracked := tracked_of_reaches earlier
      have before := Nat.lt_of_le_of_lt (requestsMade_le orderly moved) unmade
      obtain ⟨reports, runs⟩ := inductionHypothesis before
      by_cases working : move = .advance wanted
      · subst working
        have unused : (service.attempts.find? fun attempt => attempt.request = wanted) = none := by
          refine List.find?_eq_none.mpr fun attempt member => ?_
          have made := tracked.ticketsMade _ (mem_tickets.mpr (.inl ⟨attempt, member, rfl⟩))
          have other : attempt.request ≠ wanted := fun same => by
            rw [same] at made
            exact Nat.not_lt_of_le made before
          simpa using other
        exact Option.some.inj moved ▸ (advance_of_idle unused).symm ▸ ⟨reports, runs⟩
      rcases rests_or_launches_of_after? orderly tracked moved working with
        rests | ⟨moment, origin, request, launches, rfl⟩
      · exact ⟨rests.reportsOf.trans reports, rests.hookRunsOf.trans runs⟩
      rcases launches.source with ⟨held, owned, rfl⟩ | ⟨⟨query, rfl⟩, made⟩
      · exact absurd before (Nat.not_lt_of_le (orderly.made origin.id held owned))
      · rw [made] at unmade
        exact absurd unmade (Nat.lt_irrefl _)

/-- The hook of a new request is armed for its first attempt. -/
theorem armed_submit {owner : Origin} {query : Query} {submitted : Service}
    (run : (Service.new schema).Reaches permitted service)
    (found : service.origin? owner.settings.id = some owner)
    (submits : service.after? (.submit owner.settings.id query) = some submitted)
    (carried : query.hook = some hook) :
    let limit := owner.settings.config.simulation.maxBackgroundHookRuns
    submitted.Armed ⟨service.requestsMade + 1⟩ owner.settings.id hook limit 1 ∧
      submitted.Limits ⟨service.requestsMade + 1⟩ owner.settings.id limit := by
  intro limit
  have orderly := orderly_of_reaches run
  obtain ⟨other, again, rfl⟩ := Option.map_eq_some_iff.mp submits
  obtain rfl := Option.some.inj (found.symm.trans again)
  obtain ⟨moment, launches⟩ := launches_submit orderly (tracked_of_reaches run) found query
  have unheard : service.reportsOf ⟨service.requestsMade + 1⟩ = [] :=
    (unheard_of_reaches run (Nat.lt_succ_self _)).1
  constructor
  · refine launches.armed rfl ?_ carried ?_
    · have nothing : service.dispatchesOf ⟨service.requestsMade + 1⟩ = [] := by
        rw [dispatchesOf, unheard]
        rfl
      exact nothing
    · cases limit <;> simp [attached, Query.request]
  · refine ⟨?_, ?_, ?_⟩
    · rcases launches.source with ⟨held, owned, same⟩ | ⟨_, made⟩
      · have old : held.id = ⟨service.requestsMade + 1⟩ := (congrArg Request.id same).symm
        exact absurd (orderly.made _ held owned) (old ▸ Nat.not_succ_le_self _)
      · exact Nat.le_of_eq made.symm
    · exact Nat.le_trans (orderly.contextsMade _ (mem_contextIds_of_origin? found))
        (contextsMade_le orderly submits)
    · intro origin known here
      rw [(service.exchange_submit owner.settings query).originSettings] at known
      obtain ⟨other, among, rfl⟩ := List.mem_map.mp known
      rw [eq_of_origin? orderly.contexts found among here]

end Runs

end Service

end SnapshotQuery
