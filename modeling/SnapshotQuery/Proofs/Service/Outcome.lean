import SnapshotQuery.Proofs.Service.Identity

/-!
# One outcome for each request

A request ends once, with a call of one callback or of none, and the state it
ends in tells which.  The call is made while its origin handles the result of its
running attempt, and never after a cancellation.
-/

namespace SnapshotQuery

/-- The state in which a call of a callback leaves the request. -/
def Observation.callOf? (request : RequestId) : Observation → Option RequestState
  | succeeded _ called _ => if called = request then some .converged else none
  | failed _ called _ => if called = request then some .failed else none
  | acted _ | hookRan .. | panicked .. => none

/-- The call of a callback that goes with the last state of a request. -/
def Request.callOf? (request : RequestId) (final : Request) : Option RequestState :=
  if final.id = request ∧ (final.state = .converged ∨ final.state = .failed) then some final.state
  else none

namespace Service

/-- The calls of callbacks of a request, latest first. -/
def callsOf (service : Service) (request : RequestId) : List RequestState :=
  service.observations.filterMap (Observation.callOf? request)

variable {calls : List Observation} {service before after : Service} {id : ContextId}
  {request : Request} {origin : OriginSettings} {message : Message} {state : RequestState}

theorem callsOf_eq (service : Service) (wanted : RequestId) :
    service.callsOf wanted = service.callbacks.filterMap (Observation.callOf? wanted) := by
  unfold callsOf callbacks
  rw [List.filterMap_filter]
  congr 1
  funext observation
  cases observation <;> rfl

theorem Interlude.callsOf (interlude : Interlude calls before after) (wanted : RequestId) :
    after.callsOf wanted =
      calls.filterMap (Observation.callOf? wanted) ++ before.callsOf wanted := by
  rw [callsOf_eq, callsOf_eq, interlude.callbacks, List.filterMap_append]

/-- The calls of callbacks are those that go with the requests that have ended. -/
structure Accounted (service : Service) : Prop where
  terminal : ∀ final ∈ service.ended, final.state.isTerminal = true
  calls : ∀ wanted, service.callsOf wanted = service.ended.filterMap (Request.callOf? wanted)

theorem Ending.terminal (ending : service.Ending origin message request calls state) :
    state.isTerminal = true := by
  cases ending <;> rfl

/-- The calls of an ending go with the request that ends. -/
theorem Ending.called {final : Request} (same : final.id = request.id)
    (ending : service.Ending origin message request calls final.state) (wanted : RequestId) :
    calls.filterMap (Observation.callOf? wanted) = (final.callOf? wanted).toList := by
  generalize ended : final.state = state at ending
  cases ending <;>
    by_cases here : request.id = wanted <;>
      simp [Observation.callOf?, Request.callOf?, same, ended, here]

/-- Only the result of the running attempt leads to a call of a callback. -/
theorem Ending.accepted (ending : service.Ending origin message request calls state)
    {wanted : RequestId} (called : calls.filterMap (Observation.callOf? wanted) ≠ []) :
    request.id = wanted ∧ ∃ completion, message = .completed completion ∧
      service.Accepted origin completion request := by
  by_cases here : request.id = wanted
  · refine ⟨here, ?_⟩
    cases ending with
    | converged posted accepted _ _ => exact ⟨_, posted, accepted⟩
    | failed posted accepted => exact ⟨_, posted, accepted⟩
    | cancelled => exact absurd rfl called
  · cases ending <;> simp [Observation.callOf?, here] at called

theorem Accounted.interlude (accounted : before.Accounted) (interlude : Interlude [] before after) :
    after.Accounted where
  terminal := interlude.ended ▸ accounted.terminal
  calls wanted := by
    rw [interlude.callsOf, interlude.ended, accounted.calls]
    rfl

theorem Accounted.of_same (accounted : before.Accounted) (ended : after.ended = before.ended)
    (observations : after.observations = before.observations) : after.Accounted where
  terminal := ended ▸ accounted.terminal
  calls wanted := by
    rw [ended, ← accounted.calls]
    simp only [callsOf, observations]

theorem Accounted.launched (accounted : service.Accounted) {result : Service × Request}
    (launched : service.Launched origin request result) : result.1.Accounted := by
  cases launched with
  | accepted interlude _ _ _ => exact (accounted.interlude interlude).of_same rfl rfl
  | refused interlude _ _ => exact (accounted.interlude interlude).of_same rfl rfl

theorem Accounted.handled (accounted : service.Accounted)
    (handled : service.Handled origin message after) : after.Accounted := by
  cases handled with
  | dropped _ interlude => exact accounted.interlude interlude
  | @ended request final calls moment marks _ _ same ending interlude _ _ closing =>
      have ended : moment.ended = service.ended := interlude.ended
      refine Accounted.interlude ⟨?_, ?_⟩ closing
      · intro other member
        rcases List.mem_cons.mp member with rfl | old
        · exact ending.terminal
        · exact accounted.terminal other (ended ▸ old)
      · intro wanted
        have called := interlude.callsOf wanted
        rw [ending.called same wanted] at called
        have earlier : (service.removeLive origin.id request.id).callsOf wanted =
            moment.ended.filterMap (Request.callOf? wanted) := by
          rw [ended]
          exact accounted.calls wanted
        rw [earlier] at called
        exact called.trans (by cases h : final.callOf? wanted <;> simp [retire, h])
  | @relaunched request _ moment result _ _ _ _ interlude _ launched closing =>
      have taken : (service.removeLive origin.id request.id).Accounted := accounted.of_same rfl rfl
      have inserted : (result.1.insertLive origin.id result.2).Accounted :=
        ((taken.interlude interlude).launched launched).of_same rfl rfl
      exact inserted.interlude closing

theorem Accounted.advanced (accounted : service.Accounted) {wanted : RequestId}
    (advanced : service.Advanced wanted after) : after.Accounted := by
  cases advanced with
  | waiting => exact accounted
  | moved _ _ passes => exact (accounted.interlude passes.interlude).of_same rfl rfl
  | skipped _ _ _ interlude => exact (accounted.interlude interlude).of_same rfl rfl
  | orphaned _ _ _ interlude => exact (accounted.interlude interlude).of_same rfl rfl
  | posted _ _ _ interlude _ => exact (accounted.interlude interlude).of_same rfl rfl

theorem Accounted.moved (accounted : service.Accounted) {move : Move}
    (moved : service.Moved move after) : after.Accounted := by
  cases moved with
  | interlude interlude => exact accounted.interlude interlude
  | interposed => exact accounted.of_same rfl rfl
  | woken _ => exact accounted.of_same rfl rfl
  | advanced advanced => exact accounted.advanced advanced
  | @processed id _ _ rest _ _ _ handled =>
      have left : (service.leaveMessages id rest).Accounted := accounted.of_same rfl rfl
      exact left.handled handled
  | submitted _ interlude launched =>
      have counted : service.countRequest.Accounted := accounted.of_same rfl rfl
      exact ((counted.interlude interlude).launched launched).of_same rfl rfl
  | originAdded => exact accounted.of_same rfl rfl
  | @originDropped id _ interlude =>
      have dropped : (service.withoutOrigin id).Accounted := accounted.of_same rfl rfl
      exact dropped.interlude interlude

theorem accounted_of_reaches {permitted : Service → Move → Prop} {schema : TableSchema}
    (run : (Service.new schema).Reaches permitted service) : service.Accounted := by
  induction run with
  | start => exact ⟨by simp [new], fun _ => rfl⟩
  | move move earlier _ moved inductionHypothesis =>
      exact inductionHypothesis.moved (moved_of_after? (orderly_of_reaches earlier).ready moved)

/-- A request whose id is used once has the calls that go with its last state. -/
theorem filterMap_callOf?_of_mem {ended : List Request}
    (distinct : (ended.map fun final => final.id).Nodup) {final : Request}
    (member : final ∈ ended) :
    ended.filterMap (Request.callOf? final.id) = (final.callOf? final.id).toList := by
  induction ended with
  | nil => exact absurd member List.not_mem_nil
  | cons first rest inductionHypothesis =>
      obtain ⟨fresh, distinct⟩ := List.nodup_cons.mp distinct
      rcases List.mem_cons.mp member with rfl | old
      · have others : rest.filterMap (Request.callOf? final.id) = [] := by
          rw [List.filterMap_eq_nil_iff]
          intro other held
          have elsewhere : other.id ≠ final.id := by
            intro same
            exact fresh (List.mem_map.mpr ⟨other, held, same⟩)
          simp [Request.callOf?, elsewhere]
        cases called : final.callOf? final.id <;> simp [called, others]
      · have elsewhere : first.id ≠ final.id := by
          intro same
          exact fresh (List.mem_map.mpr ⟨final, old, same.symm⟩)
        have uncalled : first.callOf? final.id = none := by simp [Request.callOf?, elsewhere]
        rw [List.filterMap_cons_none uncalled, inductionHypothesis distinct old]

theorem callsOf_final (orderly : service.Orderly) (accounted : service.Accounted)
    {final : Request} (member : final ∈ service.ended) :
    service.callsOf final.id = (final.callOf? final.id).toList := by
  rw [accounted.calls, filterMap_callOf?_of_mem orderly.ended member]

theorem callsOf_of_no_final (accounted : service.Accounted) {wanted : RequestId}
    (going : ∀ final ∈ service.ended, final.id ≠ wanted) : service.callsOf wanted = [] := by
  rw [accounted.calls, List.filterMap_eq_nil_iff]
  intro final member
  simp [Request.callOf?, going final member]

/-- The calls of a request and the state it ends in say the same. -/
structure Matches (service : Service) (final : Request) : Prop where
  terminal : final.state.isTerminal = true
  converged : final.state = .converged ↔ .converged ∈ service.callsOf final.id
  failed : final.state = .failed ↔ .failed ∈ service.callsOf final.id
  cancelled : final.state = .cancelled ↔ service.callsOf final.id = []

theorem matches_of_mem (orderly : service.Orderly) (accounted : service.Accounted)
    {final : Request} (member : final ∈ service.ended) : service.Matches final := by
  have terminal := accounted.terminal final member
  have calls := callsOf_final orderly accounted member
  constructor <;> cases state : final.state <;>
    simp_all [Request.callOf?, RequestState.isTerminal]

/-- The oldest message of an origin is the result of the running attempt of a request it owns,
whose token is not set. -/
structure Completes (service : Service) (id : ContextId) (request : Request) : Prop where
  owned : service.Owns id request
  unset : request.id ∉ service.cancelled
  oldest : ∃ owner completion rest, service.origin? id = some owner ∧
    owner.mailbox = .completed completion :: rest ∧ completion.request = request.id ∧
      completion.origin = id ∧ completion.attempt = request.attempts

/-- A callback is called only while its origin handles the result of the running attempt. -/
theorem completes_of_called {move : Move} (moved : service.Moved move after)
    {wanted : RequestId} (called : after.callsOf wanted ≠ service.callsOf wanted) :
    ∃ id request, move = .process id ∧ request.id = wanted ∧ service.Completes id request := by
  have new : after.callbacks ≠ service.callbacks := by
    intro same
    rw [callsOf_eq, callsOf_eq, same] at called
    exact called rfl
  obtain ⟨owner, message, rest, request, calls, state, rfl, found, oldest, live, ending, made⟩ :=
    ending_of_called moved new
  have owned := owns_leaveMessages_iff.mp (owns_of_liveRequest? live).1
  have about := (owns_of_liveRequest? live).2
  have added : calls.filterMap (Observation.callOf? wanted) ≠ [] := by
    intro nothing
    rw [callsOf_eq, callsOf_eq, made, List.filterMap_append, nothing] at called
    exact called rfl
  obtain ⟨here, completion, rfl, accepted⟩ := ending.accepted added
  have unset : request.id ∉ service.cancelled := of_decide_eq_false accepted.unset
  exact ⟨_, request, rfl, here, owned, unset, owner, completion, rest, found, oldest,
    about.symm, accepted.own, accepted.current⟩

/-- A request that no longer is owned has ended, unless its origin has gone. -/
theorem ended_of_left (orderly : service.Orderly) {move : Move}
    (moved : service.Moved move after) (owned : service.Owns id request)
    (left : ∀ held, after.Owns id held → held.id ≠ request.id) :
    move = .dropOrigin id ∨ ∃ final ∈ after.ended, final.id = request.id := by
  have kept : after.Owns id request → False := fun owned => left request owned rfl
  cases moved with
  | interlude interlude => exact (kept (interlude.owns_iff.mpr owned)).elim
  | interposed => exact (kept owned).elim
  | woken _ => exact (kept (owns_post_iff.mpr owned)).elim
  | advanced advanced => exact (kept (advanced.owns_iff.mpr owned)).elim
  | submitted _ interlude launched =>
      have before := launched.owns_iff.mpr (interlude.owns_iff.mpr owned)
      exact (kept (before.insertLive _)).elim
  | originAdded => exact (kept (owns_addOrigin_iff.mpr owned)).elim
  | @originDropped other _ interlude =>
      by_cases here : id = other
      · exact .inl (here ▸ rfl)
      · have stays := owns_withoutOrigin_iff.mpr ⟨owned, here⟩
        exact (kept (interlude.owns_iff.mpr stays)).elim
  | @processed other owner message rest _ found _ handled =>
      have before : (service.leaveMessages other rest).Owns id request :=
        owns_leaveMessages_iff.mpr owned
      have orderlyLeft : (service.leaveMessages other rest).Orderly :=
        orderly.within (within_leaveMessages rest)
      cases handled with
      | dropped _ interlude => exact (kept (interlude.owns_iff.mpr before)).elim
      | @ended ended final _ moment _ _ live same _ interlude _ _ closing =>
          by_cases here : request.id = ended.id
          · refine .inr ⟨final, ?_, same.trans here.symm⟩
            rw [closing.ended]
            exact List.mem_cons_self
          · have stays := interlude.owns_iff.mpr (before.removeLive here)
            exact (kept (closing.owns_iff.mpr stays)).elim
      | @relaunched retried _ moment result _ live _ _ interlude _ launched closing =>
          have retriedOwned := (owns_of_liveRequest? live).1
          by_cases here : request.id = retried.id
          · -- The request is back, with one more attempt.
            obtain rfl := orderlyLeft.unique _ _ _ _ retriedOwned before here
            obtain rfl := (orderlyLeft.own _ _ retriedOwned).symm.trans (orderlyLeft.own _ _ before)
            have known : owner.settings.id ∈ result.1.contextIds := by
              rw [launched.contextIds, interlude.contextIds, contextIds_removeLive]
              exact before.mem_contextIds
            have back := closing.owns_iff.mpr (owns_insertLive_self known result.2)
            exact absurd launched.starts.id (left result.2 back)
          · have stays := interlude.owns_iff.mpr (before.removeLive here)
            have launchedOwned := launched.owns_iff.mpr stays
            exact (kept (closing.owns_iff.mpr (launchedOwned.insertLive result.2))).elim

/-- Each request has one outcome.  At most one callback of it is called, and only while its origin
handles the result of its running attempt, with the token not set before.  It leaves its origin as
converged, failed or cancelled: with one call for success, one for an error, or none. -/
theorem one_outcome {permitted : Service → Move → Prop} {schema : TableSchema}
    (run : (Service.new schema).Reaches permitted service) :
    (∀ wanted, (service.callsOf wanted).length ≤ 1) ∧
    (∀ final ∈ service.ended, service.Matches final) ∧
    ∀ move after, service.after? move = some after →
      (∀ wanted, after.callsOf wanted ≠ service.callsOf wanted →
        ∃ id request, move = .process id ∧ request.id = wanted ∧ service.Completes id request) ∧
      (∀ id request, service.Owns id request →
        (∀ held, after.Owns id held → held.id ≠ request.id) →
        move = .dropOrigin id ∨ ∃ final ∈ after.ended, final.id = request.id) := by
  have orderly := orderly_of_reaches run
  have accounted := accounted_of_reaches run
  refine ⟨?_, fun final => matches_of_mem orderly accounted, ?_⟩
  · intro wanted
    by_cases ended : ∃ final ∈ service.ended, final.id = wanted
    · obtain ⟨final, member, rfl⟩ := ended
      rw [callsOf_final orderly accounted member]
      exact Option.length_toList_le
    · rw [callsOf_of_no_final accounted fun final member same => ended ⟨final, member, same⟩]
      exact Nat.zero_le 1
  · intro move after moving
    have moved := moved_of_after? orderly.ready moving
    exact ⟨fun wanted => completes_of_called moved,
      fun id request => ended_of_left orderly moved⟩

/-- The cancelled one of two queries ends without a call, and the other one with a single call
when its origin handles its result. -/
theorem one_outcome_of_two : ∃ between last,
    (Service.new itemsSchema).afterAll? (twoQueries ++ [.process ⟨1⟩]) = some between ∧
    between.after? (.process ⟨1⟩) = some last ∧
    last.callsOf ⟨1⟩ = [.converged] ∧ last.callsOf ⟨2⟩ = [] ∧
    (∃ request, request.id = ⟨1⟩ ∧ between.Completes ⟨1⟩ request) ∧
    (last.callsOf ⟨1⟩).length ≤ 1 ∧ ∀ final ∈ last.ended, last.Matches final := by
  have sample : ∃ between last,
      (Service.new itemsSchema).afterAll? (twoQueries ++ [.process ⟨1⟩]) = some between ∧
      between.after? (.process ⟨1⟩) = some last ∧ between.callsOf ⟨1⟩ = [] ∧
      last.callsOf ⟨1⟩ = [.converged] ∧ last.callsOf ⟨2⟩ = [] :=
    ⟨_, _, rfl, rfl, rfl, rfl, rfl⟩
  obtain ⟨between, last, moved, moving, uncalled, called, silent⟩ := sample
  have run := reaches_of_moves moved
  have further := run.move _ trivial moving
  have new : last.callsOf ⟨1⟩ ≠ between.callsOf ⟨1⟩ := by
    rw [called, uncalled]
    exact List.cons_ne_nil _ _
  obtain ⟨id, request, same, about, completes⟩ :=
    ((one_outcome run).2.2 _ last moving).1 ⟨1⟩ new
  obtain rfl := Move.process.inj same
  exact ⟨between, last, moved, moving, called, silent, ⟨request, about, completes⟩,
    (one_outcome further).1 ⟨1⟩, (one_outcome further).2.1⟩

end Service

end SnapshotQuery
