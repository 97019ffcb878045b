import SnapshotQuery.Proofs.Service.Moves

/-!
# The identity of requests

In every service that moves lead to, origins and requests keep their ids apart,
and every request an origin owns waits for an attempt with both callbacks still
to be called.
-/

namespace SnapshotQuery.Service

/-- Ids are used once, and what an origin owns is its own and waits for an attempt. -/
structure Orderly (service : Service) : Prop where
  contexts : service.contextIds.Nodup
  contextsMade : ∀ id ∈ service.contextIds, id.number ≤ service.contextsMade
  own : ∀ id request, service.Owns id request → request.origin = id
  ready : ∀ id request, service.Owns id request → request.Ready
  made : ∀ id request, service.Owns id request → request.id.number ≤ service.requestsMade
  unique : ∀ id request other held, service.Owns id request → service.Owns other held →
    held.id = request.id → held = request
  apart : ∀ id request, service.Owns id request → ∀ final ∈ service.ended, final.id ≠ request.id
  ended : (service.ended.map fun final => final.id).Nodup
  endedMade : ∀ final ∈ service.ended, final.id.number ≤ service.requestsMade

theorem orderly_new (schema : TableSchema) : (Service.new schema).Orderly where
  contexts := .nil
  contextsMade := by simp [new, contextIds]
  own := by simp [new, Owns]
  ready := by simp [new, Owns]
  made := by simp [new, Owns]
  unique := by simp [new, Owns]
  apart := by simp [new]
  ended := .nil
  endedMade := by simp [new]

/-- A service with the same ended requests that owns no more than another one. -/
structure Within (after before : Service) : Prop where
  contexts : after.contextIds.Sublist before.contextIds
  contextsMade : before.contextsMade ≤ after.contextsMade
  requestsMade : before.requestsMade ≤ after.requestsMade
  owns : ∀ id request, after.Owns id request → before.Owns id request
  ended : after.ended = before.ended

variable {calls : List Observation} {service before after : Service} {id : ContextId}
  {request : Request} {origin : OriginSettings}

theorem Within.refl (service : Service) : service.Within service :=
  ⟨.refl _, Nat.le_refl _, Nat.le_refl _, fun _ _ => id, rfl⟩

theorem Within.trans {first middle last : Service} (earlier : middle.Within first)
    (later : last.Within middle) : last.Within first where
  contexts := later.contexts.trans earlier.contexts
  contextsMade := Nat.le_trans earlier.contextsMade later.contextsMade
  requestsMade := Nat.le_trans earlier.requestsMade later.requestsMade
  owns id request owned := earlier.owns id request (later.owns id request owned)
  ended := later.ended.trans earlier.ended

theorem Interlude.within (interlude : Interlude calls before after) : after.Within before where
  contexts := interlude.contextIds ▸ .refl _
  contextsMade := Nat.le_of_eq interlude.contextsMade.symm
  requestsMade := Nat.le_of_eq interlude.requestsMade.symm
  owns _ _ := interlude.owns_iff.mp
  ended := interlude.ended

theorem within_updateOrigin {change : Origin → Origin}
    (settings : ∀ origin, (change origin).settings = origin.settings)
    (owns : ∀ other request, (service.updateOrigin id change).Owns other request →
      service.Owns other request) :
    (service.updateOrigin id change).Within service := by
  refine ⟨?_, Nat.le_refl _, Nat.le_refl _, owns, rfl⟩
  rw [contextIds_updateOrigin settings]

theorem within_leaveMessages (rest : List Message) :
    (service.leaveMessages id rest).Within service :=
  within_updateOrigin (fun _ => rfl) fun _ _ => owns_leaveMessages_iff.mp

theorem within_removeLive (removed : RequestId) :
    (service.removeLive id removed).Within service :=
  within_updateOrigin (fun _ => rfl) fun _ _ owned => (owns_removeLive_iff.mp owned).1

theorem within_post (message : Message) : (service.post id message).Within service :=
  within_updateOrigin (fun _ => rfl) fun _ _ => owns_post_iff.mp

theorem within_withoutOrigin : (service.withoutOrigin id).Within service := by
  refine ⟨List.filter_sublist.map _, Nat.le_refl _, Nat.le_refl _, ?_, rfl⟩
  intro other request owned
  exact (owns_withoutOrigin_iff.mp owned).1

theorem within_attempts (attempts : List Attempt) :
    ({ service with attempts } : Service).Within service :=
  ⟨.refl _, Nat.le_refl _, Nat.le_refl _, fun _ _ => id, rfl⟩

theorem within_wakeUps (wakeUps : List Handle) :
    ({ service with wakeUps } : Service).Within service :=
  ⟨.refl _, Nat.le_refl _, Nat.le_refl _, fun _ _ => id, rfl⟩

theorem Advanced.within {wanted : RequestId} (advanced : service.Advanced wanted after) :
    after.Within service := by
  cases advanced with
  | waiting => exact .refl service
  | moved _ _ passes => exact passes.interlude.within.trans (within_attempts _)
  | skipped _ _ _ interlude => exact interlude.within.trans (within_attempts _)
  | orphaned _ _ _ interlude => exact interlude.within.trans (within_attempts _)
  | posted _ _ _ interlude _ =>
      exact (interlude.within.trans (within_post _)).trans (within_attempts _)

theorem Launched.within {result : Service × Request}
    (launched : service.Launched origin request result) : result.1.Within service := by
  cases launched with
  | accepted interlude _ _ _ => exact interlude.within.trans (within_attempts _)
  | refused interlude _ _ => exact interlude.within.trans (within_post _)

theorem Vacant.within {wanted : RequestId} (vacant : before.Vacant wanted)
    (within : after.Within before) : after.Vacant wanted where
  live id other owned := vacant.live id other (within.owns id other owned)
  ended := within.ended ▸ vacant.ended

theorem Orderly.within (orderly : before.Orderly) (within : after.Within before) :
    after.Orderly where
  contexts := orderly.contexts.sublist within.contexts
  contextsMade id member :=
    Nat.le_trans (orderly.contextsMade id (within.contexts.subset member)) within.contextsMade
  own id request owned := orderly.own id request (within.owns id request owned)
  ready id request owned := orderly.ready id request (within.owns id request owned)
  made id request owned :=
    Nat.le_trans (orderly.made id request (within.owns id request owned)) within.requestsMade
  unique id request other held owned otherOwned :=
    orderly.unique id request other held (within.owns id request owned)
      (within.owns other held otherOwned)
  apart id request owned :=
    within.ended ▸ orderly.apart id request (within.owns id request owned)
  ended := within.ended ▸ orderly.ended
  endedMade final member :=
    Nat.le_trans (orderly.endedMade final (within.ended ▸ member)) within.requestsMade

/-- A request that is taken in hand leaves its id vacant. -/
theorem Orderly.vacant_removeLive (orderly : service.Orderly) (owned : service.Owns id request) :
    (service.removeLive id request.id).Vacant request.id where
  live other held heldOwned same := by
    obtain ⟨before, kept⟩ := owns_removeLive_iff.mp heldOwned
    obtain rfl := orderly.unique id request other held owned before same
    have here : other = id := (orderly.own other held before).symm.trans (orderly.own id held owned)
    exact kept here rfl
  ended := orderly.apart id request owned

theorem Orderly.insertLive (orderly : service.Orderly) (vacant : service.Vacant request.id)
    (own : request.origin = id) (ready : request.Ready)
    (made : request.id.number ≤ service.requestsMade) :
    (service.insertLive id request).Orderly where
  contexts := by
    rw [contextIds_insertLive]
    exact orderly.contexts
  contextsMade := by
    rw [contextIds_insertLive]
    exact orderly.contextsMade
  own other held owned := by
    rcases owns_insertLive owned with old | ⟨rfl, rfl⟩
    · exact orderly.own other held old
    · exact own
  ready other held owned := by
    rcases owns_insertLive owned with old | ⟨_, rfl⟩
    · exact orderly.ready other held old
    · exact ready
  made other held owned := by
    rcases owns_insertLive owned with old | ⟨_, rfl⟩
    · exact orderly.made other held old
    · exact made
  unique := by
    intro first held second other firstOwned secondOwned same
    rcases owns_insertLive firstOwned with firstOld | ⟨_, rfl⟩ <;>
      rcases owns_insertLive secondOwned with secondOld | ⟨_, rfl⟩
    · exact orderly.unique first held second other firstOld secondOld same
    · exact absurd same.symm (vacant.live first held firstOld)
    · exact absurd same (vacant.live second other secondOld)
    · rfl
  apart other held owned := by
    rcases owns_insertLive owned with old | ⟨_, rfl⟩
    · exact orderly.apart other held old
    · exact vacant.ended
  ended := orderly.ended
  endedMade := orderly.endedMade

theorem Orderly.retire (orderly : service.Orderly) {final : Request}
    (vacant : service.Vacant final.id) (made : final.id.number ≤ service.requestsMade)
    (marks : List RequestId) : (service.retire final marks).Orderly where
  contexts := orderly.contexts
  contextsMade := orderly.contextsMade
  own := orderly.own
  ready := orderly.ready
  made := orderly.made
  unique := orderly.unique
  apart id request owned other member := by
    rcases List.mem_cons.mp member with rfl | old
    · exact (vacant.live id request owned).symm
    · exact orderly.apart id request owned other old
  ended := by
    refine List.nodup_cons.mpr ⟨?_, orderly.ended⟩
    intro member
    obtain ⟨other, old, same⟩ := List.mem_map.mp member
    exact vacant.ended other old same
  endedMade other member := by
    rcases List.mem_cons.mp member with rfl | old
    · exact made
    · exact orderly.endedMade other old

/-- The next id is vacant. -/
theorem Orderly.vacant_next (orderly : service.Orderly) :
    service.countRequest.Vacant ⟨service.requestsMade + 1⟩ where
  live id other owned same := by
    have made := orderly.made id other owned
    rw [same] at made
    exact Nat.not_succ_le_self _ made
  ended other member same := by
    have made := orderly.endedMade other member
    rw [same] at made
    exact Nat.not_succ_le_self _ made

theorem within_countRequest : service.countRequest.Within service :=
  ⟨.refl _, Nat.le_refl _, Nat.le_succ _, fun _ _ => id, rfl⟩

/-- A request whose next attempt was started goes back to its origin. -/
theorem Orderly.launched (orderly : service.Orderly) {result : Service × Request}
    (launched : service.Launched origin request result) (vacant : service.Vacant request.id)
    (own : request.origin = id) (onSuccess : request.onSuccess.isSome = true)
    (onError : request.onError.isSome = true)
    (made : request.id.number ≤ service.requestsMade) :
    (result.1.insertLive id result.2).Orderly := by
  have starts := launched.starts
  have within := launched.within
  rw [← starts.id] at vacant made
  exact (orderly.within within).insertLive (vacant.within within) (starts.origin.trans own)
    (starts.ready onSuccess onError) (Nat.le_trans made within.requestsMade)

theorem Orderly.handled (orderly : service.Orderly) {message : Message}
    (handled : service.Handled origin message after) : after.Orderly := by
  cases handled with
  | dropped _ interlude => exact orderly.within interlude.within
  | @ended request final _ moment marks _ found same _ interlude _ _ closing =>
      have owned := (owns_of_liveRequest? found).1
      have within := (within_removeLive request.id).trans interlude.within
      have vacant := (orderly.vacant_removeLive owned).within interlude.within
      have made := Nat.le_trans (orderly.made _ request owned) within.requestsMade
      rw [← same] at vacant made
      exact ((orderly.within within).retire vacant made marks).within closing.within
  | @relaunched request _ moment result _ found _ _ interlude _ launched closing =>
      have owned := (owns_of_liveRequest? found).1
      have ready := orderly.ready _ request owned
      have within := (within_removeLive request.id).trans interlude.within
      have vacant := (orderly.vacant_removeLive owned).within interlude.within
      have made := Nat.le_trans (orderly.made _ request owned) within.requestsMade
      exact ((orderly.within within).launched launched vacant (orderly.own _ request owned)
        ready.onSuccess ready.onError made).within closing.within

theorem Orderly.addOrigin (orderly : service.Orderly) (pool : Dispatcher) (config : Config) :
    (service.addOrigin pool config).1.Orderly := by
  have owns : ∀ id request, (service.addOrigin pool config).1.Owns id request →
      service.Owns id request := fun _ _ => owns_addOrigin_iff.mp
  have ids : (service.addOrigin pool config).1.contextIds =
      service.contextIds ++ [⟨service.contextsMade + 1⟩] := by
    simp [Service.addOrigin, contextIds]
  refine ⟨?_, ?_, fun id request owned => orderly.own id request (owns id request owned),
    fun id request owned => orderly.ready id request (owns id request owned),
    fun id request owned => orderly.made id request (owns id request owned), ?_,
    fun id request owned => orderly.apart id request (owns id request owned), orderly.ended,
    orderly.endedMade⟩
  · rw [ids]
    refine List.nodup_append.mpr ⟨orderly.contexts, List.nodup_singleton _, ?_⟩
    rintro id old next member rfl
    have made := orderly.contextsMade _ old
    rw [List.mem_singleton.mp member] at made
    exact Nat.not_succ_le_self _ made
  · rw [ids]
    intro id member
    rcases List.mem_append.mp member with old | new
    · exact Nat.le_succ_of_le (orderly.contextsMade id old)
    · rw [List.mem_singleton.mp new]
      exact Nat.le_refl _
  · intro id request other held owned heldOwned
    exact orderly.unique id request other held (owns id request owned)
      (owns other held heldOwned)

/-- Every move keeps the ids apart. -/
theorem Orderly.moved (orderly : service.Orderly) {move : Move}
    (moved : service.Moved move after) : after.Orderly := by
  cases moved with
  | interlude interlude => exact orderly.within interlude.within
  | interposed =>
      exact orderly.within ⟨.refl _, Nat.le_refl _, Nat.le_refl _, fun _ _ => id, rfl⟩
  | woken _ => exact orderly.within ((within_wakeUps _).trans (within_post _))
  | advanced advanced => exact orderly.within advanced.within
  | processed _ _ handled => exact (orderly.within (within_leaveMessages _)).handled handled
  | submitted _ interlude launched =>
      have within := within_countRequest.trans interlude.within
      have vacant := orderly.vacant_next.within interlude.within
      have made := Nat.le_of_eq interlude.requestsMade.symm
      have inserted := (orderly.within within).launched launched vacant rfl rfl rfl made
      exact inserted.within ⟨.refl _, Nat.le_refl _, Nat.le_refl _, fun _ _ => id, rfl⟩
  | originAdded => exact orderly.addOrigin _ _
  | originDropped interlude =>
      exact orderly.within (within_withoutOrigin.trans interlude.within)

/-- Ids are kept apart in every service that moves lead to. -/
theorem orderly_of_reaches {permitted : Service → Move → Prop} {schema : TableSchema}
    (run : (Service.new schema).Reaches permitted service) : service.Orderly := by
  induction run with
  | start => exact orderly_new schema
  | move move _ _ moved inductionHypothesis =>
      exact inductionHypothesis.moved (moved_of_after? inductionHypothesis.ready moved)

end SnapshotQuery.Service
