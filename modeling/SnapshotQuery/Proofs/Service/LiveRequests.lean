import Mathlib.Algebra.GroupWithZero.Nat
import SnapshotQuery.Proofs.Service.Custody

/-!
# Live requests

A request is live until it has ended, and its origin has it once.  So taking it
out leaves one live request less, and giving it back makes up for it.
-/

namespace SnapshotQuery.Service

/-- The live requests, origin by origin. -/
def lives (service : Service) : List (List Request) :=
  service.origins.map fun origin => origin.live

/-- The number of live requests of all origins. -/
def liveTotal (service : Service) : Nat :=
  (service.lives.map List.length).sum

/-- No origin has a request twice. -/
def Unrepeated (service : Service) : Prop :=
  ∀ live ∈ service.lives, (live.map fun request => request.id).Nodup

variable {calls : List Observation} {service before after moment : Service} {id : ContextId}
  {request : Request} {origin : OriginSettings} {owner : Origin} {message : Message}
  {move : Move}

theorem sum_liveRequests (contexts : service.contextIds.Nodup) :
    (service.contextIds.map service.liveRequests).sum = service.liveTotal := by
  simp only [liveTotal, contextIds, lives, List.map_map]
  congr 1
  apply List.map_congr_left
  intro origin member
  obtain ⟨owner, found⟩ := exists_origin? (mem_contextIds.mpr ⟨origin, member, rfl⟩)
  obtain rfl := eq_of_origin? contexts found member rfl
  simp only [Function.comp_apply, liveRequests, found, Option.map_some, Option.getD_some]

theorem liveTotal_congr (same : after.lives = before.lives) :
    after.liveTotal = before.liveTotal := by
  rw [liveTotal, liveTotal, same]

section Unchanged

theorem lives_updateOrigin {change : Origin → Origin}
    (same : ∀ origin, (change origin).live = origin.live) :
    (service.updateOrigin id change).lives = service.lives := by
  simp only [lives, updateOrigin, List.map_map]
  apply List.map_congr_left
  intro origin _
  simp only [Function.comp_apply]
  split <;> simp [same]

theorem lives_post (message : Message) : (service.post id message).lives = service.lives :=
  lives_updateOrigin fun _ => rfl

theorem Interlude.lives (interlude : Interlude calls before after) :
    after.lives = before.lives := by
  obtain ⟨wakes, origins, _⟩ := interlude.told
  simp [Service.lives, origins, Origin.notified]

theorem Advanced.lives {wanted : RequestId} (advanced : service.Advanced wanted after) :
    after.lives = service.lives := by
  cases advanced with
  | waiting => rfl
  | moved _ _ passes => exact passes.interlude.lives
  | skipped _ _ _ interlude => exact interlude.lives
  | orphaned _ _ _ interlude => exact interlude.lives
  | posted _ _ _ interlude _ => exact (lives_post _).trans interlude.lives

theorem Launched.lives {result : Service × Request}
    (launched : service.Launched origin request result) : result.1.lives = service.lives := by
  cases launched with
  | accepted interlude _ _ _ => exact interlude.lives
  | refused interlude _ _ => exact (lives_post _).trans interlude.lives

end Unchanged

section Changed

/-- The live requests of one origin stand for themselves among the others. -/
theorem lives_split (contexts : service.contextIds.Nodup)
    (found : service.origin? id = some owner) :
    ∃ front back, service.lives = front ++ owner.live :: back ∧ ∀ change,
      (service.updateOrigin id change).lives = front ++ (change owner).live :: back := by
  obtain ⟨front, back, split, changed⟩ := origins_split contexts found
  refine ⟨front.map fun origin => origin.live, back.map fun origin => origin.live, ?_, ?_⟩
  · simp [lives, split]
  · intro change
    simp [lives, changed]

theorem length_filter_ne {live : List Request}
    (distinct : (live.map fun request => request.id).Nodup) (member : request ∈ live) :
    (live.filter fun other => other.id ≠ request.id).length + 1 = live.length := by
  have held : request.id ∈ live.map fun request => request.id := List.mem_map_of_mem member
  have erased : (live.filter fun other => other.id ≠ request.id).map (fun request => request.id) =
      (live.map fun request => request.id).erase request.id := by
    rw [distinct.erase_eq_filter, List.filter_map]
    congr 1
    refine List.filter_congr fun other _ => ?_
    by_cases here : other.id = request.id <;> simp [here]
  have less := congrArg List.length erased
  rw [List.length_map, List.length_erase_of_mem held, List.length_map] at less
  have some := List.length_pos_of_mem member
  omega

/-- A live request that is taken out leaves one less. -/
theorem liveTotal_removeLive (contexts : service.contextIds.Nodup) (unrepeated : service.Unrepeated)
    (found : service.liveRequest? id request.id = some request) :
    (service.removeLive id request.id).liveTotal + 1 = service.liveTotal := by
  obtain ⟨owner, here, member⟩ := Option.bind_eq_some_iff.mp found
  obtain ⟨front, back, split, changed⟩ := lives_split contexts here
  have live : owner.live ∈ service.lives := by simp [split]
  have less := length_filter_ne (unrepeated _ live) (List.mem_of_find?_eq_some member)
  rw [liveTotal, liveTotal, removeLive, changed, split]
  simp only [List.map_append, List.map_cons, List.sum_append, List.sum_cons]
  omega

/-- A request that is given back is one more. -/
theorem liveTotal_insertLive (contexts : service.contextIds.Nodup) (known : id ∈ service.contextIds)
    (request : Request) : (service.insertLive id request).liveTotal = service.liveTotal + 1 := by
  obtain ⟨owner, here⟩ := exists_origin? known
  obtain ⟨front, back, split, changed⟩ := lives_split contexts here
  rw [liveTotal, liveTotal, insertLive, changed, split]
  simp only [List.map_append, List.map_cons, List.sum_append, List.sum_cons, List.length_append,
    List.length_singleton]
  omega

theorem Unrepeated.removeLive (unrepeated : service.Unrepeated) (removed : RequestId) :
    (service.removeLive id removed).Unrepeated := by
  intro live member
  obtain ⟨origin, among, rfl⟩ := List.mem_map.mp member
  obtain ⟨old, oldMember, rfl⟩ := List.mem_map.mp among
  have distinct := unrepeated old.live (List.mem_map_of_mem oldMember)
  by_cases here : old.settings.id = id
  · rw [if_pos here]
    exact distinct.sublist (List.filter_sublist.map _)
  · rw [if_neg here]
    exact distinct

theorem Unrepeated.insertLive (unrepeated : service.Unrepeated)
    (vacant : service.Vacant request.id) : (service.insertLive id request).Unrepeated := by
  intro live member
  obtain ⟨origin, among, rfl⟩ := List.mem_map.mp member
  obtain ⟨old, oldMember, rfl⟩ := List.mem_map.mp among
  have distinct := unrepeated old.live (List.mem_map_of_mem oldMember)
  by_cases here : old.settings.id = id
  · rw [if_pos here, List.map_append]
    refine List.nodup_append.mpr ⟨distinct, List.nodup_singleton _, ?_⟩
    intro first earlier second new same
    obtain ⟨held, owned, rfl⟩ := List.mem_map.mp earlier
    exact vacant.live id held ⟨old, oldMember, here, owned⟩ (same.trans (List.mem_singleton.mp new))
  · rw [if_neg here]
    exact distinct

end Changed

section Moves

theorem Unrepeated.of_lives (unrepeated : before.Unrepeated) (same : after.lives = before.lives) :
    after.Unrepeated :=
  fun live member => unrepeated live (same ▸ member)

/-- An attempt that is launched leaves the requests as they are, and then its own goes back. -/
theorem Unrepeated.launched (unrepeated : service.Unrepeated) {result : Service × Request}
    (launched : service.Launched origin request result) (vacant : service.Vacant request.id) :
    (result.1.insertLive id result.2).Unrepeated := by
  refine (unrepeated.of_lives launched.lives).insertLive ?_
  rw [launched.starts.id]
  exact vacant.within launched.within

theorem Unrepeated.handled (unrepeated : service.Unrepeated) (orderly : service.Orderly)
    (handled : service.Handled origin message after) : after.Unrepeated := by
  cases handled with
  | dropped _ interlude => exact unrepeated.of_lives interlude.lives
  | @ended request final _ moment marks _ _ _ _ interlude _ _ closing =>
      have taken : (moment.retire final marks).Unrepeated :=
        (unrepeated.removeLive request.id).of_lives interlude.lives
      exact taken.of_lives closing.lives
  | @relaunched request _ _ _ _ found _ _ interlude _ launched closing =>
      have taken := (unrepeated.removeLive request.id).of_lives interlude.lives
      have vacant := orderly.vacant_removeLive (owns_of_liveRequest? found).1
      exact (taken.launched launched (vacant.within interlude.within)).of_lives closing.lives

theorem Unrepeated.moved (unrepeated : service.Unrepeated) (orderly : service.Orderly)
    (moved : service.Moved move after) : after.Unrepeated := by
  cases moved with
  | interlude interlude => exact unrepeated.of_lives interlude.lives
  | interposed => exact unrepeated
  | woken _ => exact unrepeated.of_lives (lives_post _)
  | advanced advanced => exact unrepeated.of_lives advanced.lives
  | @processed id owner message rest _ _ _ handled =>
      have left : (service.leaveMessages id rest).Unrepeated :=
        unrepeated.of_lives (lives_updateOrigin fun _ => rfl)
      exact left.handled (orderly.within (within_leaveMessages rest)) handled
  | submitted _ interlude launched =>
      have taken := unrepeated.of_lives interlude.lives
      exact taken.launched launched (orderly.vacant_next.within interlude.within)
  | @originAdded id config pool =>
      intro live member
      obtain ⟨origin, among, rfl⟩ := List.mem_map.mp member
      rcases List.mem_append.mp among with old | new
      · exact unrepeated _ (List.mem_map_of_mem old)
      · rw [List.mem_singleton.mp new]
        exact .nil
  | originDropped interlude =>
      refine Unrepeated.of_lives ?_ interlude.lives
      intro live member
      obtain ⟨origin, among, rfl⟩ := List.mem_map.mp member
      exact unrepeated _ (List.mem_map_of_mem (List.mem_filter.mp among).1)

theorem unrepeated_of_reaches {permitted : Service → Move → Prop} {schema : TableSchema}
    (run : (Service.new schema).Reaches permitted service) : service.Unrepeated := by
  induction run with
  | start => exact List.forall_mem_nil _
  | move move earlier _ moved inductionHypothesis =>
      have orderly := orderly_of_reaches earlier
      exact inductionHypothesis.moved orderly (moved_of_after? orderly.ready moved)

end Moves

end SnapshotQuery.Service
