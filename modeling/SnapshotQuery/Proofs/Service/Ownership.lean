import SnapshotQuery.Proofs.Service.Attempts
import SnapshotQuery.Proofs.Service.Requests

/-!
# What origins own and hold

Requests and messages are found by the id of their origin.  No two origins have
the same id, and no two requests, live or ended, have the same one.
-/

namespace SnapshotQuery.Service

def contextIds (service : Service) : List ContextId :=
  service.origins.map fun origin => origin.settings.id

/-- The origin of the id owns the request. -/
def Owns (service : Service) (id : ContextId) (request : Request) : Prop :=
  ∃ origin ∈ service.origins, origin.settings.id = id ∧ request ∈ origin.live

/-- The mailbox of the origin of the id holds the message. -/
def Holds (service : Service) (id : ContextId) (message : Message) : Prop :=
  ∃ origin ∈ service.origins, origin.settings.id = id ∧ message ∈ origin.mailbox

/-- No request of the service has the id. -/
structure Vacant (service : Service) (request : RequestId) : Prop where
  live : ∀ id other, service.Owns id other → other.id ≠ request
  ended : ∀ other ∈ service.ended, other.id ≠ request

variable {calls : List Observation} {service before after : Service} {id other : ContextId}
  {request : Request}

theorem exists_updateOrigin {change : Origin → Origin} {property : Origin → Prop} :
    (∃ origin ∈ (service.updateOrigin id change).origins, property origin) ↔
      ∃ origin ∈ service.origins,
        property (if origin.settings.id = id then change origin else origin) := by
  simp [updateOrigin]

/-- A change of an origin that keeps its settings and its requests. -/
theorem owns_updateOrigin_iff {change : Origin → Origin}
    (settings : ∀ origin, (change origin).settings = origin.settings)
    (live : ∀ origin, (change origin).live = origin.live) :
    (service.updateOrigin id change).Owns other request ↔ service.Owns other request := by
  unfold Owns
  rw [exists_updateOrigin]
  apply exists_congr
  intro origin
  split <;> simp [settings, live]

theorem owns_removeLive_iff {removed : RequestId} :
    (service.removeLive id removed).Owns other request ↔
      service.Owns other request ∧ (other = id → request.id ≠ removed) := by
  unfold Owns removeLive
  rw [exists_updateOrigin]
  constructor
  · rintro ⟨origin, member, same, held⟩
    split at same
    · rename_i here
      rw [if_pos here] at held
      obtain ⟨held, kept⟩ := List.mem_filter.mp held
      exact ⟨⟨origin, member, same, held⟩, fun _ => of_decide_eq_true kept⟩
    · rename_i elsewhere
      rw [if_neg elsewhere] at held
      exact ⟨⟨origin, member, same, held⟩, fun here => absurd (same.trans here) elsewhere⟩
  · rintro ⟨⟨origin, member, same, held⟩, kept⟩
    refine ⟨origin, member, ?_⟩
    by_cases here : origin.settings.id = id
    · rw [if_pos here]
      exact ⟨same, List.mem_filter.mpr ⟨held, decide_eq_true (kept (same.symm.trans here))⟩⟩
    · rw [if_neg here]
      exact ⟨same, held⟩

theorem Owns.removeLive {removed : RequestId} (owns : service.Owns other request)
    (kept : request.id ≠ removed) : (service.removeLive id removed).Owns other request :=
  owns_removeLive_iff.mpr ⟨owns, fun _ => kept⟩

theorem Owns.mem_contextIds (owns : service.Owns id request) : id ∈ service.contextIds := by
  obtain ⟨origin, member, same, _⟩ := owns
  exact List.mem_map.mpr ⟨origin, member, same⟩

theorem mem_contextIds : id ∈ service.contextIds ↔
    ∃ origin ∈ service.origins, origin.settings.id = id :=
  List.mem_map

theorem owns_insertLive {added : Request}
    (owns : (service.insertLive id added).Owns other request) :
    service.Owns other request ∨ (other = id ∧ request = added) := by
  unfold Owns insertLive at owns
  rw [exists_updateOrigin] at owns
  obtain ⟨origin, member, same, held⟩ := owns
  by_cases here : origin.settings.id = id
  · rw [if_pos here] at same held
    rcases List.mem_append.mp held with old | new
    · exact .inl ⟨origin, member, same, old⟩
    · exact .inr ⟨same.symm.trans here, List.mem_singleton.mp new⟩
  · rw [if_neg here] at same held
    exact .inl ⟨origin, member, same, held⟩

theorem Owns.insertLive (owns : service.Owns other request) (added : Request) :
    (service.insertLive id added).Owns other request := by
  unfold Owns Service.insertLive
  rw [exists_updateOrigin]
  obtain ⟨origin, member, same, held⟩ := owns
  refine ⟨origin, member, ?_⟩
  split
  · exact ⟨same, List.mem_append_left _ held⟩
  · exact ⟨same, held⟩

theorem owns_insertLive_self (known : id ∈ service.contextIds) (added : Request) :
    (service.insertLive id added).Owns id added := by
  unfold Owns insertLive
  rw [exists_updateOrigin]
  obtain ⟨origin, member, same⟩ := mem_contextIds.mp known
  refine ⟨origin, member, ?_⟩
  rw [if_pos same]
  exact ⟨same, List.mem_append_right _ (List.mem_singleton.mpr rfl)⟩

theorem holds_insertLive_iff {added : Request} {message : Message} :
    (service.insertLive id added).Holds other message ↔ service.Holds other message := by
  unfold Holds insertLive
  rw [exists_updateOrigin]
  apply exists_congr
  intro origin
  split <;> simp

theorem owns_post_iff {message : Message} :
    (service.post id message).Owns other request ↔ service.Owns other request :=
  owns_updateOrigin_iff (fun _ => rfl) (fun _ => rfl)

theorem Interlude.owns_iff (interlude : Interlude calls before after) :
    after.Owns id request ↔ before.Owns id request := by
  obtain ⟨wakes, origins, _⟩ := interlude.told
  simp [Owns, origins, Origin.notified]

theorem Interlude.holds (interlude : Interlude calls before after) {message : Message}
    (held : before.Holds id message) : after.Holds id message := by
  obtain ⟨wakes, origins, _⟩ := interlude.told
  obtain ⟨origin, member, same, held⟩ := held
  exact ⟨origin.notified wakes, origins ▸ List.mem_map_of_mem member, same,
    List.mem_append_left _ held⟩

theorem Interlude.holds_completed_iff (interlude : Interlude calls before after)
    {completion : Completion} :
    after.Holds id (.completed completion) ↔ before.Holds id (.completed completion) := by
  obtain ⟨wakes, origins, _⟩ := interlude.told
  simp [Holds, origins, Origin.notified]

theorem Interlude.contextIds (interlude : Interlude calls before after) :
    after.contextIds = before.contextIds := by
  obtain ⟨wakes, origins, _⟩ := interlude.told
  simp [Service.contextIds, origins, Origin.notified]

theorem contextIds_updateOrigin {change : Origin → Origin}
    (settings : ∀ origin, (change origin).settings = origin.settings) :
    (service.updateOrigin id change).contextIds = service.contextIds := by
  simp only [contextIds, updateOrigin, List.map_map]
  apply List.map_congr_left
  intro origin _
  simp only [Function.comp_apply]
  split <;> simp [settings]

theorem contextIds_post (message : Message) :
    (service.post id message).contextIds = service.contextIds :=
  contextIds_updateOrigin fun _ => rfl

theorem contextIds_insertLive (added : Request) :
    (service.insertLive id added).contextIds = service.contextIds :=
  contextIds_updateOrigin fun _ => rfl

theorem contextIds_removeLive (removed : RequestId) :
    (service.removeLive id removed).contextIds = service.contextIds :=
  contextIds_updateOrigin fun _ => rfl

theorem owns_of_liveRequest? {wanted : RequestId}
    (found : service.liveRequest? id wanted = some request) :
    service.Owns id request ∧ request.id = wanted := by
  obtain ⟨origin, at_id, held⟩ := Option.bind_eq_some_iff.mp found
  refine ⟨⟨origin, List.mem_of_find?_eq_some at_id, ?_, List.mem_of_find?_eq_some held⟩, ?_⟩
  · simpa using List.find?_some at_id
  · simpa using List.find?_some held

theorem Advanced.owns_iff {wanted : RequestId} (advanced : service.Advanced wanted after) :
    after.Owns id request ↔ service.Owns id request := by
  cases advanced with
  | waiting => exact Iff.rfl
  | moved _ _ passes => exact passes.interlude.owns_iff
  | skipped _ _ _ interlude => exact interlude.owns_iff
  | orphaned _ _ _ interlude => exact interlude.owns_iff
  | posted _ _ _ interlude _ => exact owns_post_iff.trans interlude.owns_iff

variable {origin : OriginSettings} {held : Request} {result : Service × Request}

theorem Launched.owns_iff (launched : service.Launched origin held result) :
    result.1.Owns id request ↔ service.Owns id request := by
  cases launched with
  | accepted interlude _ _ _ => exact interlude.owns_iff
  | refused interlude _ _ => exact owns_post_iff.trans interlude.owns_iff

theorem Launched.contextIds (launched : service.Launched origin held result) :
    result.1.contextIds = service.contextIds := by
  cases launched with
  | accepted interlude _ _ _ => exact interlude.contextIds
  | refused interlude _ _ => exact (contextIds_post _).trans interlude.contextIds

end SnapshotQuery.Service
