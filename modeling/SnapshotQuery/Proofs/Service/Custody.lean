import Mathlib.Data.List.Flatten
import SnapshotQuery.Proofs.Service.Tickets

/-!
# No request is lost

Every request that an origin owns is waited for: its attempt is under way, or its
result is in the mailbox, or it is cancelled and its origin will be woken.
-/

namespace SnapshotQuery.Service

/-- The origin will learn that the request is cancelled. -/
def Woken (service : Service) (id : ContextId) (request : RequestId) : Prop :=
  service.Holds id (.cancelRequested request) ∨
    ∃ handle ∈ service.wakeUps, handle.request = request ∧ handle.origin = id

/-- Tickets are unique and name the running attempt.  Every request an origin owns has one or, once
it is cancelled, a wake-up, apart from the spared ones. -/
structure TrackedBut (spared : ContextId → RequestId → Prop) (service : Service) : Prop where
  tickets : service.tickets.Nodup
  ticketsMade : ∀ wanted ∈ service.tickets, wanted.number ≤ service.requestsMade
  attempts : ∀ attempt ∈ service.attempts, ∀ id request, service.Owns id request →
    request.id = attempt.request → attempt.origin = id ∧ attempt.number = request.attempts
  abandoned : ∀ attempt ∈ service.attempts, attempt.phase = .abandoned →
    attempt.request ∈ service.cancelled
  own : ∀ id completion, service.Holds id (.completed completion) → completion.origin = id
  results : ∀ id completion, service.Holds id (.completed completion) → ∀ other request,
    service.Owns other request → request.id = completion.request →
      other = id ∧ completion.attempt = request.attempts
  handlesMade : ∀ name handle, service.handles.find? name = some handle →
    handle.request.number ≤ service.requestsMade
  handles : ∀ name handle, service.handles.find? name = some handle → ∀ id request,
    service.Owns id request → request.id = handle.request → handle.origin = id
  cancelledMade : ∀ wanted ∈ service.cancelled, wanted.number ≤ service.requestsMade
  waiting : ∀ id request, service.Owns id request → ¬ spared id request.id →
    request.id ∈ service.tickets ∨ request.id ∈ service.cancelled
  woken : ∀ id request, service.Owns id request → ¬ spared id request.id →
    request.id ∈ service.cancelled → service.Woken id request.id

/-- No request is spared. -/
abbrev Tracked (service : Service) : Prop := service.TrackedBut fun _ _ => False

theorem tracked_new (schema : TableSchema) : (Service.new schema).Tracked := by
  constructor <;> simp [new, tickets, Owns, Holds, OrderedMap.find?_empty]

variable {calls : List Observation} {service before after : Service} {id : ContextId}
  {request : Request} {origin : OriginSettings} {owner : Origin} {message : Message}
  {rest : List Message} {spared : ContextId → RequestId → Prop} {wanted : RequestId}

/-- No request has two attempts under way. -/
theorem TrackedBut.distinct (tracked : service.TrackedBut spared) :
    (service.attempts.map fun attempt => attempt.request).Nodup :=
  (List.nodup_append.mp tracked.tickets).1

/-- A token that is set during an interlude is told to the origin or is about to be. -/
theorem Interlude.woken (interlude : Interlude calls before after)
    (handles : ∀ name handle, before.handles.find? name = some handle →
      request.id = handle.request → handle.origin = id)
    (owned : before.Owns id request)
    (earlier : request.id ∈ before.cancelled → before.Woken id request.id)
    (set : request.id ∈ after.cancelled) : after.Woken id request.id := by
  obtain ⟨wakes, origins, told⟩ := interlude.told
  rcases told request.id set with old | ⟨name, handle, found, same, told⟩
  · rcases earlier old with posted | ⟨handle, pending, same⟩
    · exact .inl (interlude.holds posted)
    · exact .inr ⟨handle, interlude.wakeUps pending, same⟩
  · have here := handles name handle found same.symm
    rcases told with posted | pending
    · obtain ⟨owner, member, same, _⟩ := owned
      refine .inl ⟨owner.notified wakes, origins ▸ List.mem_map_of_mem member, same, ?_⟩
      refine List.mem_append_right _ (List.mem_map_of_mem ?_)
      rw [same, ← here]
      exact posted
    · exact .inr ⟨handle, pending, same, here⟩

theorem TrackedBut.interlude (tracked : before.TrackedBut spared)
    (interlude : Interlude calls before after) : after.TrackedBut spared where
  tickets := interlude.tickets ▸ tracked.tickets
  ticketsMade := by
    rw [interlude.tickets, interlude.requestsMade]
    exact tracked.ticketsMade
  attempts attempt member id request owned := by
    rw [interlude.attempts] at member
    exact tracked.attempts attempt member id request (interlude.owns_iff.mp owned)
  abandoned attempt member phase := by
    rw [interlude.attempts] at member
    exact interlude.cancelled (tracked.abandoned attempt member phase)
  own id completion held := tracked.own id completion (interlude.holds_completed_iff.mp held)
  results id completion held other request owned :=
    tracked.results id completion (interlude.holds_completed_iff.mp held) other request
      (interlude.owns_iff.mp owned)
  handlesMade name handle found := by
    rw [interlude.handles] at found
    rw [interlude.requestsMade]
    exact tracked.handlesMade name handle found
  handles name handle found id request owned := by
    rw [interlude.handles] at found
    exact tracked.handles name handle found id request (interlude.owns_iff.mp owned)
  cancelledMade wanted set := by
    rw [interlude.requestsMade]
    obtain ⟨_, _, told⟩ := interlude.told
    rcases told wanted set with old | ⟨name, handle, found, rfl, _⟩
    · exact tracked.cancelledMade wanted old
    · exact tracked.handlesMade name handle found
  waiting id request owned kept := by
    rw [interlude.tickets]
    rcases tracked.waiting id request (interlude.owns_iff.mp owned) kept with ticket | set
    · exact .inl ticket
    · exact .inr (interlude.cancelled set)
  woken id request owned kept := by
    have earlier := interlude.owns_iff.mp owned
    exact interlude.woken (fun name handle found => tracked.handles name handle found id request
      earlier) earlier (tracked.woken id request earlier kept)

/-- What is spared is waited for after all. -/
theorem TrackedBut.tracked (tracked : service.TrackedBut spared)
    (covered : ∀ id request, service.Owns id request → spared id request.id →
      (request.id ∈ service.tickets ∨ request.id ∈ service.cancelled) ∧
        (request.id ∈ service.cancelled → service.Woken id request.id)) :
    service.Tracked :=
  { tracked with
    waiting := by
      intro id request owned _
      by_cases kept : spared id request.id
      · exact (covered id request owned kept).1
      · exact tracked.waiting id request owned kept
    woken := by
      intro id request owned _
      by_cases kept : spared id request.id
      · exact (covered id request owned kept).2
      · exact tracked.woken id request owned kept }

/-- With nothing new under way it is left to show that what is owned is waited for. -/
theorem TrackedBut.reduced {left : ContextId → RequestId → Prop}
    (tracked : before.TrackedBut spared) (reduced : after.Reduced before)
    (tickets : after.tickets.Nodup)
    (waiting : ∀ id request, after.Owns id request → ¬ left id request.id →
      request.id ∈ after.tickets ∨ request.id ∈ before.cancelled)
    (woken : ∀ id request, after.Owns id request → ¬ left id request.id →
      request.id ∈ before.cancelled → after.Woken id request.id) :
    after.TrackedBut left where
  tickets := tickets
  ticketsMade wanted member := by
    rw [reduced.requestsMade]
    exact tracked.ticketsMade wanted (reduced.tickets_subset member)
  attempts attempt member id request owned :=
    tracked.attempts attempt (reduced.attempts member) id request (reduced.owns id request owned)
  abandoned attempt member := by
    rw [reduced.cancelled]
    exact tracked.abandoned attempt (reduced.attempts member)
  own id completion held := tracked.own id completion (reduced.holds id completion held)
  results id completion held other request owned :=
    tracked.results id completion (reduced.holds id completion held) other request
      (reduced.owns other request owned)
  handlesMade := by
    rw [reduced.handles, reduced.requestsMade]
    exact tracked.handlesMade
  handles name handle found id request owned := by
    rw [reduced.handles] at found
    exact tracked.handles name handle found id request (reduced.owns id request owned)
  cancelledMade := by
    rw [reduced.cancelled, reduced.requestsMade]
    exact tracked.cancelledMade
  waiting id request owned kept := reduced.cancelled ▸ waiting id request owned kept
  woken id request owned kept set := woken id request owned kept (reduced.cancelled ▸ set)

/-- Taking the oldest message out spares the request the message is about. -/
theorem TrackedBut.leaveMessages (tracked : service.Tracked) (contexts : service.contextIds.Nodup)
    (found : service.origin? id = some owner) (oldest : owner.mailbox = message :: rest) :
    (service.leaveMessages id rest).TrackedBut fun other wanted =>
      other = id ∧ wanted = message.request := by
  have perm := tickets_leaveMessages contexts found oldest
  have here : service.Holds id message := holds_of_origin? found oldest
  refine tracked.reduced (reduced_leaveMessages contexts found oldest)
    (List.nodup_append.mp (perm.nodup_iff.mp tracked.tickets)).2.1 ?_ ?_
  · intro other request owned kept
    have before := owns_leaveMessages_iff.mp owned
    rcases tracked.waiting other request before not_false with ticket | set
    · rcases List.mem_append.mp (perm.mem_iff.mp ticket) with used | left
      · cases message with
        | cancelRequested _ => exact absurd used List.not_mem_nil
        | completed completion =>
            have about : request.id = completion.request := List.mem_singleton.mp used
            exact absurd ⟨(tracked.results id completion here other request before about).1, about⟩
              kept
      · exact .inl left
    · exact .inr set
  · intro other request owned kept set
    rcases tracked.woken other request (owns_leaveMessages_iff.mp owned) not_false set with
      posted | pending
    · rcases posted.leaveMessages contexts found oldest with left | ⟨at_id, taken⟩
      · exact .inl left
      · exact absurd ⟨at_id, taken ▸ rfl⟩ kept
    · exact .inr pending

theorem TrackedBut.removeLive (tracked : service.TrackedBut spared) (removed : RequestId) :
    (service.removeLive id removed).TrackedBut spared := by
  have fewer : ∀ {other request}, (service.removeLive id removed).Owns other request →
      service.Owns other request := fun owned => (owns_removeLive_iff.mp owned).1
  refine tracked.reduced (reduced_removeLive removed) ?_ ?_ ?_
  · rw [tickets_removeLive]
    exact tracked.tickets
  · intro other request owned kept
    rw [tickets_removeLive]
    exact tracked.waiting other request (fewer owned) kept
  · intro other request owned kept set
    rcases tracked.woken other request (fewer owned) kept set with posted | pending
    · exact .inl (holds_removeLive_iff.mpr posted)
    · exact .inr pending

/-- A request that has ended is waited for no longer. -/
theorem TrackedBut.retire (tracked : service.Tracked) (vacant : service.Vacant wanted)
    (made : wanted.number ≤ service.requestsMade) {marks : List RequestId}
    (kept : service.cancelled ⊆ marks)
    (added : ∀ id ∈ marks, id ∈ service.cancelled ∨ id = wanted) (final : Request) :
    (service.retire final marks).Tracked :=
  { tracked with
    abandoned := fun attempt member phase => kept (tracked.abandoned attempt member phase)
    cancelledMade := by
      intro id member
      rcases added id member with old | rfl
      · exact tracked.cancelledMade id old
      · exact made
    waiting := fun id request owned spared =>
      (tracked.waiting id request owned spared).imp_right fun set => kept set
    woken := by
      intro id request owned spared member
      rcases added request.id member with old | same
      · exact tracked.woken id request owned spared old
      · exact absurd same (vacant.live id request owned) }

/-- A request with a ticket for its running attempt may be given back to its origin. -/
theorem TrackedBut.insertLive (tracked : service.Tracked)
    (attempts : ∀ attempt ∈ service.attempts, request.id = attempt.request →
      attempt.origin = id ∧ attempt.number = request.attempts)
    (results : ∀ other completion, service.Holds other (.completed completion) →
      request.id = completion.request → other = id ∧ completion.attempt = request.attempts)
    (handles : ∀ name handle, service.handles.find? name = some handle →
      request.id = handle.request → handle.origin = id)
    (ticket : request.id ∈ service.tickets) (unset : request.id ∉ service.cancelled) :
    (service.insertLive id request).Tracked := by
  constructor
  · rw [tickets_insertLive]
    exact tracked.tickets
  · rw [tickets_insertLive]
    exact tracked.ticketsMade
  · intro attempt member other held owned
    rcases owns_insertLive owned with old | ⟨rfl, rfl⟩
    · exact tracked.attempts attempt member other held old
    · exact attempts attempt member
  · exact tracked.abandoned
  · intro other completion held
    exact tracked.own other completion (holds_insertLive_iff.mp held)
  · intro other completion posted last held owned
    have before := holds_insertLive_iff.mp posted
    rcases owns_insertLive owned with old | ⟨rfl, rfl⟩
    · exact tracked.results other completion before last held old
    · intro about
      obtain ⟨same, current⟩ := results other completion before about
      exact ⟨same.symm, current⟩
  · exact tracked.handlesMade
  · intro name handle found other held owned
    rcases owns_insertLive owned with old | ⟨rfl, rfl⟩
    · exact tracked.handles name handle found other held old
    · exact handles name handle found
  · exact tracked.cancelledMade
  · intro other held owned _
    rw [tickets_insertLive]
    rcases owns_insertLive owned with old | ⟨rfl, rfl⟩
    · exact tracked.waiting other held old not_false
    · exact .inl ticket
  · intro other held owned _ set
    rcases owns_insertLive owned with old | ⟨rfl, rfl⟩
    · rcases tracked.woken other held old not_false set with posted | pending
      · exact .inl (holds_insertLive_iff.mpr posted)
      · exact .inr pending
    · exact absurd set unset

/-- An attempt of a request nobody owns is taken on. -/
theorem TrackedBut.addAttempt (tracked : service.Tracked) {attempt : Attempt}
    (vacant : service.Vacant attempt.request) (free : attempt.request ∉ service.tickets)
    (made : attempt.request.number ≤ service.requestsMade) (queued : attempt.phase = .queued) :
    ({ service with attempts := service.attempts ++ [attempt] } : Service).Tracked := by
  have perm : ({ service with attempts := service.attempts ++ [attempt] } : Service).tickets.Perm
      (attempt.request :: service.tickets) := by
    simp only [Service.tickets, List.map_append, List.append_assoc]
    exact List.perm_middle
  refine { tracked with
    tickets := perm.nodup_iff.mpr (List.nodup_cons.mpr ⟨free, tracked.tickets⟩)
    ticketsMade := ?_, attempts := ?_, abandoned := ?_, waiting := ?_ }
  · intro wanted member
    rcases List.mem_cons.mp (perm.mem_iff.mp member) with rfl | old
    · exact made
    · exact tracked.ticketsMade wanted old
  · intro other member id request owned about
    rcases List.mem_append.mp member with old | new
    · exact tracked.attempts other old id request owned about
    · rw [List.mem_singleton.mp new] at about
      exact absurd about (vacant.live id request owned)
  · intro other member phase
    rcases List.mem_append.mp member with old | new
    · exact tracked.abandoned other old phase
    · rw [List.mem_singleton.mp new, queued] at phase
      cases phase
  · intro id request owned spared
    rcases tracked.waiting id request owned spared with ticket | set
    · exact .inl (perm.mem_iff.mpr (List.mem_cons_of_mem _ ticket))
    · exact .inr set

theorem exists_origin? (known : id ∈ service.contextIds) :
    ∃ owner, service.origin? id = some owner := by
  obtain ⟨origin, member, same⟩ := mem_contextIds.mp known
  exact Option.isSome_iff_exists.mp
    (List.find?_isSome.mpr ⟨origin, member, decide_eq_true same⟩)

/-- A result that fits its request is posted, which then has a ticket. -/
theorem TrackedBut.postResult {completion : Completion}
    (tracked : service.TrackedBut fun _ wanted => wanted = completion.request)
    (contexts : service.contextIds.Nodup) (own : completion.origin = id)
    (fits : ∀ other request, service.Owns other request → request.id = completion.request →
      (other = id ∧ completion.attempt = request.attempts) ∧
        (request.id ∈ service.cancelled → service.Woken other request.id))
    (free : completion.request ∉ service.tickets)
    (made : completion.request.number ≤ service.requestsMade)
    (known : id ∈ service.contextIds) :
    (service.post id (.completed completion)).Tracked := by
  obtain ⟨owner, found⟩ := exists_origin? known
  have perm : (service.post id (.completed completion)).tickets.Perm
      (completion.request :: service.tickets) := tickets_post contexts found
  constructor
  · exact perm.nodup_iff.mpr (List.nodup_cons.mpr ⟨free, tracked.tickets⟩)
  · intro wanted member
    rcases List.mem_cons.mp (perm.mem_iff.mp member) with rfl | old
    · exact made
    · exact tracked.ticketsMade wanted old
  · intro attempt member other request owned
    exact tracked.attempts attempt member other request (owns_post_iff.mp owned)
  · exact tracked.abandoned
  · intro other held posted
    rcases holds_of_post posted with old | ⟨rfl, same⟩
    · exact tracked.own other held old
    · obtain rfl := Message.completed.inj same
      exact own
  · intro other held posted last request owned about
    have before := owns_post_iff.mp owned
    rcases holds_of_post posted with old | ⟨rfl, same⟩
    · exact tracked.results other held old last request before about
    · obtain rfl := Message.completed.inj same
      exact (fits last request before about).1
  · exact tracked.handlesMade
  · intro name handle given other request owned
    exact tracked.handles name handle given other request (owns_post_iff.mp owned)
  · exact tracked.cancelledMade
  · intro other request owned _
    by_cases here : request.id = completion.request
    · exact .inl (perm.mem_iff.mpr (here ▸ List.mem_cons_self))
    · rcases tracked.waiting other request (owns_post_iff.mp owned) here with ticket | set
      · exact .inl (perm.mem_iff.mpr (List.mem_cons_of_mem _ ticket))
      · exact .inr set
  · intro other request owned _ set
    have before := owns_post_iff.mp owned
    have told : service.Woken other request.id := by
      by_cases here : request.id = completion.request
      · exact (fits other request before here).2 set
      · exact tracked.woken other request before here set
    rcases told with posted | pending
    · exact .inl (posted.post _)
    · exact .inr pending

/-- A stronger invariant spares less. -/
theorem TrackedBut.spare (tracked : service.Tracked) : service.TrackedBut spared :=
  { tracked with
    waiting := fun id request owned _ => tracked.waiting id request owned not_false
    woken := fun id request owned _ => tracked.woken id request owned not_false }

/-- A request in hand whose next attempt is started is waited for again. -/
theorem TrackedBut.launched (tracked : service.Tracked) (contexts : service.contextIds.Nodup)
    {result : Service × Request} (launched : service.Launched origin request result)
    (vacant : service.Vacant request.id) (known : origin.id ∈ service.contextIds)
    (free : request.id ∉ service.tickets) (unset : request.id ∉ service.cancelled)
    (made : request.id.number ≤ service.requestsMade)
    (handles : ∀ name handle, service.handles.find? name = some handle →
      request.id = handle.request → handle.origin = origin.id) :
    (result.1.insertLive origin.id result.2).Tracked := by
  cases launched with
  | @accepted moment attempt started interlude still starts carries =>
      have before := tracked.interlude interlude
      have aside := vacant.within interlude.within
      rw [← interlude.tickets] at free
      rw [← interlude.requestsMade] at made
      rw [← interlude.handles] at handles
      rw [← still] at unset
      rw [← starts.id] at aside free unset made handles
      obtain ⟨unused, unposted⟩ := ne_of_not_mem_tickets free
      have taken :
          ({ moment with attempts := moment.attempts ++ [attempt] } : Service).Tracked := by
        rw [← carries.request] at aside free made
        exact before.addAttempt aside free made carries.queued
      refine taken.insertLive ?_ ?_ handles ?_ unset
      · intro other member about
        rcases List.mem_append.mp member with old | new
        · exact absurd about (unused other old)
        · obtain rfl := List.mem_singleton.mp new
          exact ⟨carries.origin, carries.number⟩
      · intro other completion posted about
        exact absurd about (unposted other completion posted)
      · exact mem_tickets.mpr (.inl ⟨attempt, List.mem_append_right _ List.mem_cons_self,
          carries.request⟩)
  | @refused moment started error interlude still starts =>
      have before := tracked.interlude interlude
      have aside := vacant.within interlude.within
      rw [← interlude.contextIds] at known contexts
      rw [← interlude.tickets] at free
      rw [← interlude.requestsMade] at made
      rw [← interlude.handles] at handles
      rw [← still] at unset
      rw [← starts.id] at aside free unset made handles
      obtain ⟨unused, unposted⟩ := ne_of_not_mem_tickets free
      have refusal : (moment.post origin.id (.completed
          ⟨started.id, origin.id, started.attempts, .error error, none⟩)).Tracked :=
        before.spare.postResult contexts rfl
          (fun other request owned about => absurd about (aside.live other request owned)) free made
          known
      refine refusal.insertLive ?_ ?_ handles ?_ unset
      · intro other member about
        exact absurd about (unused other member)
      · intro other completion posted about
        rcases holds_of_post posted with old | ⟨rfl, new⟩
        · exact absurd about (unposted other completion old)
        · obtain rfl := Message.completed.inj new
          exact ⟨rfl, rfl⟩
      · exact mem_tickets.mpr (.inr ⟨origin.id, _, holds_post_self known, rfl⟩)

/-- The message is taken out of the mailbox and the request it is about in hand. -/
theorem TrackedBut.taken (tracked : service.Tracked) (contexts : service.contextIds.Nodup)
    (found : service.origin? id = some owner) (oldest : owner.mailbox = message :: rest)
    (same : request.id = message.request) :
    ((service.leaveMessages id rest).removeLive id request.id).Tracked := by
  have left := tracked.leaveMessages contexts found oldest
  refine (left.removeLive request.id).tracked ?_
  rintro other held owned ⟨here, about⟩
  exact absurd (about.trans same.symm) ((owns_removeLive_iff.mp owned).2 here)

/-- The result that is handled was the only ticket of its request. -/
theorem TrackedBut.free (tracked : service.Tracked) (contexts : service.contextIds.Nodup)
    {completion : Completion} (found : service.origin? id = some owner)
    (oldest : owner.mailbox = .completed completion :: rest) :
    completion.request ∉ (service.leaveMessages id rest).tickets := by
  have perm : service.tickets.Perm
      (completion.request :: (service.leaveMessages id rest).tickets) :=
    tickets_leaveMessages contexts found oldest
  exact (List.nodup_cons.mp (perm.nodup_iff.mp tracked.tickets)).1

/-- Handling a message keeps every request waited for. -/
theorem TrackedBut.handled (tracked : service.Tracked) (orderly : service.Orderly)
    (found : service.origin? origin.id = some owner) (oldest : owner.mailbox = message :: rest)
    (handled : (service.leaveMessages origin.id rest).Handled origin message after) :
    after.Tracked := by
  have here : service.Holds origin.id message := holds_of_origin? found oldest
  have orderlyLeft : (service.leaveMessages origin.id rest).Orderly :=
    orderly.within (within_leaveMessages rest)
  cases handled with
  | dropped useless interlude =>
      have left := tracked.leaveMessages orderly.contexts found oldest
      refine (left.tracked ?_).interlude interlude
      rintro id request owned ⟨rfl, about⟩
      obtain ⟨held, live⟩ := Option.ne_none_iff_exists'.mp
        (liveRequest?_ne_none orderlyLeft.contexts owned)
      rw [about] at live
      obtain ⟨completion, rfl, wrong⟩ := useless held live
      obtain ⟨heldOwned, heldAbout⟩ := owns_of_liveRequest? live
      have current := (tracked.results origin.id completion here origin.id held
        (owns_leaveMessages_iff.mp heldOwned) heldAbout).2
      rcases wrong with elsewhere | older
      · exact absurd (tracked.own origin.id completion here) elsewhere
      · exact absurd current older
  | @ended request final _ moment marks _ live same _ interlude kept added closing =>
      obtain ⟨owned, about⟩ := owns_of_liveRequest? live
      have taken := tracked.taken orderly.contexts found oldest about
      have vacant := (orderlyLeft.vacant_removeLive owned).within interlude.within
      have within := (within_removeLive request.id).trans interlude.within
      have made := Nat.le_trans (orderlyLeft.made _ request owned) within.requestsMade
      exact ((taken.interlude interlude).retire vacant made kept added final).interlude closing
  | @relaunched request completion moment result _ live posted _ interlude unset launched closing =>
      subst posted
      obtain ⟨owned, about⟩ := owns_of_liveRequest? live
      have taken := tracked.taken orderly.contexts found oldest about
      have vacant := (orderlyLeft.vacant_removeLive owned).within interlude.within
      have within := (within_removeLive request.id).trans interlude.within
      have made := Nat.le_trans (orderlyLeft.made _ request owned) within.requestsMade
      have ids : moment.contextIds = (service.leaveMessages origin.id rest).contextIds :=
        interlude.contextIds.trans (contextIds_removeLive _)
      have contexts : moment.contextIds.Nodup := ids ▸ orderlyLeft.contexts
      have known : origin.id ∈ moment.contextIds := ids ▸ owned.mem_contextIds
      have free : request.id ∉ moment.tickets := by
        rw [interlude.tickets, tickets_removeLive, about]
        exact tracked.free orderly.contexts found oldest
      have named : ∀ name handle, moment.handles.find? name = some handle →
          request.id = handle.request → handle.origin = origin.id := by
        intro name handle given
        rw [interlude.handles] at given
        exact tracked.handles name handle given origin.id request (owns_leaveMessages_iff.mp owned)
      exact ((taken.interlude interlude).launched contexts launched vacant known free
        (of_decide_eq_false unset) made named).interlude closing

/-- An attempt passes to another phase. -/
theorem TrackedBut.setPhase (tracked : service.Tracked) {phase : Phase}
    (seen : phase = .abandoned → wanted ∈ service.cancelled) :
    (service.setPhase wanted phase).Tracked := by
  have same : ∀ {attempt}, attempt ∈ (service.setPhase wanted phase).attempts →
      ∃ earlier ∈ service.attempts, attempt = earlier ∨
        (earlier.request = wanted ∧ attempt = { earlier with phase }) := by
    intro attempt member
    obtain ⟨earlier, old, rfl⟩ := List.mem_map.mp member
    refine ⟨earlier, old, ?_⟩
    by_cases here : earlier.request = wanted
    · exact .inr ⟨here, if_pos here⟩
    · exact .inl (if_neg here)
  refine { tracked with
    tickets := ?_, ticketsMade := ?_, attempts := ?_, abandoned := ?_, waiting := ?_ }
  · rw [tickets_setPhase]
    exact tracked.tickets
  · rw [tickets_setPhase]
    exact tracked.ticketsMade
  · intro attempt member id request owned about
    obtain ⟨earlier, old, rfl | ⟨_, rfl⟩⟩ := same member
    · exact tracked.attempts attempt old id request owned about
    · exact tracked.attempts earlier old id request owned about
  · intro attempt member abandoned
    obtain ⟨earlier, old, rfl | ⟨here, rfl⟩⟩ := same member
    · exact tracked.abandoned attempt old abandoned
    · exact here.symm ▸ seen abandoned
  · intro id request owned spared
    rw [tickets_setPhase]
    exact tracked.waiting id request owned spared

/-- Forgetting an attempt spares its request. -/
theorem TrackedBut.dropAttempt (tracked : service.Tracked) (dropped : RequestId) :
    (service.dropAttempt dropped).TrackedBut fun _ wanted => wanted = dropped := by
  refine tracked.reduced (reduced_dropAttempt dropped)
    (tracked.tickets.sublist tickets_dropAttempt_sublist) ?_ ?_
  · intro id request owned kept
    rcases tracked.waiting id request owned not_false with ticket | set
    · exact .inl (mem_tickets_dropAttempt ticket kept)
    · exact .inr set
  · intro id request owned _
    exact tracked.woken id request owned not_false

/-- The result of an attempt is posted and the attempt forgotten. -/
theorem TrackedBut.finish (tracked : service.Tracked) (contexts : service.contextIds.Nodup)
    {attempt : Attempt} (member : attempt ∈ service.attempts)
    (found : service.origin? attempt.origin = some owner) (outcome : Outcome) :
    ((service.post attempt.origin (.completed (attempt.completion outcome))).dropAttempt
      attempt.request).Tracked := by
  have known : attempt.origin ∈ service.contextIds := mem_contextIds_of_origin? found
  have ticket : attempt.request ∈ service.tickets := mem_tickets.mpr (.inl ⟨attempt, member, rfl⟩)
  have free := not_mem_tickets_dropAttempt tracked.tickets member
  -- Posting the result before or after the attempt is forgotten is the same.
  have dropped : ((service.dropAttempt attempt.request).post attempt.origin
      (.completed (attempt.completion outcome))).Tracked := by
    refine (tracked.dropAttempt attempt.request).postResult contexts rfl ?_ free
      (tracked.ticketsMade _ ticket) known
    intro other request owned about
    obtain ⟨here, number⟩ := tracked.attempts attempt member other request owned about
    exact ⟨⟨here.symm, number⟩, tracked.woken other request owned not_false⟩
  exact dropped

/-- A step of a worker keeps every request waited for. -/
theorem TrackedBut.advanced (tracked : service.Tracked) (orderly : service.Orderly)
    (advanced : service.Advanced wanted after) : after.Tracked := by
  cases advanced with
  | waiting => exact tracked
  | @moved attempt moment phase member same passes =>
      refine (tracked.interlude passes.interlude).setPhase ?_
      rintro rfl
      cases passes with
      | abandoned _ set => exact same ▸ of_decide_eq_true set
  | @skipped attempt moment member same seen interlude =>
      have later := tracked.interlude interlude
      refine (later.dropAttempt wanted).tracked ?_
      intro id request owned about
      refine ⟨.inr (interlude.cancelled ?_), later.woken id request owned not_false⟩
      rcases seen with abandoned | set
      · rw [about, ← same]
        exact tracked.abandoned attempt member abandoned
      · exact about ▸ of_decide_eq_true set
  | @orphaned attempt moment member same gone interlude =>
      refine ((tracked.interlude interlude).dropAttempt wanted).tracked ?_
      intro id request dropped about
      have owned := interlude.owns_iff.mp dropped
      have here := (tracked.attempts attempt member id request owned (about.trans same.symm)).1
      obtain ⟨owner, found⟩ := exists_origin? owned.mem_contextIds
      rw [here, found] at gone
      exact absurd gone nofun
  | @posted attempt outcome moment owner member same checked interlude found =>
      subst same
      have contexts : moment.contextIds.Nodup := interlude.contextIds ▸ orderly.contexts
      exact (tracked.interlude interlude).finish contexts (interlude.attempts ▸ member) found
        outcome

/-- The second half of a cancellation posts what was still to be posted. -/
theorem TrackedBut.wake (tracked : service.Tracked) (handle : Handle) :
    (service.wake handle).Tracked := by
  have same : (service.wake handle).tickets = service.tickets :=
    tickets_of_notified rfl (origins_post_cancelRequested _ _ _)
  refine tracked.reduced (reduced_wake handle) (same ▸ tracked.tickets) ?_ ?_
  · intro id request owned _
    rw [same]
    exact tracked.waiting id request (owns_post_iff.mp owned) not_false
  · intro id request owned _ set
    have before : service.Owns id request := owns_post_iff.mp owned
    rcases tracked.woken id request before not_false set with posted | ⟨other, pending, about, here⟩
    · exact .inl (Holds.post posted _)
    · by_cases this : other = handle
      · subst this
        have known : other.origin ∈ service.contextIds := here ▸ before.mem_contextIds
        have posted : (service.wake other).Holds other.origin (.cancelRequested other.request) :=
          holds_post_self known
        rw [about, here] at posted
        exact .inl posted
      · exact .inr ⟨other, (List.mem_erase_of_ne this).mpr pending, about, here⟩

theorem TrackedBut.addOrigin (tracked : service.Tracked) (pool : Dispatcher) (config : Config) :
    (service.addOrigin pool config).1.Tracked := by
  have same : (service.addOrigin pool config).1.tickets = service.tickets := by
    simp [Service.tickets, Service.addOrigin, Origin.tickets]
  refine tracked.reduced (reduced_addOrigin pool config) (same ▸ tracked.tickets) ?_ ?_
  · intro id request owned _
    rw [same]
    exact tracked.waiting id request (owns_addOrigin_iff.mp owned) not_false
  · intro id request owned _ set
    rcases tracked.woken id request (owns_addOrigin_iff.mp owned) not_false set with
      posted | pending
    · exact .inl (holds_addOrigin_iff.mpr posted)
    · exact .inr pending

theorem TrackedBut.withoutOrigin (tracked : service.Tracked) :
    (service.withoutOrigin id).Tracked := by
  have fewer : (service.withoutOrigin id).tickets.Sublist service.tickets :=
    (List.filter_sublist.flatMap _).append_left _
  refine tracked.reduced reduced_withoutOrigin (tracked.tickets.sublist fewer) ?_ ?_
  · intro other request owned _
    obtain ⟨before, kept⟩ := owns_withoutOrigin_iff.mp owned
    rcases tracked.waiting other request before not_false with ticket | set
    · refine .inl (mem_tickets.mpr ?_)
      rcases mem_tickets.mp ticket with running | ⟨last, completion, held, about⟩
      · exact .inl running
      · -- The result lies with the origin that stays.
        obtain ⟨rfl, _⟩ := tracked.results last completion held other request before about.symm
        exact .inr ⟨other, completion, holds_withoutOrigin_iff.mpr ⟨held, kept⟩, about⟩
    · exact .inr set
  · intro other request owned _ set
    obtain ⟨before, kept⟩ := owns_withoutOrigin_iff.mp owned
    rcases tracked.woken other request before not_false set with posted | pending
    · exact .inl (holds_withoutOrigin_iff.mpr ⟨posted, kept⟩)
    · exact .inr pending

theorem TrackedBut.keepHandle (tracked : service.Tracked) (name : String) {handle : Handle}
    (made : handle.request.number ≤ service.requestsMade)
    (leads : ∀ id request, service.Owns id request → request.id = handle.request →
      handle.origin = id) :
    (service.keepHandle name handle).Tracked := by
  have cases : ∀ {other found}, (service.keepHandle name handle).handles.find? other = some found →
      found = handle ∨ service.handles.find? other = some found := by
    intro other found given
    simp only [Service.keepHandle, OrderedMap.find?_insert] at given
    split at given
    · exact .inl (Option.some.inj given).symm
    · exact .inr given
  refine { tracked with handlesMade := ?_, handles := ?_ }
  · intro other found given
    rcases cases given with rfl | old
    · exact made
    · exact tracked.handlesMade other found old
  · intro other found given
    rcases cases given with rfl | old
    · exact leads
    · exact tracked.handles other found old

/-- The request of a query that is submitted is waited for, and its handle leads to its origin. -/
theorem TrackedBut.submitted (tracked : service.Tracked) (orderly : service.Orderly)
    (found : service.origin? origin.id = some owner) {moment : Service} {query : Query}
    (interlude : Interlude [] service.countRequest moment) {result : Service × Request}
    (launched : moment.Launched origin
      (query.request ⟨service.requestsMade + 1⟩ origin.id) result) :
    ((result.1.insertLive origin.id result.2).keepHandle query.label
      ⟨⟨service.requestsMade + 1⟩, origin.id⟩).Tracked := by
  have beyond : ∀ {number : Nat}, number ≤ service.requestsMade →
      number ≠ service.requestsMade + 1 := fun le => Nat.ne_of_lt (Nat.lt_succ_of_le le)
  have counted : service.countRequest.Tracked := { tracked with
    ticketsMade := fun wanted member => Nat.le_succ_of_le (tracked.ticketsMade wanted member)
    handlesMade := fun name handle given =>
      Nat.le_succ_of_le (tracked.handlesMade name handle given)
    cancelledMade := fun wanted set => Nat.le_succ_of_le (tracked.cancelledMade wanted set) }
  have ids : moment.contextIds = service.contextIds := interlude.contextIds
  have contexts : moment.contextIds.Nodup := ids ▸ orderly.contexts
  have known : origin.id ∈ moment.contextIds :=
    ids ▸ mem_contextIds_of_origin? found
  have vacant := orderly.vacant_next.within interlude.within
  have free : (⟨service.requestsMade + 1⟩ : RequestId) ∉ moment.tickets := by
    rw [interlude.tickets]
    intro member
    exact beyond (tracked.ticketsMade _ member) rfl
  have unset : (⟨service.requestsMade + 1⟩ : RequestId) ∉ moment.cancelled := by
    obtain ⟨_, _, told⟩ := interlude.told
    intro set
    rcases told _ set with old | ⟨name, handle, given, same, _⟩
    · exact beyond (tracked.cancelledMade _ old) rfl
    · exact beyond (tracked.handlesMade name handle given) (congrArg RequestId.number same)
  have made := Nat.le_of_eq interlude.requestsMade.symm
  have named : ∀ name handle, moment.handles.find? name = some handle →
      (⟨service.requestsMade + 1⟩ : RequestId) = handle.request → handle.origin = origin.id := by
    intro name handle given same
    rw [interlude.handles] at given
    exact absurd (congrArg RequestId.number same.symm)
      (beyond (tracked.handlesMade name handle given))
  have inserted := (counted.interlude interlude).launched contexts launched vacant known free unset
    made named
  refine inserted.keepHandle query.label ?_ ?_
  · exact Nat.le_trans made launched.within.requestsMade
  · intro id request owned same
    rcases owns_insertLive owned with old | ⟨here, _⟩
    · exact absurd same (vacant.live id request (launched.owns_iff.mp old))
    · exact here.symm

/-- Every move keeps every request waited for. -/
theorem TrackedBut.moved (tracked : service.Tracked) (orderly : service.Orderly) {move : Move}
    (moved : service.Moved move after) : after.Tracked := by
  cases moved with
  | interlude interlude => exact tracked.interlude interlude
  | interposed => exact { tracked with }
  | woken _ => exact tracked.wake _
  | advanced advanced => exact tracked.advanced orderly advanced
  | @processed id owner message rest _ found oldest handled =>
      obtain rfl := origin?_id found
      exact tracked.handled orderly found oldest handled
  | @submitted id query owner moment result found interlude launched =>
      obtain rfl := origin?_id found
      exact tracked.submitted orderly found interlude launched
  | originAdded => exact tracked.addOrigin _ _
  | originDropped interlude => exact tracked.withoutOrigin.interlude interlude

theorem tracked_of_reaches {permitted : Service → Move → Prop} {schema : TableSchema}
    (run : (Service.new schema).Reaches permitted service) : service.Tracked := by
  induction run with
  | start => exact tracked_new schema
  | move move earlier _ moved inductionHypothesis =>
      have orderly := orderly_of_reaches earlier
      exact inductionHypothesis.moved orderly (moved_of_after? orderly.ready moved)

/-- What a live request is waited for with. -/
inductive Outstanding (service : Service) (id : ContextId) (request : Request) : Prop
  | underWay {attempt} (member : attempt ∈ service.attempts)
      (about : attempt.request = request.id) (origin : attempt.origin = id)
      (current : attempt.number = request.attempts)
  | posted {completion} (held : service.Holds id (.completed completion))
      (about : completion.request = request.id) (current : completion.attempt = request.attempts)
  | cancelled (set : request.id ∈ service.cancelled) (woken : service.Woken id request.id)

theorem TrackedBut.outstanding (tracked : service.Tracked) (owned : service.Owns id request) :
    service.Outstanding id request := by
  rcases tracked.waiting id request owned not_false with ticket | set
  · rcases mem_tickets.mp ticket with ⟨attempt, member, about⟩ | ⟨other, completion, held, about⟩
    · obtain ⟨origin, current⟩ := tracked.attempts attempt member id request owned about.symm
      exact .underWay member about origin current
    · obtain ⟨rfl, current⟩ := tracked.results other completion held id request owned about.symm
      exact .posted held about current
  · exact .cancelled set (tracked.woken id request owned not_false set)

theorem liveRequests_eq_zero (nothing : ∀ request, ¬ service.Owns id request) :
    service.liveRequests id = 0 := by
  cases found : service.origin? id with
  | none => simp [liveRequests, found]
  | some owner =>
      have empty : owner.live = [] := by
        rw [List.eq_nil_iff_forall_not_mem]
        intro request held
        exact nothing request (owns_of_origin? found held)
      simp [liveRequests, found, empty]

theorem runUntilIdle_of_idle (idle : service.liveRequests id = 0) (bound : Nat) :
    runUntilIdle id bound service = service := by
  cases bound with
  | zero => rfl
  | succ bound => rw [runUntilIdle, if_pos idle]

/-- No request is ever lost.  Every request an origin owns is running, and its attempt is under
way, or its result is in the mailbox, or it is cancelled and its origin will be woken.  Once nothing
of the kind is left for an origin it has no live requests, and a run until it is idle returns. -/
theorem no_request_lost {permitted : Service → Move → Prop} {schema : TableSchema}
    (run : (Service.new schema).Reaches permitted service) :
    (∀ id request, service.Owns id request →
      request.state = .running ∧ service.Outstanding id request) ∧
    ∀ id, (∀ message, ¬ service.Holds id message) →
      (∀ attempt ∈ service.attempts, attempt.origin ≠ id) →
      (∀ handle ∈ service.wakeUps, handle.origin ≠ id) →
        service.liveRequests id = 0 ∧ ∀ bound, runUntilIdle id bound service = service := by
  have orderly := orderly_of_reaches run
  have tracked := tracked_of_reaches run
  constructor
  · intro id request owned
    exact ⟨(orderly.ready id request owned).running, tracked.outstanding owned⟩
  · intro id empty finished quiet
    have idle : service.liveRequests id = 0 := by
      apply liveRequests_eq_zero
      intro request owned
      cases tracked.outstanding owned with
      | underWay member _ origin _ => exact finished _ member origin
      | posted held _ _ => exact empty _ held
      | cancelled _ woken =>
          rcases woken with posted | ⟨handle, pending, _, here⟩
          · exact empty _ posted
          · exact quiet handle pending here
    exact ⟨idle, runUntilIdle_of_idle idle⟩

/-- The result of one of two queries is posted while the attempt of the cancelled one still waits;
once both are dealt with nothing is live. -/
theorem no_request_lost_of_two : ∃ waiting last request,
    (Service.new itemsSchema).afterAll? twoQueries = some waiting ∧ waiting.Owns ⟨1⟩ request ∧
    request.state = .running ∧ waiting.Outstanding ⟨1⟩ request ∧
    waiting.afterAll? [.process ⟨1⟩, .process ⟨1⟩, .advance ⟨2⟩, .advance ⟨2⟩, .advance ⟨2⟩] =
      some last ∧
    last.liveRequests ⟨1⟩ = 0 ∧ ∀ bound, runUntilIdle ⟨1⟩ bound last = last := by
  have sample : ∃ waiting last owner request,
      (Service.new itemsSchema).afterAll? twoQueries = some waiting ∧
      waiting.origin? ⟨1⟩ = some owner ∧ owner.live.head? = some request ∧
      waiting.afterAll? [.process ⟨1⟩, .process ⟨1⟩, .advance ⟨2⟩, .advance ⟨2⟩, .advance ⟨2⟩] =
        some last ∧
      last.origins.all (fun origin => origin.mailbox.isEmpty) = true ∧ last.attempts = [] ∧
      last.wakeUps = [] :=
    ⟨_, _, _, _, rfl, rfl, rfl, rfl, rfl, rfl, rfl⟩
  obtain ⟨waiting, last, owner, request, moved, found, first, further, empty, finished, quiet⟩ :=
    sample
  have run := reaches_of_moves moved
  have owned : waiting.Owns ⟨1⟩ request :=
    owns_of_origin? found (List.mem_of_head? first)
  obtain ⟨running, outstanding⟩ := (no_request_lost run).1 ⟨1⟩ request owned
  have idle := (no_request_lost (run.trans (reaches_of_moves further))).2 ⟨1⟩
    (by
      rintro message ⟨origin, member, _, held⟩
      have nothing := List.all_eq_true.mp empty origin member
      exact List.ne_nil_of_mem held (List.isEmpty_iff.mp nothing))
    (by simp [finished]) (by simp [quiet])
  exact ⟨waiting, last, request, moved, owned, running, outstanding, further, idle⟩

end SnapshotQuery.Service
