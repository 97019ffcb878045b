import SnapshotQuery.Proofs.Service.Identity

/-!
# Tickets

A request has a ticket while an attempt of it is under way or its result lies in
a mailbox.  Posting a result turns the one into the other, and handling it uses
the ticket up.
-/

namespace SnapshotQuery

/-- The request whose result the message is. -/
def Message.resultOf? : Message → Option RequestId
  | completed completion => some completion.request
  | cancelRequested _ => none

def Origin.tickets (origin : Origin) : List RequestId :=
  origin.mailbox.filterMap Message.resultOf?

namespace Service

/-- The requests with an attempt under way or a result posted. -/
def tickets (service : Service) : List RequestId :=
  service.attempts.map (fun attempt => attempt.request) ++ service.origins.flatMap Origin.tickets

variable {calls : List Observation} {service before after : Service} {id other : ContextId}
  {request : Request} {owner : Origin} {message : Message} {wanted : RequestId}

theorem mem_tickets : wanted ∈ service.tickets ↔
    (∃ attempt ∈ service.attempts, attempt.request = wanted) ∨
      ∃ id completion, service.Holds id (.completed completion) ∧ completion.request = wanted := by
  simp only [tickets, List.mem_append, List.mem_map, List.mem_flatMap, Origin.tickets,
    List.mem_filterMap]
  apply or_congr_right
  constructor
  · rintro ⟨origin, member, message, posted, result⟩
    cases message with
    | completed completion =>
        exact ⟨origin.settings.id, completion, ⟨origin, member, rfl, posted⟩,
          Option.some.inj result⟩
    | cancelRequested _ => exact absurd result nofun
  · rintro ⟨id, completion, ⟨origin, member, _, posted⟩, rfl⟩
    exact ⟨origin, member, .completed completion, posted, rfl⟩

/-- Without a ticket there is neither an attempt nor a result. -/
theorem ne_of_not_mem_tickets (free : wanted ∉ service.tickets) :
    (∀ attempt ∈ service.attempts, wanted ≠ attempt.request) ∧
      ∀ id completion, service.Holds id (.completed completion) → wanted ≠ completion.request := by
  constructor
  · intro attempt member same
    exact free (mem_tickets.mpr (.inl ⟨attempt, member, same.symm⟩))
  · intro id completion posted same
    exact free (mem_tickets.mpr (.inr ⟨id, completion, posted, same.symm⟩))

theorem eq_of_origin? (contexts : service.contextIds.Nodup)
    (found : service.origin? id = some owner) {origin : Origin} (member : origin ∈ service.origins)
    (same : origin.settings.id = id) : origin = owner :=
  List.inj_on_of_nodup_map contexts member (List.mem_of_find?_eq_some found)
    (same.trans (origin?_id found).symm)

/-- One origin stands for itself among the others when ids are kept apart. -/
theorem origins_split (contexts : service.contextIds.Nodup)
    (found : service.origin? id = some owner) :
    ∃ front back, service.origins = front ++ owner :: back ∧
      ∀ change, (service.updateOrigin id change).origins = front ++ change owner :: back := by
  obtain rfl := origin?_id found
  obtain ⟨front, back, split⟩ := List.append_of_mem (List.mem_of_find?_eq_some found)
  refine ⟨front, back, split, ?_⟩
  intro change
  simp only [contextIds, split, List.map_append, List.map_cons] at contexts
  obtain ⟨_, behind, apart⟩ := List.nodup_append.mp contexts
  have before : ∀ origin ∈ front, origin.settings.id ≠ owner.settings.id := by
    intro origin member
    exact apart _ (List.mem_map_of_mem member) _ List.mem_cons_self
  have beyond : ∀ origin ∈ back, origin.settings.id ≠ owner.settings.id := by
    intro origin member same
    exact (List.nodup_cons.mp behind).1 (same ▸ List.mem_map_of_mem member)
  have unchanged : ∀ origins : List Origin,
      (∀ origin ∈ origins, origin.settings.id ≠ owner.settings.id) →
      origins.map (fun origin =>
        if origin.settings.id = owner.settings.id then change origin else origin) = origins := by
    intro origins others
    rw [List.map_congr_left fun origin member => if_neg (others origin member)]
    exact List.map_id' origins
  simp only [updateOrigin, split, List.map_append, List.map_cons, if_true, unchanged front before,
    unchanged back beyond]

/-- Wake-ups are no tickets. -/
theorem tickets_of_notified {wakes : ContextId → List RequestId}
    (attempts : after.attempts = before.attempts)
    (origins : after.origins = before.origins.map (Origin.notified wakes)) :
    after.tickets = before.tickets := by
  have same : ∀ origin : Origin, (origin.notified wakes).tickets = origin.tickets := by
    intro origin
    simp [Origin.tickets, Origin.notified, Message.resultOf?]
  simp only [tickets, attempts, origins, List.flatMap_map, same]

theorem Interlude.tickets (interlude : Interlude calls before after) :
    after.tickets = before.tickets := by
  obtain ⟨wakes, origins, _⟩ := interlude.told
  exact tickets_of_notified interlude.attempts origins

/-- The tickets in the mailbox of one origin beside all others. -/
theorem tickets_split (contexts : service.contextIds.Nodup)
    (found : service.origin? id = some owner) :
    ∃ others, service.tickets.Perm (owner.tickets ++ others) ∧
      ∀ change,
        (service.updateOrigin id change).tickets.Perm ((change owner).tickets ++ others) := by
  obtain ⟨front, back, split, changed⟩ := origins_split contexts found
  have outside : ∀ middle : List RequestId,
      (service.attempts.map (fun attempt => attempt.request) ++
        (front.flatMap Origin.tickets ++ (middle ++ back.flatMap Origin.tickets))).Perm
      (middle ++ (service.attempts.map (fun attempt => attempt.request) ++
        (front.flatMap Origin.tickets ++ back.flatMap Origin.tickets))) := by
    intro middle
    exact ((List.perm_append_comm_assoc _ middle _).append_left _).trans
      (List.perm_append_comm_assoc _ middle _)
  refine ⟨service.attempts.map (fun attempt => attempt.request) ++
    (front.flatMap Origin.tickets ++ back.flatMap Origin.tickets), ?_, ?_⟩
  · simp only [tickets, split, List.flatMap_append, List.flatMap_cons]
    exact outside owner.tickets
  · intro change
    simp only [tickets, changed, List.flatMap_append, List.flatMap_cons]
    exact outside (change owner).tickets

/-- Handling a message uses its ticket up. -/
theorem tickets_leaveMessages (contexts : service.contextIds.Nodup)
    (found : service.origin? id = some owner) {rest : List Message}
    (oldest : owner.mailbox = message :: rest) :
    service.tickets.Perm (message.resultOf?.toList ++ (service.leaveMessages id rest).tickets) := by
  obtain ⟨others, split, changed⟩ := tickets_split contexts found
  have left := changed fun origin => { origin with mailbox := rest }
  have own : owner.tickets =
      message.resultOf?.toList ++ Origin.tickets { owner with mailbox := rest } := by
    simp only [Origin.tickets, oldest]
    cases result : message.resultOf? <;> simp [result]
  rw [own, List.append_assoc] at split
  exact split.trans (left.symm.append_left _)

/-- Posting a result adds a ticket. -/
theorem tickets_post (contexts : service.contextIds.Nodup)
    (found : service.origin? id = some owner) :
    (service.post id message).tickets.Perm (message.resultOf?.toList ++ service.tickets) := by
  obtain ⟨others, split, changed⟩ := tickets_split contexts found
  have posted := changed fun origin => { origin with mailbox := origin.mailbox ++ [message] }
  have own : Origin.tickets { owner with mailbox := owner.mailbox ++ [message] } =
      owner.tickets ++ message.resultOf?.toList := by
    simp only [Origin.tickets, List.filterMap_append]
    cases result : message.resultOf? <;> simp [result]
  rw [own, List.append_assoc] at posted
  exact posted.trans ((List.perm_append_comm_assoc _ _ _).trans (split.symm.append_left _))

theorem tickets_updateOrigin {change : Origin → Origin}
    (mailbox : ∀ origin, (change origin).mailbox = origin.mailbox) :
    (service.updateOrigin id change).tickets = service.tickets := by
  simp only [tickets, updateOrigin, List.flatMap_map]
  congr 2
  funext origin
  split <;> simp [Origin.tickets, mailbox]

theorem tickets_removeLive (removed : RequestId) :
    (service.removeLive id removed).tickets = service.tickets :=
  tickets_updateOrigin fun _ => rfl

theorem tickets_insertLive (added : Request) :
    (service.insertLive id added).tickets = service.tickets :=
  tickets_updateOrigin fun _ => rfl

theorem tickets_setPhase (phase : Phase) :
    (service.setPhase wanted phase).tickets = service.tickets := by
  simp only [tickets, setPhase, List.map_map]
  congr 2
  funext attempt
  simp only [Function.comp_apply]
  split <;> rfl

theorem tickets_dropAttempt_sublist :
    (service.dropAttempt wanted).tickets.Sublist service.tickets :=
  (List.filter_sublist.map _).append_right _

theorem mem_tickets_dropAttempt (ticket : request.id ∈ service.tickets)
    (kept : request.id ≠ wanted) : request.id ∈ (service.dropAttempt wanted).tickets := by
  rcases mem_tickets.mp ticket with ⟨attempt, member, same⟩ | posted
  · refine mem_tickets.mpr (.inl ⟨attempt, ?_, same⟩)
    exact List.mem_filter.mpr ⟨member, decide_eq_true (same ▸ kept)⟩
  · exact mem_tickets.mpr (.inr posted)

/-- A forgotten attempt was the only ticket of its request. -/
theorem not_mem_tickets_dropAttempt (distinct : service.tickets.Nodup) {attempt : Attempt}
    (member : attempt ∈ service.attempts) :
    attempt.request ∉ (service.dropAttempt attempt.request).tickets := by
  intro ticket
  rcases List.mem_append.mp ticket with running | posted
  · obtain ⟨other, kept, same⟩ := List.mem_map.mp running
    exact of_decide_eq_true (List.mem_filter.mp kept).2 same
  · exact (List.nodup_append.mp distinct).2.2 _ (List.mem_map_of_mem member) _ posted rfl

theorem holds_post_self (known : id ∈ service.contextIds) :
    (service.post id message).Holds id message := by
  obtain ⟨origin, member, same⟩ := mem_contextIds.mp known
  unfold Holds post
  rw [exists_updateOrigin]
  refine ⟨origin, member, ?_⟩
  rw [if_pos same]
  exact ⟨same, List.mem_append_right _ List.mem_cons_self⟩

theorem Holds.post (holds : service.Holds other message) (added : Message) :
    (service.post id added).Holds other message := by
  obtain ⟨origin, member, same, held⟩ := holds
  unfold Holds Service.post
  rw [exists_updateOrigin]
  refine ⟨origin, member, ?_⟩
  split
  · exact ⟨same, List.mem_append_left _ held⟩
  · exact ⟨same, held⟩

theorem holds_of_post {added : Message} (holds : (service.post id added).Holds other message) :
    service.Holds other message ∨ (other = id ∧ message = added) := by
  unfold Holds post at holds
  rw [exists_updateOrigin] at holds
  obtain ⟨origin, member, same, held⟩ := holds
  by_cases here : origin.settings.id = id
  · rw [if_pos here] at same held
    rcases List.mem_append.mp held with old | new
    · exact .inl ⟨origin, member, same, old⟩
    · exact .inr ⟨same.symm.trans here, List.mem_singleton.mp new⟩
  · rw [if_neg here] at same held
    exact .inl ⟨origin, member, same, held⟩

theorem holds_removeLive_iff {removed : RequestId} :
    (service.removeLive id removed).Holds other message ↔ service.Holds other message := by
  unfold Holds removeLive
  rw [exists_updateOrigin]
  apply exists_congr
  intro origin
  split <;> simp

variable {oldest : Message} {rest : List Message}

theorem holds_of_leaveMessages (contexts : service.contextIds.Nodup)
    (found : service.origin? id = some owner) (mailbox : owner.mailbox = oldest :: rest)
    (holds : (service.leaveMessages id rest).Holds other message) :
    service.Holds other message := by
  unfold Holds leaveMessages at holds
  rw [exists_updateOrigin] at holds
  obtain ⟨origin, member, same, held⟩ := holds
  by_cases here : origin.settings.id = id
  · rw [if_pos here] at same held
    obtain rfl := eq_of_origin? contexts found member here
    exact ⟨origin, member, same, mailbox ▸ List.mem_cons_of_mem _ held⟩
  · rw [if_neg here] at same held
    exact ⟨origin, member, same, held⟩

theorem Holds.leaveMessages (holds : service.Holds other message)
    (contexts : service.contextIds.Nodup) (found : service.origin? id = some owner)
    (mailbox : owner.mailbox = oldest :: rest) :
    (service.leaveMessages id rest).Holds other message ∨ (other = id ∧ message = oldest) := by
  obtain ⟨origin, member, same, held⟩ := holds
  unfold Holds Service.leaveMessages
  rw [exists_updateOrigin]
  by_cases here : origin.settings.id = id
  · obtain rfl := eq_of_origin? contexts found member here
    rcases List.mem_cons.mp (mailbox ▸ held) with first | later
    · exact .inr ⟨same.symm.trans here, first⟩
    · refine .inl ⟨origin, member, ?_⟩
      rw [if_pos here]
      exact ⟨same, later⟩
  · refine .inl ⟨origin, member, ?_⟩
    rw [if_neg here]
    exact ⟨same, held⟩

/-- Nothing is owned under an id that no live request of the origin has. -/
theorem liveRequest?_ne_none (contexts : service.contextIds.Nodup)
    (owned : service.Owns id request) : service.liveRequest? id request.id ≠ none := by
  obtain ⟨origin, member, same, held⟩ := owned
  intro nothing
  cases found : service.origin? id with
  | none =>
      have others := List.find?_eq_none.mp found origin member
      exact others (decide_eq_true same)
  | some owner =>
      obtain rfl := eq_of_origin? contexts found member same
      simp only [liveRequest?, found, Option.bind_some, List.find?_eq_none] at nothing
      exact nothing request held (decide_eq_true rfl)

/-- Nothing is owned, under way or posted that was not before; wake-ups do not count. -/
structure Reduced (after before : Service) : Prop where
  requestsMade : after.requestsMade = before.requestsMade
  handles : after.handles = before.handles
  cancelled : after.cancelled = before.cancelled
  attempts : after.attempts ⊆ before.attempts
  owns : ∀ id request, after.Owns id request → before.Owns id request
  holds : ∀ id completion, after.Holds id (.completed completion) →
    before.Holds id (.completed completion)

theorem Reduced.tickets_subset (reduced : after.Reduced before) :
    after.tickets ⊆ before.tickets := by
  intro wanted ticket
  rcases mem_tickets.mp ticket with ⟨attempt, member, same⟩ | ⟨id, completion, held, same⟩
  · exact mem_tickets.mpr (.inl ⟨attempt, reduced.attempts member, same⟩)
  · exact mem_tickets.mpr (.inr ⟨id, completion, reduced.holds id completion held, same⟩)

theorem reduced_leaveMessages (contexts : service.contextIds.Nodup)
    (found : service.origin? id = some owner) (mailbox : owner.mailbox = oldest :: rest) :
    (service.leaveMessages id rest).Reduced service :=
  ⟨rfl, rfl, rfl, List.Subset.refl _, fun _ _ => owns_leaveMessages_iff.mp,
    fun _ _ => holds_of_leaveMessages contexts found mailbox⟩

theorem reduced_removeLive (removed : RequestId) :
    (service.removeLive id removed).Reduced service :=
  ⟨rfl, rfl, rfl, List.Subset.refl _, fun _ _ owned => (owns_removeLive_iff.mp owned).1,
    fun _ _ => holds_removeLive_iff.mp⟩

theorem reduced_dropAttempt (dropped : RequestId) :
    (service.dropAttempt dropped).Reduced service :=
  ⟨rfl, rfl, rfl, List.filter_sublist.subset, fun _ _ => id, fun _ _ => id⟩

theorem reduced_wake (handle : Handle) : (service.wake handle).Reduced service := by
  refine ⟨rfl, rfl, rfl, List.Subset.refl _, fun _ _ => owns_post_iff.mp, ?_⟩
  intro id completion held
  rcases holds_of_post held with old | ⟨_, other⟩
  · exact old
  · exact absurd other nofun

theorem reduced_addOrigin (pool : Dispatcher) (config : Config) :
    (service.addOrigin pool config).1.Reduced service :=
  ⟨rfl, rfl, rfl, List.Subset.refl _, fun _ _ => owns_addOrigin_iff.mp,
    fun _ _ => holds_addOrigin_iff.mp⟩

theorem reduced_withoutOrigin : (service.withoutOrigin id).Reduced service :=
  ⟨rfl, rfl, rfl, List.Subset.refl _, fun _ _ owned => (owns_withoutOrigin_iff.mp owned).1,
    fun _ _ held => (holds_withoutOrigin_iff.mp held).1⟩

end Service

end SnapshotQuery
