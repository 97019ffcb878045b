import SnapshotQuery.Proofs.Service.Custody
import SnapshotQuery.Proofs.Service.Exchange
import SnapshotQuery.Proofs.Service.Outcome

/-!
# What moves leave alone

Versions, tokens, outcomes and calls of callbacks only add up.  A request, its
attempt and its result stay as they are while a move is about another request.
-/

namespace SnapshotQuery.Service

variable {calls : List Observation} {service before after : Service} {id other : ContextId}
  {request : Request} {origin : OriginSettings} {owner : Origin} {message : Message}
  {rest : List Message} {wanted removed : RequestId}

section Growth

/-- What only adds up. -/
structure Grows (before after : Service) : Prop where
  store : before.store.Precedes after.store
  cancelled : before.cancelled ⊆ after.cancelled
  ended : before.ended <:+ after.ended
  callbacks : before.callbacks <:+ after.callbacks
  faults : ∀ method, after.faults method ⊆ before.faults method

/-- What growth is about. -/
def records (service : Service) :=
  (service.store, service.cancelled, service.ended, service.observations, service.faults)

theorem grows_of_records (same : after.records = before.records) : before.Grows after := by
  simp only [records, Prod.mk.injEq] at same
  obtain ⟨store, cancelled, ended, observations, faults⟩ := same
  refine ⟨store ▸ .refl _, cancelled ▸ List.Subset.refl _, ended ▸ List.suffix_rfl, ?_,
    fun _ => faults ▸ List.Subset.refl _⟩
  rw [callbacks, callbacks, observations]

theorem Grows.refl (service : Service) : service.Grows service :=
  grows_of_records rfl

theorem Grows.trans {first middle last : Service} (earlier : first.Grows middle)
    (later : middle.Grows last) : first.Grows last where
  store := earlier.store.trans later.store
  cancelled := List.Subset.trans earlier.cancelled later.cancelled
  ended := earlier.ended.trans later.ended
  callbacks := earlier.callbacks.trans later.callbacks
  faults method := List.Subset.trans (later.faults method) (earlier.faults method)

theorem Interlude.grows (interlude : Interlude calls before after) : before.Grows after where
  store := interlude.store
  cancelled := interlude.cancelled
  ended := interlude.ended ▸ List.suffix_rfl
  callbacks := interlude.callbacks ▸ List.suffix_append _ _
  faults := interlude.faults

theorem Launched.grows {result : Service × Request}
    (launched : service.Launched origin request result) : service.Grows result.1 := by
  cases launched with
  | accepted interlude _ _ _ => exact interlude.grows.trans (grows_of_records rfl)
  | refused interlude _ _ => exact interlude.grows.trans (grows_of_records rfl)

theorem Handled.grows (handled : service.Handled origin message after) : service.Grows after := by
  have taken : ∀ id, service.Grows (service.removeLive origin.id id) :=
    fun _ => grows_of_records rfl
  cases handled with
  | dropped _ interlude => exact interlude.grows
  | @ended _ final _ moment marks _ _ _ _ interlude kept _ closing =>
      have retired : moment.Grows (moment.retire final marks) :=
        ⟨.refl _, kept, List.suffix_cons _ _, List.suffix_rfl, fun _ => List.Subset.refl _⟩
      exact (((taken _).trans interlude.grows).trans retired).trans closing.grows
  | @relaunched _ _ _ result _ _ _ _ interlude _ launched closing =>
      have inserted : result.1.Grows (result.1.insertLive origin.id result.2) :=
        grows_of_records rfl
      exact ((((taken _).trans interlude.grows).trans launched.grows).trans inserted).trans
        closing.grows

theorem Advanced.grows (advanced : service.Advanced wanted after) : service.Grows after := by
  cases advanced with
  | waiting => exact .refl service
  | moved _ _ passes => exact passes.interlude.grows.trans (grows_of_records rfl)
  | skipped _ _ _ interlude => exact interlude.grows.trans (grows_of_records rfl)
  | orphaned _ _ _ interlude => exact interlude.grows.trans (grows_of_records rfl)
  | posted _ _ _ interlude _ => exact interlude.grows.trans (grows_of_records rfl)

theorem Moved.grows {move : Move} (moved : service.Moved move after) :
    service.Grows after ∨ ∃ faults, move = .interpose faults ∧ after = { service with faults } := by
  cases moved with
  | interlude interlude => exact .inl interlude.grows
  | interposed => exact .inr ⟨_, rfl, rfl⟩
  | woken _ => exact .inl (grows_of_records rfl)
  | advanced advanced => exact .inl advanced.grows
  | @processed id _ _ rest _ _ _ handled =>
      have left : service.Grows (service.leaveMessages id rest) := grows_of_records rfl
      exact .inl (left.trans handled.grows)
  | @submitted _ _ _ _ result _ interlude launched =>
      have counted : service.Grows service.countRequest := grows_of_records rfl
      have kept : ∀ id label handle,
          result.1.Grows ((result.1.insertLive id result.2).keepHandle label handle) :=
        fun _ _ _ => grows_of_records rfl
      exact .inl (((counted.trans interlude.grows).trans launched.grows).trans (kept _ _ _))
  | originAdded => exact .inl (grows_of_records rfl)
  | @originDropped id _ interlude =>
      have left : service.Grows (service.withoutOrigin id) := grows_of_records rfl
      exact .inl (left.trans interlude.grows)

/-- A call of a callback was made for good. -/
theorem Moved.noticed {move : Move} (moved : service.Moved move after) {call : Observation}
    (made : call ∈ service.observations) (calls : call.isCallback = true) :
    call ∈ after.observations := by
  rcases moved.grows with grows | ⟨_, _, rfl⟩
  · exact (List.mem_filter.mp (grows.callbacks.subset (List.mem_filter.mpr ⟨made, calls⟩))).1
  · exact made

end Growth

section Bystanders

/-- Nothing about a request of an origin is taken away. -/
structure Spares (id : ContextId) (wanted : RequestId) (before after : Service) : Prop where
  owns : ∀ request, request.id = wanted → before.Owns id request → after.Owns id request
  attempts : ∀ attempt ∈ before.attempts, attempt.request = wanted → attempt ∈ after.attempts
  holds : ∀ completion, completion.request = wanted → before.Holds id (.completed completion) →
    after.Holds id (.completed completion)
  settings : ∀ settings ∈ before.originSettings, settings.id = id →
    settings ∈ after.originSettings

theorem Spares.refl (service : Service) : Spares id wanted service service :=
  ⟨fun _ _ owned => owned, fun _ member _ => member, fun _ _ held => held,
    fun _ member _ => member⟩

theorem Spares.trans {first middle last : Service} (earlier : Spares id wanted first middle)
    (later : Spares id wanted middle last) : Spares id wanted first last where
  owns request about owned := later.owns request about (earlier.owns request about owned)
  attempts attempt member about :=
    later.attempts attempt (earlier.attempts attempt member about) about
  holds completion about held := later.holds completion about (earlier.holds completion about held)
  settings settings member same :=
    later.settings settings (earlier.settings settings member same) same

theorem Interlude.spares (interlude : Interlude calls before after) :
    Spares id wanted before after where
  owns _ _ := interlude.owns_iff.mpr
  attempts attempt member _ := interlude.attempts ▸ member
  holds _ _ := interlude.holds
  settings settings member _ := by
    obtain ⟨wakes, origins, _⟩ := interlude.told
    simpa [originSettings, origins, Origin.notified] using member

theorem spares_updateOrigin {change : Origin → Origin}
    (settings : ∀ origin, (change origin).settings = origin.settings)
    (owns : ∀ request, request.id = wanted → service.Owns id request →
      (service.updateOrigin other change).Owns id request)
    (holds : ∀ completion, completion.request = wanted → service.Holds id (.completed completion) →
      (service.updateOrigin other change).Holds id (.completed completion)) :
    Spares id wanted service (service.updateOrigin other change) where
  owns := owns
  attempts _ member _ := member
  holds := holds
  settings _ member _ := by
    rw [service.originSettings_updateOrigin other settings]
    exact member

theorem spares_post (added : Message) : Spares id wanted service (service.post other added) :=
  spares_updateOrigin (fun _ => rfl) (fun _ _ => owns_post_iff.mpr) fun _ _ held => held.post added

theorem spares_insertLive (added : Request) :
    Spares id wanted service (service.insertLive other added) :=
  spares_updateOrigin (fun _ => rfl) (fun _ _ owned => owned.insertLive added)
    fun _ _ => holds_insertLive_iff.mpr

theorem spares_removeLive (differs : wanted ≠ removed) :
    Spares id wanted service (service.removeLive other removed) :=
  spares_updateOrigin (fun _ => rfl) (fun _ about owned => owned.removeLive (about ▸ differs))
    fun _ _ => holds_removeLive_iff.mpr

theorem spares_leaveMessages (contexts : service.contextIds.Nodup)
    (found : service.origin? other = some owner) (oldest : owner.mailbox = message :: rest)
    (elsewhere : ∀ completion, message = .completed completion → completion.request ≠ wanted) :
    Spares id wanted service (service.leaveMessages other rest) := by
  refine spares_updateOrigin (fun _ => rfl) (fun _ _ => owns_leaveMessages_iff.mpr) ?_
  intro completion about held
  rcases held.leaveMessages contexts found oldest with left | ⟨_, taken⟩
  · exact left
  · exact absurd about (elsewhere completion taken.symm)

theorem spares_setPhase (differs : wanted ≠ removed) (phase : Phase) :
    Spares id wanted service (service.setPhase removed phase) := by
  refine ⟨fun _ _ owned => owned, ?_, fun _ _ held => held, fun _ member _ => member⟩
  intro attempt member about
  have kept : attempt.request ≠ removed := about ▸ differs
  exact List.mem_map.mpr ⟨attempt, member, if_neg kept⟩

theorem spares_dropAttempt (differs : wanted ≠ removed) :
    Spares id wanted service (service.dropAttempt removed) := by
  refine ⟨fun _ _ owned => owned, ?_, fun _ _ held => held, fun _ member _ => member⟩
  intro attempt member about
  have kept : attempt.request ≠ removed := about ▸ differs
  exact List.mem_filter.mpr ⟨member, decide_eq_true kept⟩

theorem spares_withoutOrigin (differs : id ≠ other) :
    Spares id wanted service (service.withoutOrigin other) := by
  refine ⟨?_, fun _ member _ => member, ?_, ?_⟩
  · exact fun _ _ owned => owns_withoutOrigin_iff.mpr ⟨owned, differs⟩
  · exact fun _ _ held => holds_withoutOrigin_iff.mpr ⟨held, differs⟩
  · intro settings member same
    obtain ⟨origin, among, rfl⟩ := List.mem_map.mp member
    have kept : origin.settings.id ≠ other := same ▸ differs
    exact List.mem_map.mpr ⟨origin, List.mem_filter.mpr ⟨among, decide_eq_true kept⟩, rfl⟩

theorem spares_addOrigin (pool : Dispatcher) (config : Config) :
    Spares id wanted service (service.addOrigin pool config).1 := by
  refine ⟨fun _ _ => owns_addOrigin_iff.mpr, fun _ member _ => member,
    fun _ _ => holds_addOrigin_iff.mpr, ?_⟩
  intro settings member _
  obtain ⟨origin, among, rfl⟩ := List.mem_map.mp member
  exact List.mem_map_of_mem (List.mem_append_left _ among)

/-- More attempts, handles, numbers and outcomes do no harm. -/
theorem spares_of_more (attempts : before.attempts ⊆ after.attempts)
    (origins : after.origins = before.origins) : Spares id wanted before after := by
  refine ⟨?_, fun _ member _ => attempts member, ?_, ?_⟩
  · simp only [Owns, origins, imp_self, implies_true]
  · simp only [Holds, origins, imp_self, implies_true]
  · simp only [originSettings, origins]
    exact fun _ member _ => member

theorem spares_keepHandle (label : String) (handle : Handle) :
    Spares id wanted service (service.keepHandle label handle) :=
  spares_of_more (List.Subset.refl _) rfl

theorem Launched.spares {result : Service × Request}
    (launched : service.Launched origin request result) : Spares id wanted service result.1 := by
  cases launched with
  | accepted interlude _ _ _ =>
      exact interlude.spares.trans (spares_of_more (List.subset_append_left _ _) rfl)
  | refused interlude _ _ => exact interlude.spares.trans (spares_post _)

theorem Advanced.spares (advanced : service.Advanced removed after) (differs : wanted ≠ removed) :
    Spares id wanted service after := by
  cases advanced with
  | waiting => exact .refl service
  | moved _ _ passes => exact passes.interlude.spares.trans (spares_setPhase differs _)
  | skipped _ _ _ interlude => exact interlude.spares.trans (spares_dropAttempt differs)
  | orphaned _ _ _ interlude => exact interlude.spares.trans (spares_dropAttempt differs)
  | posted _ _ _ interlude _ =>
      exact (interlude.spares.trans (spares_post _)).trans (spares_dropAttempt differs)

/-- A message that finds no request of the id among those of its origin, or is about another one. -/
theorem Handled.spares (handled : service.Handled origin message after)
    (elsewhere : ∀ request, service.liveRequest? origin.id message.request = some request →
      wanted ≠ request.id) : Spares id wanted service after := by
  cases handled with
  | dropped _ interlude => exact interlude.spares
  | @ended _ final _ moment marks _ found _ _ interlude _ _ closing =>
      have retired : Spares id wanted moment (moment.retire final marks) :=
        spares_of_more (List.Subset.refl _) rfl
      exact (((spares_removeLive (elsewhere _ found)).trans interlude.spares).trans retired).trans
        closing.spares
  | relaunched found _ _ interlude _ launched closing =>
      exact ((((spares_removeLive (elsewhere _ found)).trans interlude.spares).trans
        launched.spares).trans (spares_insertLive _)).trans closing.spares

/-- A message for another origin is not about the request, and it finds another request there. -/
theorem elsewhere_of_ne (orderly : service.Orderly) (tracked : service.Tracked)
    (owned : service.Owns id request) (here : service.origin? other = some owner)
    (oldest : owner.mailbox = message :: rest) (differs : id ≠ other) :
    (∀ completion, message = .completed completion → completion.request ≠ request.id) ∧
      ∀ held, (service.leaveMessages other rest).liveRequest? other message.request = some held →
        request.id ≠ held.id := by
  constructor
  · rintro completion rfl about
    exact differs (tracked.results other completion (holds_of_origin? here oldest) id request owned
      about.symm).1
  · intro held found same
    have heldOwned := owns_leaveMessages_iff.mp (owns_of_liveRequest? found).1
    obtain rfl := orderly.unique _ _ _ _ owned heldOwned same.symm
    exact differs ((orderly.own _ _ owned).symm.trans (orderly.own _ _ heldOwned))

/-- A move is about another request than one that is owned. -/
structure Apart (service : Service) (id : ContextId) (wanted : RequestId) (move : Move) :
    Prop where
  advance : move ≠ .advance wanted
  process : ∀ owner message rest, move = .process id → service.origin? id = some owner →
    owner.mailbox = message :: rest → message.request ≠ wanted
  dropOrigin : move ≠ .dropOrigin id

theorem Moved.spares {move : Move} (moved : service.Moved move after) (orderly : service.Orderly)
    (tracked : service.Tracked) (owned : service.Owns id request)
    (apart : service.Apart id request.id move) : Spares id request.id service after := by
  cases moved with
  | interlude interlude => exact interlude.spares
  | interposed => exact spares_of_more (List.Subset.refl _) rfl
  | @woken handle _ =>
      have fewer : Spares id request.id service
          { service with wakeUps := service.wakeUps.erase handle } :=
        spares_of_more (List.Subset.refl _) rfl
      exact fewer.trans (spares_post _)
  | @advanced removed _ advanced =>
      exact advanced.spares fun same => apart.advance (same ▸ rfl)
  | @processed other owner message rest _ found oldest handled =>
      obtain rfl := origin?_id found
      by_cases here : id = owner.settings.id
      · have differs : message.request ≠ request.id :=
          apart.process owner message rest (here ▸ rfl) (here ▸ found) oldest
        refine (spares_leaveMessages orderly.contexts found oldest ?_).trans (handled.spares ?_)
        · rintro completion rfl
          exact differs
        · intro held live same
          exact differs ((owns_of_liveRequest? live).2.symm.trans same.symm)
      · obtain ⟨unposted, others⟩ := elsewhere_of_ne orderly tracked owned found oldest here
        exact (spares_leaveMessages orderly.contexts found oldest unposted).trans
          (handled.spares others)
  | @submitted _ query _ moment result _ interlude launched =>
      have counted : Spares id request.id service service.countRequest :=
        spares_of_more (List.Subset.refl _) rfl
      exact (((counted.trans interlude.spares).trans launched.spares).trans
        (spares_insertLive _)).trans (spares_keepHandle _ _)
  | originAdded => exact spares_addOrigin _ _
  | @originDropped other _ interlude =>
      have differs : id ≠ other := fun same => apart.dropOrigin (same ▸ rfl)
      exact (spares_withoutOrigin differs).trans interlude.spares

end Bystanders

section Tickets

theorem tickets_postResult (contexts : service.contextIds.Nodup) (id : ContextId)
    (completion : Completion) :
    (service.post id (.completed completion)).tickets ⊆ completion.request :: service.tickets := by
  intro wanted ticket
  cases found : service.origin? id with
  | some owner => exact (tickets_post contexts found).mem_iff.mp ticket
  | none =>
      have same : (service.post id (.completed completion)).origins = service.origins := by
        refine (List.map_congr_left fun origin member => if_neg ?_).trans (List.map_id' _)
        simpa using List.find?_eq_none.mp found origin member
      refine List.mem_cons_of_mem _ ?_
      rwa [tickets, same] at ticket

theorem Launched.tickets {result : Service × Request} (contexts : service.contextIds.Nodup)
    (launched : service.Launched origin request result) :
    result.1.tickets ⊆ request.id :: service.tickets := by
  cases launched with
  | @accepted moment attempt started interlude _ starts carries =>
      intro wanted ticket
      rw [← interlude.tickets, ← starts.id, ← carries.request]
      rcases mem_tickets.mp ticket with ⟨other, member, same⟩ | posted
      · rcases List.mem_append.mp member with old | new
        · exact List.mem_cons_of_mem _ (mem_tickets.mpr (.inl ⟨other, old, same⟩))
        · rw [List.mem_singleton.mp new] at same
          exact same ▸ List.mem_cons_self
      · exact List.mem_cons_of_mem _ (mem_tickets.mpr (.inr posted))
  | refused interlude _ starts =>
      rw [← interlude.tickets, ← starts.id]
      exact tickets_postResult (interlude.contextIds ▸ contexts) _ _

theorem Advanced.tickets (advanced : service.Advanced removed after)
    (contexts : service.contextIds.Nodup) : after.tickets ⊆ service.tickets := by
  cases advanced with
  | waiting => exact List.Subset.refl _
  | moved _ _ passes =>
      rw [tickets_setPhase, passes.interlude.tickets]
      exact List.Subset.refl _
  | skipped _ _ _ interlude =>
      rw [← interlude.tickets]
      exact tickets_dropAttempt_sublist.subset
  | orphaned _ _ _ interlude =>
      rw [← interlude.tickets]
      exact tickets_dropAttempt_sublist.subset
  | @posted attempt outcome moment _ member same _ interlude _ =>
      rw [← interlude.tickets]
      refine List.Subset.trans tickets_dropAttempt_sublist.subset ?_
      refine List.Subset.trans
        (tickets_postResult (interlude.contextIds ▸ contexts) _ (attempt.completion outcome)) ?_
      refine List.cons_subset.mpr ⟨?_, List.Subset.refl _⟩
      exact mem_tickets.mpr (.inl ⟨attempt, interlude.attempts ▸ member, rfl⟩)

theorem Handled.tickets (handled : service.Handled origin message after)
    (contexts : service.contextIds.Nodup) (ticket : wanted ∈ after.tickets) :
    wanted ∈ service.tickets ∨ ∃ request, service.Owns origin.id request ∧ request.id = wanted := by
  cases handled with
  | dropped _ interlude =>
      rw [interlude.tickets] at ticket
      exact .inl ticket
  | ended _ _ _ interlude _ _ closing =>
      have same := interlude.tickets
      rw [tickets_removeLive] at same
      rw [closing.tickets] at ticket
      exact .inl (same ▸ ticket)
  | relaunched found _ _ interlude _ launched closing =>
      have same := interlude.tickets
      rw [tickets_removeLive] at same
      rw [closing.tickets, tickets_insertLive] at ticket
      have contexts := interlude.contextIds.trans (contextIds_removeLive _) ▸ contexts
      rcases List.mem_cons.mp (launched.tickets contexts ticket) with here | old
      · exact .inr ⟨_, (owns_of_liveRequest? found).1, here.symm⟩
      · exact .inl (same ▸ old)

/-- Only a request that is owned, or a new one, comes to have a ticket. -/
theorem Moved.tickets {move : Move} (moved : service.Moved move after)
    (contexts : service.contextIds.Nodup) (ticket : wanted ∈ after.tickets) :
    wanted ∈ service.tickets ∨ (∃ id request, service.Owns id request ∧ request.id = wanted) ∨
      wanted.number = service.requestsMade + 1 := by
  cases moved with
  | interlude interlude =>
      rw [interlude.tickets] at ticket
      exact .inl ticket
  | interposed => exact .inl ticket
  | @woken handle _ =>
      have same : (service.wake handle).tickets = service.tickets :=
        tickets_of_notified rfl (origins_post_cancelRequested _ _ _)
      exact .inl (same ▸ ticket)
  | advanced advanced => exact .inl (advanced.tickets contexts ticket)
  | @processed id owner message rest _ found oldest handled =>
      have within : (service.leaveMessages id rest).Within service := within_leaveMessages rest
      have left := contexts.sublist within.contexts
      rcases handled.tickets left ticket with old | ⟨request, owned, about⟩
      · exact .inl ((reduced_leaveMessages contexts found oldest).tickets_subset old)
      · exact .inr (.inl ⟨_, request, owns_leaveMessages_iff.mp owned, about⟩)
  | @submitted id query owner moment result _ interlude launched =>
      have added : wanted ∈ result.1.tickets := by
        rw [← tickets_insertLive]
        exact ticket
      rcases List.mem_cons.mp (launched.tickets (interlude.contextIds ▸ contexts) added) with
        rfl | old
      · exact .inr (.inr rfl)
      · rw [interlude.tickets] at old
        exact .inl old
  | @originAdded id config pool =>
      have same : (service.addOrigin pool config).1.tickets = service.tickets := by
        simp [Service.tickets, Service.addOrigin, Origin.tickets]
      exact .inl (same ▸ ticket)
  | originDropped interlude =>
      rw [interlude.tickets] at ticket
      exact .inl (reduced_withoutOrigin.tickets_subset ticket)

end Tickets

end SnapshotQuery.Service
