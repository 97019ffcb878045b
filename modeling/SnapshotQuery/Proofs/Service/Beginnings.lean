import SnapshotQuery.Proofs.Service.Custody

/-!
# What moves begin

Only a step of a worker takes an attempt on.  Every other move at most begins
one, which is the first of a new request or the next one of a request whose
result was handled, and it begins no attempt that was there before.
-/

namespace SnapshotQuery.Service

/-- The number is that of the next attempt of the request, or the request is a new one. -/
def Next (service : Service) (request : RequestId) (number : Nat) : Prop :=
  (∃ id held, service.Owns id held ∧ held.id = request ∧ number = held.attempts + 1) ∨
    request.number = service.requestsMade + 1

/-- The attempts are those there were and a new one at most, and so are requests and results. -/
structure Begins (before after : Service) : Prop where
  attempts : ∃ added, after.attempts = before.attempts ++ added ∧ ∀ attempt ∈ added,
    attempt.phase = .queued ∧ before.Next attempt.request attempt.number ∧
      attempt.origin ∈ before.contextIds
  owns : ∀ id request, after.Owns id request →
    before.Owns id request ∨ before.Next request.id request.attempts
  holds : ∀ id completion, after.Holds id (.completed completion) →
    before.Holds id (.completed completion) ∨ before.Next completion.request completion.attempt
  contexts : ∀ id ∈ after.contextIds, id ∈ before.contextIds ∨
    id.number = before.contextsMade + 1
  contextsMade : before.contextsMade ≤ after.contextsMade
  requestsMade : before.requestsMade ≤ after.requestsMade

variable {calls : List Observation} {service before after moment : Service} {id : ContextId}
  {request : Request} {origin : OriginSettings} {owner : Origin} {message : Message}
  {rest : List Message} {move : Move}

theorem begins_of_within (within : after.Within before)
    (attempts : after.attempts = before.attempts)
    (holds : ∀ id completion, after.Holds id (.completed completion) →
      before.Holds id (.completed completion)) : before.Begins after where
  attempts := ⟨[], by rw [attempts, List.append_nil], List.forall_mem_nil _⟩
  owns id request owned := .inl (within.owns id request owned)
  holds id completion held := .inl (holds id completion held)
  contexts id known := .inl (within.contexts.subset known)
  contextsMade := within.contextsMade
  requestsMade := within.requestsMade

theorem Interlude.begins (interlude : Interlude calls before after) : before.Begins after :=
  begins_of_within interlude.within interlude.attempts fun _ _ => interlude.holds_completed_iff.mp

/-- What follows a beginning begins nothing more. -/
theorem Begins.then {last : Service} (begins : before.Begins after) (within : last.Within after)
    (attempts : last.attempts = after.attempts)
    (holds : ∀ id completion, last.Holds id (.completed completion) →
      after.Holds id (.completed completion)) : before.Begins last where
  attempts := attempts.symm ▸ begins.attempts
  owns id request owned := begins.owns id request (within.owns id request owned)
  holds id completion held := begins.holds id completion (holds id completion held)
  contexts id known := begins.contexts id (within.contexts.subset known)
  contextsMade := Nat.le_trans begins.contextsMade within.contextsMade
  requestsMade := Nat.le_trans begins.requestsMade within.requestsMade

/-- The next attempt of a request in hand is begun. -/
theorem Launched.begins {result : Service × Request}
    (launched : moment.Launched origin request result) (within : moment.Within before)
    (attempts : moment.attempts = before.attempts)
    (holds : ∀ id completion, moment.Holds id (.completed completion) →
      before.Holds id (.completed completion))
    (known : origin.id ∈ before.contextIds)
    (next : before.Next request.id (request.attempts + 1)) :
    before.Begins (result.1.insertLive origin.id result.2) := by
  have starts := launched.starts
  have fresh : before.Next result.2.id result.2.attempts := by
    rw [starts.id, starts.attempts]
    exact next
  have launchedWithin := within.trans launched.within
  refine ⟨?_, ?_, ?_, ?_, launchedWithin.contextsMade, launchedWithin.requestsMade⟩
  · cases launched with
    | @accepted later attempt started interlude _ _ carries =>
        refine ⟨[attempt], congrArg (· ++ [attempt]) (interlude.attempts.trans attempts), ?_⟩
        intro other member
        obtain rfl := List.mem_singleton.mp member
        rw [carries.request, carries.number, carries.origin]
        exact ⟨carries.queued, fresh, known⟩
    | refused interlude _ _ =>
        exact ⟨[], by rw [List.append_nil]; exact interlude.attempts.trans attempts,
          List.forall_mem_nil _⟩
  · intro id held owned
    rcases owns_insertLive owned with old | ⟨_, rfl⟩
    · exact .inl (launchedWithin.owns id held old)
    · exact .inr fresh
  · intro id completion held
    have held := holds_insertLive_iff.mp held
    cases launched with
    | accepted interlude _ _ _ =>
        exact .inl (holds id completion (interlude.holds_completed_iff.mp held))
    | refused interlude _ _ =>
        rcases holds_of_post held with old | ⟨_, new⟩
        · exact .inl (holds id completion (interlude.holds_completed_iff.mp old))
        · obtain rfl := Message.completed.inj new
          exact .inr fresh
  · intro id member
    rw [contextIds_insertLive] at member
    exact .inl (launchedWithin.contexts.subset member)

theorem Handled.begins (known : origin.id ∈ service.contextIds)
    (handled : service.Handled origin message after) : service.Begins after := by
  have taken : ∀ removed, (service.removeLive origin.id removed).Within service :=
    fun removed => within_removeLive removed
  cases handled with
  | dropped _ interlude => exact interlude.begins
  | @ended request final _ moment marks _ _ _ _ interlude _ _ closing =>
      have earlier : service.Begins moment :=
        begins_of_within ((taken _).trans interlude.within) interlude.attempts
          fun id completion held => holds_removeLive_iff.mp (interlude.holds_completed_iff.mp held)
      have retired : service.Begins (moment.retire final marks) :=
        ⟨earlier.attempts, earlier.owns, earlier.holds, earlier.contexts, earlier.contextsMade,
          earlier.requestsMade⟩
      exact retired.then closing.within closing.attempts
        fun _ _ held => closing.holds_completed_iff.mp held
  | @relaunched request completion moment result _ live posted _ interlude _ launched closing =>
      have begun := launched.begins ((taken _).trans interlude.within) interlude.attempts
        (fun id completion held => holds_removeLive_iff.mp (interlude.holds_completed_iff.mp held))
        known (.inl ⟨_, request, (owns_of_liveRequest? live).1, rfl, rfl⟩)
      exact begun.then closing.within closing.attempts
        fun _ _ held => closing.holds_completed_iff.mp held

/-- The service with the message taken out that a move handles. -/
def taking (service : Service) : Move → Service
  | .process id =>
      match service.origin? id with
      | some owner => service.leaveMessages id owner.mailbox.tail
      | none => service
  | _ => service

theorem attempts_taking : (service.taking move).attempts = service.attempts := by
  cases move <;> try rfl
  simp only [taking]
  split <;> rfl

theorem owns_taking_iff : (service.taking move).Owns id request ↔ service.Owns id request := by
  cases move <;> try rfl
  simp only [taking]
  split
  · exact owns_leaveMessages_iff
  · rfl

theorem requestsMade_taking : (service.taking move).requestsMade = service.requestsMade := by
  cases move <;> try rfl
  simp only [taking]
  split <;> rfl

theorem contextsMade_taking : (service.taking move).contextsMade = service.contextsMade := by
  cases move <;> try rfl
  simp only [taking]
  split <;> rfl

theorem contextIds_taking : (service.taking move).contextIds = service.contextIds := by
  cases move <;> try rfl
  simp only [taking]
  split
  · exact contextIds_updateOrigin fun _ => rfl
  · rfl

/-- Only a step of a worker takes an attempt on. -/
theorem begins_of_after? (ready : ∀ id request, service.Owns id request → request.Ready)
    (moved : service.after? move = some after) :
    (service.taking move).Begins after ∨
      ∃ request, move = .advance request ∧ service.Advanced request after := by
  by_cases processing : ∃ id, move = .process id
  · obtain ⟨id, rfl⟩ := processing
    obtain ⟨owner, message, rest, found, oldest, handled⟩ := handled_of_process? ready moved
    obtain rfl := origin?_id found
    have taken : service.taking (.process owner.settings.id) =
        service.leaveMessages owner.settings.id rest := by
      simp only [taking, found, oldest, List.tail_cons]
    have known : owner.settings.id ∈
        (service.leaveMessages owner.settings.id rest).contextIds := by
      rw [← taken, contextIds_taking]
      exact mem_contextIds_of_origin? found
    exact .inl (taken ▸ handled.begins known)
  have stays : service.taking move = service := by
    cases move <;> first | rfl | exact absurd ⟨_, rfl⟩ processing
  rw [stays]
  cases moved_of_after? ready moved with
  | interlude interlude => exact .inl interlude.begins
  | interposed =>
      exact .inl (begins_of_within ⟨.refl _, Nat.le_refl _, Nat.le_refl _, fun _ _ => id, rfl⟩ rfl
        fun _ _ held => held)
  | @woken handle _ =>
      have within : (service.wake handle).Within service :=
        (within_wakeUps (service.wakeUps.erase handle)).trans (within_post _)
      exact .inl (begins_of_within within rfl (reduced_wake handle).holds)
  | advanced advanced => exact .inr ⟨_, rfl, advanced⟩
  | processed found oldest handled => exact absurd ⟨_, rfl⟩ processing
  | @submitted id query owner moment result found interlude launched =>
      obtain rfl := origin?_id found
      have counted : service.countRequest.Within service :=
        ⟨.refl _, Nat.le_refl _, Nat.le_succ _, fun _ _ => id, rfl⟩
      have begun := launched.begins (counted.trans interlude.within) interlude.attempts
        (fun _ _ held => interlude.holds_completed_iff.mp held) (mem_contextIds_of_origin? found)
        (.inr rfl)
      exact .inl ⟨begun.attempts, begun.owns, begun.holds, begun.contexts, begun.contextsMade,
        begun.requestsMade⟩
  | @originAdded id config pool =>
      refine .inl ⟨⟨[], (List.append_nil _).symm, List.forall_mem_nil _⟩,
        fun _ _ owned => .inl (owns_addOrigin_iff.mp owned),
        fun _ _ held => .inl (holds_addOrigin_iff.mp held), ?_, Nat.le_succ _, Nat.le_refl _⟩
      intro other known
      simp only [contextIds, addOrigin, List.map_append, List.mem_append] at known
      rcases known with old | new
      · exact .inl old
      · exact .inr (congrArg ContextId.number (List.mem_singleton.mp new))
  | originDropped interlude =>
      exact .inl (begins_of_within (within_withoutOrigin.trans interlude.within) interlude.attempts
        fun id completion held =>
          (holds_withoutOrigin_iff.mp (interlude.holds_completed_iff.mp held)).1)

end SnapshotQuery.Service
