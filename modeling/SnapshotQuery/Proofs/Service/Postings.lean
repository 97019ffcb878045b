import SnapshotQuery.Proofs.Service.Provenance
import SnapshotQuery.Proofs.Service.Workers

/-!
# What becomes of an attempt

An attempt that is accepted posts one result or none.  Which of the two it is
depends on the token alone, as the worker sees it when it looks for the last
time.
-/

namespace SnapshotQuery

/-- The two are the same attempt, maybe in different phases. -/
structure Attempt.Same (attempt other : Attempt) : Prop where
  request : attempt.request = other.request
  number : attempt.number = other.number
  origin : attempt.origin = other.origin

/-- The message is a result of the attempt. -/
def Message.isResultOf (attempt : Attempt) : Message → Bool
  | completed completion => decide (completion.request = attempt.request ∧
      completion.attempt = attempt.number ∧ completion.origin = attempt.origin)
  | cancelRequested _ => false

/-- Whether the token was set when the worker looked for the last time, if it has done so. -/
def Phase.seen? : Phase → Option Bool
  | abandoned => some true
  | checked _ => some false
  | queued | admitted | cleared | finished _ | released _ => none

namespace Service

/-- The results of an attempt that lie in mailboxes. -/
def resultsOf (service : Service) (attempt : Attempt) : Nat :=
  (service.origins.flatMap fun origin => origin.mailbox).countP (Message.isResultOf attempt)

/-- Whether the token is set when a worker looks for the last time, if that is what it does in the
move.  A token that is seen set before the evaluation is not looked at again. -/
def lastCheck? (service : Service) (attempt : Attempt) : Move → Option Bool
  | .advance request =>
      match service.attempts.find? fun other => other.request = request with
      | none => none
      | some other =>
          if other.request = attempt.request ∧ other.number = attempt.number then
            match other.phase with
            | .admitted => if service.isCancelled request then some true else none
            | .released _ => some (service.isCancelled request)
            | _ => none
          else none
  | _ => none

/-- A run, with the number of results of an attempt that were posted in it, and the token as the
worker saw it when it looked for the last time. -/
inductive Traced (permitted : Service → Move → Prop) (first : Service) (attempt : Attempt) :
    Nat → Option Bool → Service → Prop
  | start : Traced permitted first attempt 0 none first
  | move {posted seen service after} (move : Move)
      (earlier : Traced permitted first attempt posted seen service)
      (allowed : permitted service move) (moved : service.after? move = some after) :
      Traced permitted first attempt
        (posted + (after.resultsOf attempt - (service.taking move).resultsOf attempt))
        ((service.lastCheck? attempt move).orElse fun _ => seen) after

/-- The attempt has ended.  Whatever is begun for its request has a greater number. -/
structure Past (service : Service) (attempt : Attempt) : Prop where
  attempts : ∀ other ∈ service.attempts, other.request = attempt.request →
    attempt.number < other.number
  owns : ∀ id request, service.Owns id request → request.id = attempt.request →
    attempt.number ≤ request.attempts
  made : attempt.request.number ≤ service.requestsMade

/-- How far an attempt has come: the results posted, and the token as it was seen at last. -/
inductive Stage (attempt : Attempt) : Nat → Option Bool → Service → Prop
  | underWay {service current} (member : current ∈ service.attempts)
      (same : current.Same attempt) : Stage attempt 0 current.phase.seen? service
  | skipped {service} (past : service.Past attempt) : Stage attempt 0 (some true) service
  | posted {service} (past : service.Past attempt) : Stage attempt 1 (some false) service
  | orphaned {service} (past : service.Past attempt) (gone : attempt.origin ∉ service.contextIds) :
      Stage attempt 0 (some false) service

/-- What is accepted, is not released and is executed, at most and exactly. -/
structure Exclusive (service : Service) : Prop where
  single : (service.attempts.map fun attempt => attempt.request).Nodup
  executing : ∀ pool ∈ service.dispatchers,
    mannedAmong service.attempts pool.id ≤ pool.maxWorkers
  inFlight : ∀ pool ∈ service.dispatchers,
    pool.inFlight.Nodup ∧ pool.inFlight.Perm (flyingAmong service.attempts pool.id)
  posted : ∀ id completion, service.Holds id (.completed completion) →
    completion.origin = id ∧ ∀ pool ∈ service.dispatchers, completion.request ∉ pool.inFlight
  finished : ∀ pool ∈ service.dispatchers,
    (∀ attempt ∈ service.attempts, attempt.dispatcher ≠ pool.id) → pool.inFlight = []

variable {service after moment : Service} {attempt current : Attempt} {move : Move}
  {wanted : RequestId} {permitted : Service → Move → Prop} {schema : TableSchema}

section Results

theorem isResultOf_iff {completion : Completion} :
    (Message.completed completion).isResultOf attempt = true ↔
      completion.request = attempt.request ∧ completion.attempt = attempt.number ∧
        completion.origin = attempt.origin :=
  decide_eq_true_iff

theorem resultsOf_pos_iff : 0 < service.resultsOf attempt ↔ ∃ id completion,
    service.Holds id (.completed completion) ∧
      (Message.completed completion).isResultOf attempt = true := by
  simp only [resultsOf, List.countP_pos_iff, List.mem_flatMap]
  constructor
  · rintro ⟨message, ⟨origin, among, posted⟩, result⟩
    cases message with
    | completed completion =>
        exact ⟨origin.settings.id, completion, ⟨origin, among, rfl, posted⟩, result⟩
    | cancelRequested request => exact absurd result nofun
  · rintro ⟨id, completion, ⟨origin, among, _, posted⟩, result⟩
    exact ⟨.completed completion, ⟨origin, among, posted⟩, result⟩

/-- No two results of an attempt lie in mailboxes. -/
theorem resultsOf_le_one (distinct : service.tickets.Nodup) : service.resultsOf attempt ≤ 1 := by
  have posted := (List.nodup_append.mp distinct).2.1
  have same : service.origins.flatMap Origin.tickets =
      (service.origins.flatMap fun origin => origin.mailbox).filterMap Message.resultOf? :=
    (List.filterMap_flatMap ..).symm
  rw [same] at posted
  unfold resultsOf
  generalize (service.origins.flatMap fun origin => origin.mailbox) = messages at posted ⊢
  refine Nat.le_trans ?_ (List.nodup_iff_count_le_one.mp posted attempt.request)
  rw [List.count_filterMap]
  refine List.countP_mono_left fun message _ result => ?_
  cases message with
  | completed completion =>
      simp [Message.resultOf?, (isResultOf_iff.mp result).1]
  | cancelRequested request => exact absurd result Bool.false_ne_true

/-- As long as an attempt is under way no result of it is posted. -/
theorem resultsOf_eq_zero (distinct : service.tickets.Nodup) (member : current ∈ service.attempts)
    (same : current.Same attempt) : service.resultsOf attempt = 0 := by
  refine Nat.eq_zero_of_not_pos fun some => ?_
  obtain ⟨id, completion, held, result⟩ := resultsOf_pos_iff.mp some
  exact held.no_attempt distinct current member
    (same.request.trans (isResultOf_iff.mp result).1.symm)

theorem Interlude.resultsOf {calls : List Observation} (interlude : Interlude calls service moment)
    (nothing : service.resultsOf attempt = 0) : moment.resultsOf attempt = 0 := by
  refine Nat.eq_zero_of_not_pos fun some => ?_
  obtain ⟨id, completion, held, result⟩ := resultsOf_pos_iff.mp some
  have earlier := resultsOf_pos_iff.mpr
    ⟨id, completion, interlude.holds_completed_iff.mp held, result⟩
  exact Nat.lt_irrefl _ (nothing ▸ earlier)

end Results

section Ended

/-- What one step of a worker posts is the result of an attempt of that request. -/
theorem Advanced.holds (advanced : service.Advanced wanted after) {id : ContextId}
    {completion : Completion} (held : after.Holds id (.completed completion)) :
    service.Holds id (.completed completion) ∨ ∃ other ∈ service.attempts,
      completion.request = other.request ∧ completion.attempt = other.number := by
  cases advanced with
  | waiting => exact .inl held
  | moved _ _ passes => exact .inl (passes.interlude.holds_completed_iff.mp held)
  | skipped _ _ _ interlude => exact .inl (interlude.holds_completed_iff.mp held)
  | orphaned _ _ _ interlude => exact .inl (interlude.holds_completed_iff.mp held)
  | @posted other outcome _ _ member _ _ interlude _ =>
      rcases holds_of_post held with old | ⟨_, new⟩
      · exact .inl (interlude.holds_completed_iff.mp old)
      · obtain rfl := Message.completed.inj new
        exact .inr ⟨other, member, rfl, rfl⟩

/-- A step of a worker begins no attempt. -/
theorem Advanced.attempts (advanced : service.Advanced wanted after) :
    ∀ other ∈ after.attempts, ∃ old ∈ service.attempts, other.Same old := by
  have dropped : ∀ moment : Service, moment.attempts = service.attempts → ∀ other ∈
      (moment.dropAttempt wanted).attempts, ∃ old ∈ service.attempts, other.Same old := by
    intro moment kept other member
    exact ⟨other, kept ▸ (List.mem_filter.mp member).1, rfl, rfl, rfl⟩
  cases advanced with
  | waiting => exact fun other member => ⟨other, member, rfl, rfl, rfl⟩
  | moved _ _ passes =>
      intro other member
      obtain ⟨old, oldMember, rfl⟩ := List.mem_map.mp member
      refine ⟨old, passes.interlude.attempts ▸ oldMember, ?_⟩
      split <;> exact ⟨rfl, rfl, rfl⟩
  | skipped _ _ _ interlude => exact dropped _ interlude.attempts
  | orphaned _ _ _ interlude => exact dropped _ interlude.attempts
  | posted _ _ _ interlude _ => exact dropped _ interlude.attempts

theorem Past.not_next (past : service.Past attempt) {number : Nat}
    (next : service.Next attempt.request number) : attempt.number < number := by
  rcases next with ⟨id, held, owned, about, rfl⟩ | fresh
  · exact Nat.lt_succ_of_le (past.owns id held owned about)
  · have made := past.made
    omega

theorem next_taking_iff {request : RequestId} {number : Nat} :
    (service.taking move).Next request number ↔ service.Next request number := by
  simp only [Next, owns_taking_iff, requestsMade_taking]

/-- An attempt that has ended is not begun again, and nothing of it is posted or looked at. -/
theorem Past.moved (past : service.Past attempt) (orderly : service.Orderly)
    (tracked : after.Tracked) (moved : service.after? move = some after) :
    after.Past attempt ∧
      after.resultsOf attempt - (service.taking move).resultsOf attempt = 0 := by
  have settled : (∀ id completion, after.Holds id (.completed completion) →
      (Message.completed completion).isResultOf attempt = true →
        (service.taking move).Holds id (.completed completion)) →
      after.resultsOf attempt - (service.taking move).resultsOf attempt = 0 := by
    intro old
    have most : after.resultsOf attempt ≤ 1 := resultsOf_le_one tracked.tickets
    rcases Nat.eq_zero_or_pos (after.resultsOf attempt) with none | some
    · rw [none, Nat.zero_sub]
    · obtain ⟨id, completion, held, result⟩ := resultsOf_pos_iff.mp some
      have before := resultsOf_pos_iff.mpr ⟨id, completion, old id completion held result, result⟩
      omega
  rcases begins_of_after? orderly.ready moved with begins | ⟨request, rfl, advanced⟩
  · refine ⟨⟨?_, ?_, ?_⟩, settled ?_⟩
    · intro other member about
      obtain ⟨added, attempts, fresh⟩ := begins.attempts
      rw [attempts, attempts_taking] at member
      rcases List.mem_append.mp member with old | new
      · exact past.attempts other old about
      · exact past.not_next (about ▸ next_taking_iff.mp (fresh other new).2.1)
    · intro id request owned about
      rcases begins.owns id request owned with old | next
      · exact past.owns id request (owns_taking_iff.mp old) about
      · exact Nat.le_of_lt (past.not_next (about ▸ next_taking_iff.mp next))
    · exact Nat.le_trans past.made (requestsMade_taking ▸ begins.requestsMade)
    · intro id completion held result
      rcases begins.holds id completion held with old | next
      · exact old
      · obtain ⟨about, number, _⟩ := isResultOf_iff.mp result
        have later := past.not_next (about ▸ next_taking_iff.mp next)
        exact absurd number (Nat.ne_of_gt later)
  · refine ⟨⟨?_, ?_, ?_⟩, settled ?_⟩
    · intro other member about
      obtain ⟨old, oldMember, same⟩ := advanced.attempts other member
      exact same.number ▸ past.attempts old oldMember (same.request.symm.trans about)
    · exact fun id request owned => past.owns id request (advanced.owns_iff.mp owned)
    · exact Nat.le_trans past.made advanced.within.requestsMade
    · intro id completion held result
      rcases advanced.holds held with old | ⟨other, member, about, number⟩
      · exact old
      · obtain ⟨request, same, _⟩ := isResultOf_iff.mp result
        have later := past.attempts other member (about.symm.trans request)
        exact absurd (number.symm.trans same) (Nat.ne_of_gt later)

theorem Past.lastCheck? (past : service.Past attempt) (move : Move) :
    service.lastCheck? attempt move = none := by
  cases move <;> try rfl
  simp only [Service.lastCheck?]
  split
  · rfl
  · rename_i other found
    refine if_neg fun same => ?_
    have later := past.attempts other (List.mem_of_find?_eq_some found) same.1
    exact Nat.ne_of_gt later same.2

/-- With the attempt dropped, no attempt of its request is under way. -/
theorem past_dropAttempt (tracked : service.Tracked) (member : current ∈ service.attempts)
    (same : current.Same attempt) (interlude : Interlude [] service moment) :
    (moment.dropAttempt current.request).Past attempt where
  attempts other kept about := by
    have apart := of_decide_eq_true (List.mem_filter.mp kept).2
    exact absurd (about.trans same.request.symm) apart
  owns id request owned about := by
    have here := tracked.attempts current member id request (interlude.owns_iff.mp owned)
      (about.trans same.request.symm)
    exact Nat.le_of_eq (same.number.symm.trans here.2)
  made := by
    have ticket := tracked.ticketsMade current.request (mem_tickets.mpr (.inl ⟨_, member, rfl⟩))
    rw [← same.request]
    exact Nat.le_trans ticket interlude.within.requestsMade

end Ended

section Steps

variable (distinct : (service.attempts.map fun attempt => attempt.request).Nodup)
  (member : current ∈ service.attempts) (same : current.Same attempt)

include distinct member same in
/-- What the worker sees of the token in a step of the attempt. -/
theorem lastCheck?_advance : service.lastCheck? attempt (.advance current.request) =
    match current.phase with
    | .admitted => if service.isCancelled current.request then some true else none
    | .released _ => some (service.isCancelled current.request)
    | _ => none := by
  simp only [Service.lastCheck?, find?_attempt distinct member]
  exact if_pos ⟨same.request, same.number⟩

include member same in
theorem Stage.setPhase (kept : moment.attempts = service.attempts) (phase : Phase) :
    Stage attempt 0 phase.seen? (moment.setPhase current.request phase) := by
  have among : ({ current with phase } : Attempt) ∈
      (moment.setPhase current.request phase).attempts :=
    List.mem_map.mpr ⟨current, kept ▸ member, if_pos rfl⟩
  exact .underWay among ⟨same.request, same.number, same.origin⟩

include member same in
theorem stage_post {owner : Origin} (tracked : service.Tracked)
    (contexts : service.contextIds.Nodup) (found : service.origin? current.origin = some owner)
    (outcome : Outcome) :
    Stage attempt
      (((service.post current.origin (.completed (current.completion outcome))).dropAttempt
        current.request).resultsOf attempt) (some false)
      ((service.post current.origin (.completed (current.completion outcome))).dropAttempt
        current.request) := by
  have finished := tracked.finish contexts member found outcome
  have past := past_dropAttempt tracked member same (.refl service)
  have held : (service.post current.origin (.completed (current.completion outcome))).Holds
      current.origin (.completed (current.completion outcome)) :=
    holds_post_self (mem_contextIds_of_origin? found)
  generalize after_eq : ((service.post current.origin
    (.completed (current.completion outcome))).dropAttempt current.request) = after at finished ⊢
  have ended : after.Past attempt := after_eq ▸ ⟨past.attempts,
    fun id request owned => past.owns id request (owns_post_iff.mp owned), past.made⟩
  have some : 0 < after.resultsOf attempt := after_eq ▸ resultsOf_pos_iff.mpr
    ⟨_, _, held, isResultOf_iff.mpr ⟨same.request, same.number, same.origin⟩⟩
  have one : after.resultsOf attempt = 1 :=
    Nat.le_antisymm (resultsOf_le_one finished.tickets) some
  rw [one]
  exact .posted ended

include member same in
/-- A result is posted to the origin of the attempt, or the origin is gone. -/
theorem stage_postOutcome (tracked : service.Tracked) (contexts : service.contextIds.Nodup)
    (outcome : Outcome) :
    Stage attempt ((service.postOutcome current outcome).resultsOf attempt) (some false)
      (service.postOutcome current outcome) := by
  have nothing := resultsOf_eq_zero tracked.tickets member same
  have freed : Interlude [] service
      (if outcome.evaluated then service.freeWorker current else service) := by
    split
    · exact interlude_freeWorker
    · exact .refl service
  simp only [Service.postOutcome]
  generalize (if outcome.evaluated then service.freeWorker current else service) = moment at freed
  cases found : moment.origin? current.origin with
  | none =>
      simp only
      have lost : Interlude [] service
          ((moment.report (.originGone current.request current.origin)).releaseAll
            outcome.snapshot.toList) :=
        (freed.then (moment.interlude_report _)).then (interlude_releaseAll _ _)
      generalize ((moment.report (.originGone current.request current.origin)).releaseAll
        outcome.snapshot.toList) = last at lost
      have none : (last.dropAttempt current.request).resultsOf attempt = 0 :=
        lost.resultsOf nothing
      rw [none]
      refine .orphaned (past_dropAttempt tracked member same lost) fun known => ?_
      have ids : moment.contextIds = (last.dropAttempt current.request).contextIds :=
        freed.contextIds.trans lost.contextIds.symm
      rw [← ids, ← same.origin] at known
      obtain ⟨owner, here⟩ := exists_origin? known
      cases found.symm.trans here
  | some owner =>
      exact stage_post (freed.attempts ▸ member) same (tracked.interlude freed)
        (freed.contextIds ▸ contexts) found outcome

/-- A step of its worker takes an attempt on. -/
theorem stage_advance (orderly : service.Orderly) (tracked : service.Tracked)
    (member : current ∈ service.attempts) (same : current.Same attempt) :
    Stage attempt ((service.advance current.request).resultsOf attempt)
      ((service.lastCheck? attempt (.advance current.request)).orElse fun _ =>
        current.phase.seen?) (service.advance current.request) := by
  have distinct := tracked.distinct
  have nothing := resultsOf_eq_zero tracked.tickets member same
  rw [lastCheck?_advance distinct member same]
  simp only [Service.advance, find?_attempt distinct member, advanceAttempt]
  have pass : ∀ (moment : Service) (phase : Phase), Interlude [] service moment →
      Stage attempt ((moment.setPhase current.request phase).resultsOf attempt) phase.seen?
        (moment.setPhase current.request phase) := by
    intro moment phase interlude
    have none : (moment.setPhase current.request phase).resultsOf attempt = 0 :=
      interlude.resultsOf nothing
    rw [none]
    exact Stage.setPhase member same interlude.attempts phase
  have skip : ∀ moment : Service, Interlude [] service moment →
      Stage attempt ((moment.dropAttempt current.request).resultsOf attempt) (some true)
        (moment.dropAttempt current.request) := by
    intro moment interlude
    have none : (moment.dropAttempt current.request).resultsOf attempt = 0 :=
      interlude.resultsOf nothing
    rw [none]
    exact .skipped (past_dropAttempt tracked member same interlude)
  cases phase : current.phase with
  | queued =>
      have stay : Stage attempt (service.resultsOf attempt) none service := by
        have stage : Stage attempt 0 current.phase.seen? service := .underWay member same
        rwa [phase, ← nothing] at stage
      simp only [giveWorker, Option.orElse_none, Phase.seen?]
      split
      · exact stay
      · split
        · exact pass _ _ (.refl service)
        · split
          · exact stay
          · exact pass _ _ (service.interlude_updateDispatcher _ _)
  | admitted =>
      cases set : service.isCancelled current.request with
      | true => exact pass service .abandoned (.refl service)
      | false => exact pass service .cleared (.refl service)
  | cleared => exact pass _ _ (service.interlude_evaluateAttempt current)
  | abandoned =>
      exact skip _ ((interlude_leaveFlight.then (interlude_report _ _)).then interlude_freeWorker)
  | finished outcome => exact pass _ _ interlude_leaveFlight
  | released outcome =>
      cases set : service.isCancelled current.request with
      | true =>
          refine skip _ (Interlude.then ?_ (interlude_releaseAll _ _))
          split
          · exact (service.interlude_report _).then interlude_freeWorker
          · exact .refl service
      | false =>
          refine pass _ (.checked outcome) ?_
          split
          · exact service.interlude_report _
          · exact .refl service
  | checked outcome => exact stage_postOutcome member same tracked orderly.contexts outcome

end Steps

section Runs

/-- Only a step of its worker looks at the token of an attempt. -/
theorem lastCheck?_of_ne (elsewhere : move ≠ .advance attempt.request) :
    service.lastCheck? attempt move = none := by
  cases move with
  | advance request =>
      simp only [Service.lastCheck?]
      split
      · rfl
      · rename_i other found
        refine if_neg fun same => elsewhere ?_
        have asked : other.request = request := request_of_find? found
        rw [← asked, same.1]
  | _ => rfl

/-- An attempt stays under way until its worker takes a step. -/
theorem mem_attempts_of_after? (orderly : service.Orderly) (member : current ∈ service.attempts)
    (elsewhere : move ≠ .advance current.request) (moved : service.after? move = some after) :
    current ∈ after.attempts := by
  rcases begins_of_after? orderly.ready moved with begins | ⟨request, rfl, advanced⟩
  · obtain ⟨added, attempts, _⟩ := begins.attempts
    rw [attempts, attempts_taking]
    exact List.mem_append_left _ member
  · have differs : current.request ≠ request := fun same => elsewhere (congrArg _ same.symm)
    have spared : Spares current.origin current.request service after := advanced.spares differs
    exact spared.attempts current member rfl

/-- Every move leaves an attempt where it is or takes it to its next stage. -/
theorem Stage.moved {posted : Nat} {seen : Option Bool} (stage : Stage attempt posted seen service)
    (orderly : service.Orderly) (tracked : service.Tracked) (later : after.Tracked)
    (known : attempt.origin.number ≤ service.contextsMade)
    (moved : service.after? move = some after) :
    Stage attempt (posted + (after.resultsOf attempt - (service.taking move).resultsOf attempt))
      ((service.lastCheck? attempt move).orElse fun _ => seen) after := by
  cases stage with
  | @underWay _ current member same =>
      have nothing := resultsOf_eq_zero tracked.tickets member same
      by_cases stepping : move = .advance current.request
      · subst stepping
        obtain rfl := Option.some.inj moved
        have untouched : service.taking (.advance current.request) = service := rfl
        rw [untouched, nothing, Nat.sub_zero, Nat.zero_add]
        exact stage_advance orderly tracked member same
      · have kept := mem_attempts_of_after? orderly member stepping moved
        rw [resultsOf_eq_zero later.tickets kept same, lastCheck?_of_ne (same.request ▸ stepping),
          Nat.zero_sub]
        exact .underWay kept same
  | skipped past =>
      obtain ⟨past', none⟩ := past.moved orderly later moved
      rw [none, past.lastCheck? move]
      exact .skipped past'
  | posted past =>
      obtain ⟨past', none⟩ := past.moved orderly later moved
      rw [none, past.lastCheck? move]
      exact .posted past'
  | orphaned past gone =>
      obtain ⟨past', none⟩ := past.moved orderly later moved
      rw [none, past.lastCheck? move]
      refine .orphaned past' fun back => gone ?_
      rcases begins_of_after? orderly.ready moved with begins | ⟨request, rfl, advanced⟩
      · rcases begins.contexts attempt.origin back with old | new
        · exact contextIds_taking ▸ old
        · rw [contextsMade_taking] at new
          omega
      · exact advanced.within.contexts.subset back

theorem Traced.reaches {posted : Nat} {seen : Option Bool}
    (traced : Traced permitted service attempt posted seen after) :
    service.Reaches permitted after := by
  induction traced with
  | start => exact .start
  | move move _ allowed moved inductionHypothesis =>
      exact .move move inductionHypothesis allowed moved

theorem contextsMade_le (orderly : service.Orderly) (moved : service.after? move = some after) :
    service.contextsMade ≤ after.contextsMade := by
  rcases begins_of_after? orderly.ready moved with begins | ⟨request, rfl, advanced⟩
  · exact contextsMade_taking ▸ begins.contextsMade
  · exact advanced.within.contextsMade

/-- What holds of origins that are there and is kept by every move holds of the origin of every
attempt, as an attempt begins at an origin that is there. -/
theorem home_of_reaches {Home : Service → ContextId → Prop}
    (run : (Service.new schema).Reaches permitted service)
    (here : ∀ service, (Service.new schema).Reaches permitted service →
      ∀ id ∈ service.contextIds, Home service id)
    (kept : ∀ service move after, (Service.new schema).Reaches permitted service →
      permitted service move → service.after? move = some after →
      ∀ id, Home service id → Home after id) :
    ∀ attempt ∈ service.attempts, Home service attempt.origin := by
  induction run with
  | start => exact List.forall_mem_nil _
  | @move service after move earlier allowed moved inductionHypothesis =>
      have orderly := orderly_of_reaches earlier
      have further := kept service move after earlier allowed moved
      intro attempt member
      rcases begins_of_after? orderly.ready moved with begins | ⟨request, rfl, advanced⟩
      · obtain ⟨added, attempts, fresh⟩ := begins.attempts
        rw [attempts, attempts_taking] at member
        rcases List.mem_append.mp member with old | new
        · exact further _ (inductionHypothesis attempt old)
        · have home := contextIds_taking ▸ (fresh attempt new).2.2
          exact further _ (here service earlier _ home)
      · obtain ⟨old, oldMember, same⟩ := advanced.attempts attempt member
        rw [same.origin]
        exact further _ (inductionHypothesis old oldMember)

/-- The origin of an attempt has been there. -/
theorem originsMade_of_reaches (run : (Service.new schema).Reaches permitted service) :
    ∀ attempt ∈ service.attempts, attempt.origin.number ≤ service.contextsMade :=
  home_of_reaches run (fun _ earlier => (orderly_of_reaches earlier).contextsMade)
    fun _ _ _ earlier _ moved _ known =>
      Nat.le_trans known (contextsMade_le (orderly_of_reaches earlier) moved)

/-- An origin stays until it is dropped. -/
theorem contextIds_subset_of_after? (stays : ∀ id, move ≠ .dropOrigin id)
    (moved : service.after? move = some after) : service.contextIds ⊆ after.contextIds := by
  intro id known
  obtain ⟨owner, among, rfl⟩ := List.mem_map.mp known
  have settled : owner.settings ∈ service.originSettings := List.mem_map_of_mem among
  suffices still : owner.settings ∈ after.originSettings from mem_contextIds_of_originSettings still
  rcases originSettings_of_after? moved with
    same | ⟨dispatcher, config, pool, _, _, rfl⟩ | ⟨dropped, rfl, _⟩
  · exact same ▸ settled
  · exact List.mem_map_of_mem (List.mem_append_left _ among)
  · exact absurd rfl (stays dropped)

/-- If no origin is ever dropped, the origins of all attempts are there, now and later. -/
theorem origins_of_reaches (run : (Service.new schema).Reaches permitted service)
    (keeps : ∀ moment id, ¬ permitted moment (.dropOrigin id)) {last : Service}
    (later : service.Reaches permitted last) :
    ∀ attempt ∈ service.attempts, attempt.origin ∈ last.contextIds := by
  have stays : ∀ {moment move after}, permitted moment move → moment.after? move = some after →
      moment.contextIds ⊆ after.contextIds := by
    intro moment move after allowed moved
    exact contextIds_subset_of_after? (fun id same => keeps moment id (same ▸ allowed)) moved
  have home := home_of_reaches run (fun _ _ _ known => known)
    fun _ _ _ _ allowed moved _ known => stays allowed moved known
  intro attempt member
  induction later with
  | start => exact home attempt member
  | move move _ allowed moved inductionHypothesis => exact stays allowed moved inductionHypothesis

/-- Where an attempt is at the end of a run that began when it was accepted. -/
theorem Traced.stage (run : (Service.new schema).Reaches permitted service)
    (member : attempt ∈ service.attempts) (queued : attempt.phase = .queued) {posted : Nat}
    {seen : Option Bool} {last : Service}
    (traced : Traced permitted service attempt posted seen last) :
    attempt.origin.number ≤ last.contextsMade ∧ Stage attempt posted seen last := by
  induction traced with
  | start =>
      have stage : Stage attempt 0 attempt.phase.seen? service := .underWay member ⟨rfl, rfl, rfl⟩
      rw [queued] at stage
      exact ⟨originsMade_of_reaches run attempt member, stage⟩
  | move move earlier allowed moved inductionHypothesis =>
      obtain ⟨known, stage⟩ := inductionHypothesis
      have reached := run.trans earlier.reaches
      have orderly := orderly_of_reaches reached
      have tracked := tracked_of_reaches reached
      have later := tracked_of_reaches (reached.move move allowed moved)
      exact ⟨Nat.le_trans known (contextsMade_le orderly moved),
        stage.moved orderly tracked later known moved⟩

theorem flyingAmong_sublist (id : DispatcherId) :
    (flyingAmong service.attempts id).Sublist
      (service.attempts.map fun attempt => attempt.request) :=
  List.filter_sublist.map _

theorem exclusive_of_reaches (run : (Service.new schema).Reaches permitted service) :
    service.Exclusive := by
  have tracked := tracked_of_reaches run
  have flown := (provided_of_reaches run).flown
  have single := tracked.distinct
  refine ⟨single, ?_, ?_, ?_, ?_⟩
  · intro pool member
    have workers := (manned_of_reaches run).workers pool member
    omega
  · intro pool member
    have flying := flown.inFlight pool member
    exact ⟨flying.nodup_iff.mpr (single.sublist (flyingAmong_sublist pool.id)), flying⟩
  · intro id completion held
    refine ⟨tracked.own id completion held, fun pool member flies => ?_⟩
    obtain ⟨attempt, among, about, _⟩ :=
      exists_of_mem_flyingAmong ((flown.inFlight pool member).mem_iff.mp flies)
    exact held.no_attempt tracked.tickets attempt among about
  · intro pool member elsewhere
    refine List.eq_nil_iff_forall_not_mem.mpr fun request flies => ?_
    obtain ⟨attempt, among, _, here, _⟩ :=
      exists_of_mem_flyingAmong ((flown.inFlight pool member).mem_iff.mp flies)
    exact elsewhere attempt among here

/-- An attempt that was not there before is queued. -/
theorem queued_of_after? (orderly : service.Orderly) (moved : service.after? move = some after) :
    ∀ other ∈ after.attempts, (∃ old ∈ service.attempts, other.Same old) ∨
      other.phase = .queued := by
  intro other member
  rcases begins_of_after? orderly.ready moved with begins | ⟨request, rfl, advanced⟩
  · obtain ⟨added, attempts, fresh⟩ := begins.attempts
    rw [attempts, attempts_taking] at member
    rcases List.mem_append.mp member with old | new
    · exact .inl ⟨other, old, rfl, rfl, rfl⟩
    · exact .inr (fresh other new).1
  · exact .inl (advanced.attempts other member)

theorem Past.not_same (past : service.Past attempt) :
    ∀ other ∈ service.attempts, ¬ other.Same attempt := by
  intro other member same
  exact Nat.ne_of_gt (past.attempts other member same.request) same.number

/-- Attempts exclude each other.  An attempt is queued when it is accepted, and every step of a
worker brings it nearer to its end.  When it has ended it has posted one result, unless its token
was set at the last look.  A result goes nowhere if the origin is gone, which it is only if it was
dropped. -/
theorem exclusive_and_posted_once (run : (Service.new schema).Reaches permitted service) :
    service.Exclusive ∧
    (∀ move after, service.after? move = some after → ∀ other ∈ after.attempts,
      (∃ old ∈ service.attempts, other.Same old) ∨ other.phase = .queued) ∧
    (∀ attempt ∈ service.attempts, ¬ service.Starved attempt.request →
      (service.advance attempt.request).stepsLeft attempt.request <
        service.stepsLeft attempt.request) ∧
    ∀ attempt ∈ service.attempts, attempt.phase = .queued → ∀ posted seen last,
      Traced permitted service attempt posted seen last →
        ((∀ moment id, ¬ permitted moment (.dropOrigin id)) → attempt.origin ∈ last.contextIds) ∧
        ((∃ current ∈ last.attempts, current.Same attempt) ∧ posted = 0 ∨
          (∀ other ∈ last.attempts, ¬ other.Same attempt) ∧
            (seen = some true ∧ posted = 0 ∨
              seen = some false ∧
                (posted = 1 ∨ posted = 0 ∧ attempt.origin ∉ last.contextIds))) := by
  refine ⟨exclusive_of_reaches run, fun _ _ => queued_of_after? (orderly_of_reaches run),
    fun attempt member => stepsLeft_advance_lt member, ?_⟩
  intro attempt member queued posted seen last traced
  refine ⟨fun keeps => origins_of_reaches run keeps traced.reaches attempt member, ?_⟩
  cases (traced.stage run member queued).2 with
  | underWay among same => exact .inl ⟨⟨_, among, same⟩, rfl⟩
  | skipped past => exact .inr ⟨past.not_same, .inl ⟨rfl, rfl⟩⟩
  | posted past => exact .inr ⟨past.not_same, .inr ⟨rfl, .inl rfl⟩⟩
  | orphaned past gone => exact .inr ⟨past.not_same, .inr ⟨rfl, .inr ⟨rfl, gone⟩⟩⟩

/-- Whatever is done but to drop an origin. -/
def keepsOrigins (_ : Service) (move : Move) : Prop :=
  ∀ id, move ≠ .dropOrigin id

/-- The first attempt of a query is accepted, evaluated and posted. -/
theorem exclusive_and_posted_once_of_one : ∃ service attempt last,
    (Service.new itemsSchema).afterAll? [.act (.write (insertItem 5)), .addDispatcher "pool" 1 none,
      .addOrigin ⟨1⟩ .default, .submit ⟨1⟩ (allRows "kept")] = some service ∧
    attempt ∈ service.attempts ∧ service.Exclusive ∧
    Traced keepsOrigins service attempt 1 (some false) last ∧
    attempt.origin ∈ last.contextIds ∧ ∀ other ∈ last.attempts, ¬ other.Same attempt := by
  have steps : ∀ moment request, keepsOrigins moment (.advance request) := fun _ _ _ => nofun
  have sample : ∃ service attempt last posted seen,
      (Service.new itemsSchema).afterAll? [.act (.write (insertItem 5)),
        .addDispatcher "pool" 1 none, .addOrigin ⟨1⟩ .default, .submit ⟨1⟩ (allRows "kept")] =
          some service ∧
      service.attempts.head? = some attempt ∧ attempt.phase = .queued ∧
      Traced keepsOrigins service attempt posted seen last ∧ posted = 1 ∧ seen = some false :=
    ⟨_, _, _, _, _, rfl, rfl, rfl, (((((Traced.start.move (.advance ⟨1⟩) (steps _ _) rfl).move
      (.advance ⟨1⟩) (steps _ _) rfl).move (.advance ⟨1⟩) (steps _ _) rfl).move (.advance ⟨1⟩)
        (steps _ _) rfl).move (.advance ⟨1⟩) (steps _ _) rfl).move (.advance ⟨1⟩) (steps _ _) rfl,
      rfl, rfl⟩
  obtain ⟨service, attempt, last, posted, seen, moved, first, queued, traced, rfl, rfl⟩ := sample
  have run : (Service.new itemsSchema).Reaches keepsOrigins service :=
    reaches_of_afterAll? moved (by simp [keepsOrigins])
  have member := List.mem_of_head? first
  obtain ⟨exclusive, _, _, ends⟩ := exclusive_and_posted_once run
  obtain ⟨home, ended⟩ := ends attempt member queued _ _ last traced
  have there := home fun moment id keeps => keeps id rfl
  rcases ended with ⟨_, nothing⟩ | ⟨ended, _⟩
  · exact absurd nothing Nat.one_ne_zero
  · exact ⟨service, attempt, last, moved, member, exclusive, traced, there, ended⟩

end Runs

end Service

end SnapshotQuery
