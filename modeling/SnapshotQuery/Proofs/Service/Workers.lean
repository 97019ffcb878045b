import SnapshotQuery.Proofs.Service.Beginnings
import SnapshotQuery.Proofs.Service.Development
import SnapshotQuery.Proofs.Service.Provision

/-!
# Workers at work

An attempt has a worker from the moment it is admitted until it is forgotten,
unless it was never admitted.  A pool has as many workers as it was built with:
each of them is idle or has one attempt.
-/

namespace SnapshotQuery

/-- A worker has the attempt in hand. -/
def Phase.isManned : Phase → Bool
  | queued => false
  | admitted | cleared | abandoned => true
  | finished outcome | released outcome | checked outcome => outcome.evaluated

/-- The attempts the workers of a dispatcher have in hand. -/
def mannedAmong (attempts : List Attempt) (id : DispatcherId) : Nat :=
  attempts.countP fun attempt => decide (attempt.dispatcher = id) && attempt.phase.isManned

/-- The workers of a dispatcher that have the attempt in hand, which is one or none. -/
def Attempt.takes (attempt : Attempt) (id : DispatcherId) : Nat :=
  if attempt.dispatcher = id ∧ attempt.phase.isManned = true then 1 else 0

@[simp]
theorem mannedAmong_append (front back : List Attempt) (id : DispatcherId) :
    mannedAmong (front ++ back) id = mannedAmong front id + mannedAmong back id :=
  List.countP_append

@[simp]
theorem mannedAmong_cons (attempt : Attempt) (rest : List Attempt) (id : DispatcherId) :
    mannedAmong (attempt :: rest) id = attempt.takes id + mannedAmong rest id := by
  simp [mannedAmong, Attempt.takes, List.countP_cons, Nat.add_comm]

theorem mannedAmong_queued {attempts : List Attempt}
    (queued : ∀ attempt ∈ attempts, attempt.phase = .queued) (id : DispatcherId) :
    mannedAmong attempts id = 0 := by
  refine List.countP_eq_zero.mpr fun attempt member => ?_
  simp [queued attempt member, Phase.isManned]

namespace Service

/-- Every worker of a pool is idle or has an attempt in hand. -/
structure Manned (service : Service) : Prop where
  distinct : service.poolIds.Nodup
  workers : ∀ pool ∈ service.dispatchers,
    pool.idle + mannedAmong service.attempts pool.id = pool.maxWorkers

variable {service before after : Service} {attempt : Attempt} {move : Move}

theorem manned_new (schema : TableSchema) : (Service.new schema).Manned :=
  ⟨by simp [new, poolIds], by simp [new]⟩

section Changes

theorem Manned.of_staff (manned : before.Manned) (staff : after.staff = before.staff)
    (same : ∀ id, mannedAmong after.attempts id = mannedAmong before.attempts id) :
    after.Manned where
  distinct := by
    have ids : after.poolIds = before.poolIds := by
      simpa [Service.staff, poolIds, Function.comp_def] using congrArg (List.map Prod.fst) staff
    exact ids ▸ manned.distinct
  workers pool member := by
    have entry : (pool.id, pool.registry, pool.maxWorkers, pool.idle) ∈ before.staff :=
      staff ▸ List.mem_map_of_mem member
    obtain ⟨old, oldMember, same_entry⟩ := List.mem_map.mp entry
    simp only [Prod.mk.injEq] at same_entry
    obtain ⟨id, _, workers, idle⟩ := same_entry
    rw [same, ← id, ← workers, ← idle]
    exact manned.workers old oldMember

/-- A worker is taken or freed together with its attempt. -/
theorem Manned.update (manned : service.Manned) {id : DispatcherId}
    {change : Dispatcher → Dispatcher} {attempts : List Attempt}
    (ids : ∀ pool, (change pool).id = pool.id)
    (built : ∀ pool, (change pool).maxWorkers = pool.maxWorkers)
    (here : ∀ pool ∈ service.dispatchers, pool.id = id →
      (change pool).idle + mannedAmong attempts id =
        pool.idle + mannedAmong service.attempts id)
    (others : ∀ other, other ≠ id →
      mannedAmong attempts other = mannedAmong service.attempts other) :
    ({ service.updateDispatcher id change with attempts } : Service).Manned where
  distinct := by
    have same : ({ service.updateDispatcher id change with attempts } : Service).poolIds =
        service.poolIds := service.poolIds_updateDispatcher ids
    exact same ▸ manned.distinct
  workers pool member := by
    obtain ⟨old, oldMember, rfl⟩ := List.mem_map.mp member
    have before := manned.workers old oldMember
    by_cases same : old.id = id
    · rw [if_pos same, ids, built, same, here old oldMember same, ← same]
      exact before
    · rw [if_neg same, others old.id same]
      exact before

variable (distinct : (service.attempts.map fun attempt => attempt.request).Nodup)
  (member : attempt ∈ service.attempts)

include distinct member

theorem mannedAmong_setPhase (phase : Phase) (id : DispatcherId) :
    mannedAmong (service.setPhase attempt.request phase).attempts id + attempt.takes id =
      mannedAmong service.attempts id + Attempt.takes { attempt with phase } id := by
  obtain ⟨front, back, split, _, changed, _⟩ := attempts_split distinct member
  rw [changed phase, split]
  simp only [mannedAmong_append, mannedAmong_cons]
  omega

theorem mannedAmong_dropAttempt (id : DispatcherId) :
    mannedAmong (service.dropAttempt attempt.request).attempts id + attempt.takes id =
      mannedAmong service.attempts id := by
  obtain ⟨front, back, split, _, _, dropped⟩ := attempts_split distinct member
  rw [dropped, split]
  simp only [mannedAmong_append, mannedAmong_cons]
  omega

/-- An attempt passes to another phase and keeps its worker, or has none. -/
theorem Manned.pass (manned : service.Manned) {phase : Phase}
    (same : phase.isManned = attempt.phase.isManned) (staff : after.staff = service.staff)
    (attempts : after.attempts = (service.setPhase attempt.request phase).attempts) :
    after.Manned := by
  refine manned.of_staff staff fun id => ?_
  have counted := mannedAmong_setPhase distinct member phase id
  have takes : Attempt.takes { attempt with phase } id = attempt.takes id := by
    simp only [Attempt.takes, same]
  rw [attempts]
  omega

/-- An attempt is forgotten, and its worker is idle again if it has one. -/
theorem Manned.leave (manned : service.Manned) {freed : Bool}
    (same : attempt.phase.isManned = freed)
    (staff : after.staff = (if freed then service.freeWorker attempt else service).staff)
    (attempts : after.attempts = (service.dropAttempt attempt.request).attempts) :
    after.Manned := by
  have counted := mannedAmong_dropAttempt distinct member
  cases freed with
  | false =>
      refine manned.of_staff staff fun id => ?_
      have takes : attempt.takes id = 0 := by simp [Attempt.takes, same]
      have left := counted id
      rw [attempts]
      omega
  | true =>
      have freed : ({ service.freeWorker attempt with
          attempts := (service.dropAttempt attempt.request).attempts } : Service).Manned := by
        refine manned.update (fun _ => rfl) (fun _ => rfl) ?_ ?_
        · intro pool _ _
          have takes : attempt.takes attempt.dispatcher = 1 := by simp [Attempt.takes, same]
          have left := counted attempt.dispatcher
          simp only
          omega
        · intro other differs
          have takes : attempt.takes other = 0 := by simp [Attempt.takes, Ne.symm differs]
          have left := counted other
          omega
      exact freed.of_staff staff fun id => by rw [attempts]

end Changes

section Steps

/-- Whatever comes out of an evaluation, a worker has tried it. -/
theorem evaluated_evaluateAttempt (service : Service) (attempt : Attempt) :
    (service.evaluateAttempt attempt).2.evaluated = true := by
  have failed : ∀ (moment : Service) failure,
      (moment.failOnWorker attempt failure).2.evaluated = true := by
    intro moment failure
    cases failure <;> rfl
  unfold evaluateAttempt
  split
  · exact failed _ _
  · split
    · exact failed _ _
    · split <;> rfl

theorem staff_leaveFlight (service : Service) (attempt : Attempt) :
    (service.leaveFlight attempt).staff = service.staff :=
  service.staff_updateDispatcher fun _ => ⟨rfl, rfl, rfl, rfl⟩

/-- Freeing a worker changes the workers alone. -/
theorem staff_freeWorker_congr (same : after.staff = before.staff) :
    (after.freeWorker attempt).staff = (before.freeWorker attempt).staff := by
  have freed : ∀ service : Service, (service.freeWorker attempt).staff =
      service.staff.map fun entry =>
        if entry.1 = attempt.dispatcher then
          (entry.1, entry.2.1, entry.2.2.1, entry.2.2.2 + 1)
        else entry := by
    intro service
    simp only [Service.staff, freeWorker, updateDispatcher, List.map_map]
    apply List.map_congr_left
    intro pool _
    simp only [Function.comp_apply]
    split <;> rfl
  rw [freed, freed, same]

theorem Manned.giveWorker (manned : service.Manned)
    (distinct : (service.attempts.map fun attempt => attempt.request).Nodup)
    (member : attempt ∈ service.attempts) (queued : attempt.phase = .queued) :
    (service.giveWorker attempt).Manned := by
  unfold Service.giveWorker
  cases found : service.dispatcher? attempt.dispatcher with
  | none => exact manned
  | some pool =>
      have own : pool.id = attempt.dispatcher := dispatcher?_id found
      simp only
      split
      · exact manned.pass distinct member (queued ▸ rfl) rfl rfl
      · split
        · exact manned
        · rename_i busy
          have counted := mannedAmong_setPhase distinct member .admitted
          have waiting : ∀ id, attempt.takes id = 0 := by
            simp [Attempt.takes, queued, Phase.isManned]
          have admitted : ({ service.updateDispatcher pool.id fun pool =>
              { pool with idle := pool.idle - 1 } with
                attempts := (service.setPhase attempt.request .admitted).attempts } :
              Service).Manned := by
            refine manned.update (fun _ => rfl) (fun _ => rfl) ?_ ?_
            · intro other otherMember same
              obtain rfl : other = pool := List.inj_on_of_nodup_map manned.distinct otherMember
                (List.mem_of_find?_eq_some found) same
              have taken : Attempt.takes { attempt with phase := .admitted } other.id = 1 := by
                simp [Attempt.takes, Phase.isManned, own]
              have now := counted other.id
              have none := waiting other.id
              simp only
              omega
            · intro other differs
              have elsewhere : Attempt.takes { attempt with phase := .admitted } other = 0 := by
                simp [Attempt.takes, ← own, Ne.symm differs]
              have now := counted other
              have none := waiting other
              omega
          exact admitted

theorem attempts_dropAttempt_congr {request : RequestId} (same : after.attempts = before.attempts) :
    (after.dropAttempt request).attempts = (before.dropAttempt request).attempts := by
  simp only [dropAttempt, same]

theorem Manned.skipOutcome (manned : service.Manned)
    (distinct : (service.attempts.map fun attempt => attempt.request).Nodup)
    (member : attempt ∈ service.attempts) {outcome : Outcome}
    (released : attempt.phase = .released outcome) :
    (service.skipOutcome attempt outcome).Manned := by
  have working : attempt.phase.isManned = outcome.evaluated := released ▸ rfl
  refine manned.leave distinct member working ?_ ?_
  · refine (proceeds_releaseAll _ outcome.snapshot.toList).staff.trans ?_
    split <;> rfl
  · refine attempts_dropAttempt_congr ((interlude_releaseAll _ _).attempts.trans ?_)
    split <;> rfl

theorem Manned.postOutcome (manned : service.Manned)
    (distinct : (service.attempts.map fun attempt => attempt.request).Nodup)
    (member : attempt ∈ service.attempts) {outcome : Outcome}
    (checked : attempt.phase = .checked outcome) :
    (service.postOutcome attempt outcome).Manned := by
  have working : attempt.phase.isManned = outcome.evaluated := checked ▸ rfl
  have kept : (if outcome.evaluated then service.freeWorker attempt else service).attempts =
      service.attempts := by
    split <;> rfl
  simp only [Service.postOutcome]
  generalize same : (if outcome.evaluated then service.freeWorker attempt else service) = moment
    at kept
  cases moment.origin? attempt.origin with
  | some owner =>
      exact manned.leave distinct member working (same ▸ rfl) (attempts_dropAttempt_congr kept)
  | none =>
      refine manned.leave distinct member working ?_ (attempts_dropAttempt_congr ?_)
      · rw [same]
        exact (proceeds_releaseAll _ _).staff
      · exact (interlude_releaseAll _ _).attempts.trans kept

theorem Manned.advance (manned : service.Manned)
    (distinct : (service.attempts.map fun attempt => attempt.request).Nodup)
    (request : RequestId) : (service.advance request).Manned := by
  unfold Service.advance
  cases found : service.attempts.find? fun attempt => attempt.request = request with
  | none => exact manned
  | some attempt =>
      have member := List.mem_of_find?_eq_some found
      simp only [advanceAttempt]
      cases phase : attempt.phase with
      | queued => exact manned.giveWorker distinct member phase
      | admitted =>
          simp only
          split <;> exact manned.pass distinct member (phase ▸ rfl) rfl rfl
      | cleared =>
          have kept := (service.interlude_evaluateAttempt attempt).attempts
          have working : (Phase.finished (service.evaluateAttempt attempt).2).isManned =
              attempt.phase.isManned := by
            rw [phase]
            exact service.evaluated_evaluateAttempt attempt
          have staff := (Proceeds.kept.evaluateAttempt service attempt).staff
          refine manned.pass distinct member working staff ?_
          simp only [setPhase, kept]
      | abandoned =>
          have working : attempt.phase.isManned = true := phase ▸ rfl
          refine manned.leave distinct member working ?_ rfl
          exact staff_freeWorker_congr (service.staff_leaveFlight attempt)
      | finished outcome =>
          exact manned.pass distinct member (phase ▸ rfl) (service.staff_leaveFlight attempt) rfl
      | released outcome =>
          simp only
          split
          · exact manned.skipOutcome distinct member phase
          · have working : (Phase.checked outcome).isManned = attempt.phase.isManned := phase ▸ rfl
            refine manned.pass distinct member working ?_ ?_ <;> split <;> rfl
      | checked outcome => exact manned.postOutcome distinct member phase

end Steps

section Moves

/-- No worker comes, goes or stops waiting unless a dispatcher is set up or a worker takes a
step. -/
theorem staff_of_after? (orderly : service.Orderly) (tracked : service.Tracked)
    (moved : service.after? move = some after) :
    after.staff = service.staff ∨ (∃ request, move = .advance request) ∨
      ∃ name workers shared, move = .addDispatcher name workers shared := by
  cases move with
  | advance request => exact .inr (.inl ⟨request, rfl⟩)
  | process origin =>
      obtain ⟨owner, message, rest, _, processed⟩ := exists_processed orderly moved
      obtain ⟨counts, proceeds⟩ := processed.proceeds tracked
      exact .inl proceeds.staff
  | submit origin query =>
      obtain ⟨owner, _, rfl⟩ := Option.map_eq_some_iff.mp moved
      exact .inl (service.proceeds_submit owner.settings query).staff
  | addDispatcher name workers shared => exact .inr (.inr ⟨name, workers, shared, rfl⟩)
  | interpose faults => exact .inl (Option.some.inj moved ▸ rfl)
  | _ => exact .inl (proceeds_of_minor rfl moved).staff

theorem Manned.addDispatcher (manned : service.Manned) (flown : service.Flown) (name : String)
    (workers : Nat) (shared : Option RegistryId) :
    (service.addDispatcher name workers shared).1.Manned where
  distinct := by
    have ids : (service.addDispatcher name workers shared).1.poolIds =
        service.poolIds ++ [⟨service.dispatchersMade + 1⟩] := by
      simp [Service.addDispatcher, poolIds]
    rw [ids]
    refine List.nodup_append.mpr ⟨manned.distinct, List.nodup_singleton _, ?_⟩
    intro id old other new same
    have made := flown.made id old
    rw [same, List.mem_singleton.mp new] at made
    exact Nat.not_succ_le_self _ made
  workers pool member := by
    rcases List.mem_append.mp member with old | new
    · exact manned.workers pool old
    · obtain rfl := List.mem_singleton.mp new
      have none : mannedAmong service.attempts ⟨service.dispatchersMade + 1⟩ = 0 := by
        refine List.countP_eq_zero.mpr fun attempt among => ?_
        have made := flown.made _ (flown.known attempt among)
        have elsewhere : attempt.dispatcher ≠ ⟨service.dispatchersMade + 1⟩ := fun same =>
          Nat.not_succ_le_self _ (same ▸ made)
        simp [elsewhere]
      exact congrArg (workers + ·) none

theorem Manned.moved (manned : service.Manned) (orderly : service.Orderly)
    (tracked : service.Tracked) (provided : service.Provided)
    (moved : service.after? move = some after) : after.Manned := by
  rcases staff_of_after? orderly tracked moved with
    staff | ⟨request, rfl⟩ | ⟨name, workers, shared, rfl⟩
  · rcases begins_of_after? orderly.ready moved with begins | ⟨request, rfl, _⟩
    · obtain ⟨added, attempts, fresh⟩ := begins.attempts
      refine manned.of_staff staff fun id => ?_
      rw [attempts, attempts_taking, mannedAmong_append,
        mannedAmong_queued (fun attempt member => (fresh attempt member).1) id, Nat.add_zero]
    · obtain rfl := Option.some.inj moved
      exact manned.advance tracked.distinct request
  · obtain rfl := Option.some.inj moved
    exact manned.advance tracked.distinct request
  · obtain rfl := Option.some.inj moved
    exact manned.addDispatcher provided.flown name workers shared

theorem manned_of_reaches {permitted : Service → Move → Prop} {schema : TableSchema}
    (run : (Service.new schema).Reaches permitted service) : service.Manned := by
  induction run with
  | start => exact manned_new schema
  | move move earlier _ moved inductionHypothesis =>
      exact inductionHypothesis.moved (orderly_of_reaches earlier) (tracked_of_reaches earlier)
        (provided_of_reaches earlier) moved

end Moves

end Service

end SnapshotQuery
