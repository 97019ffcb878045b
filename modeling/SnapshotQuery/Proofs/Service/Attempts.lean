import SnapshotQuery.Proofs.Service.Calls

/-!
# Steps of an attempt

One step of a worker moves one attempt to its next phase, or forgets it: without
a message if its request is cancelled, and with one otherwise.
-/

namespace SnapshotQuery

/-- What an attempt has come to. -/
def Phase.outcome? : Phase → Option Outcome
  | finished outcome | released outcome | checked outcome => some outcome
  | queued | admitted | abandoned | cleared => none

/-- The steps that an attempt still takes. -/
def Phase.stepsLeft : Phase → Nat
  | queued => 6
  | admitted => 5
  | cleared => 4
  | finished _ => 3
  | released _ => 2
  | checked _ | abandoned => 1

/-- The message an attempt ends with. -/
def Attempt.completion (attempt : Attempt) (outcome : Outcome) : Completion where
  request := attempt.request
  origin := attempt.origin
  attempt := attempt.number
  result := outcome.result
  snapshot := outcome.snapshot

namespace Service

/-- How an attempt passes to another phase. -/
inductive Passes (service : Service) (attempt : Attempt) : Service → Phase → Prop
  | refused {pool} (queued : attempt.phase = .queued)
      (found : service.dispatcher? attempt.dispatcher = some pool) (closed : pool.closed = true) :
      Passes service attempt service (.finished ⟨.error .dispatcherClosed, none, false⟩)
  | admitted {id change} (queued : attempt.phase = .queued) :
      Passes service attempt (service.updateDispatcher id change) .admitted
  | abandoned (admitted : attempt.phase = .admitted)
      (set : service.isCancelled attempt.request = true) :
      Passes service attempt service .abandoned
  | cleared (admitted : attempt.phase = .admitted)
      (unset : service.isCancelled attempt.request = false) :
      Passes service attempt service .cleared
  | finished {moment outcome} (cleared : attempt.phase = .cleared)
      (evaluated : service.evaluateAttempt attempt = (moment, outcome)) :
      Passes service attempt moment (.finished outcome)
  | released {outcome} (finished : attempt.phase = .finished outcome) :
      Passes service attempt (service.leaveFlight attempt) (.released outcome)
  | checked {outcome moment} (released : attempt.phase = .released outcome)
      (unset : service.isCancelled attempt.request = false)
      (reported : Interlude [] service moment) :
      Passes service attempt moment (.checked outcome)

/-- What one step does to the attempt of a request. -/
inductive Advanced (service : Service) (request : RequestId) : Service → Prop
  | waiting : Advanced service request service
  | moved {attempt moment phase} (member : attempt ∈ service.attempts)
      (same : attempt.request = request) (passes : service.Passes attempt moment phase) :
      Advanced service request (moment.setPhase request phase)
  | skipped {attempt moment} (member : attempt ∈ service.attempts)
      (same : attempt.request = request)
      (seen : attempt.phase = .abandoned ∨ service.isCancelled request = true)
      (interlude : Interlude [] service moment) :
      Advanced service request (moment.dropAttempt request)
  | orphaned {attempt moment} (member : attempt ∈ service.attempts)
      (same : attempt.request = request) (gone : service.origin? attempt.origin = none)
      (interlude : Interlude [] service moment) :
      Advanced service request (moment.dropAttempt request)
  | posted {attempt outcome moment owner} (member : attempt ∈ service.attempts)
      (same : attempt.request = request) (checked : attempt.phase = .checked outcome)
      (interlude : Interlude [] service moment)
      (found : moment.origin? attempt.origin = some owner) :
      Advanced service request
        ((moment.post attempt.origin (.completed (attempt.completion outcome))).dropAttempt request)

variable {service : Service} {attempt : Attempt}

theorem request_of_find? {wanted : RequestId}
    (found : (service.attempts.find? fun attempt => attempt.request = wanted) = some attempt) :
    attempt.request = wanted := by
  simpa using List.find?_some found

theorem dispatcher?_id {id : DispatcherId} {pool : Dispatcher}
    (found : service.dispatcher? id = some pool) : pool.id = id := by
  simpa using List.find?_some found

theorem interlude_leaveFlight : Interlude [] service (service.leaveFlight attempt) :=
  service.interlude_updateDispatcher _ _

theorem interlude_freeWorker : Interlude [] service (service.freeWorker attempt) :=
  service.interlude_updateDispatcher _ _

theorem Passes.interlude {moment : Service} {phase : Phase}
    (passes : service.Passes attempt moment phase) : Interlude [] service moment := by
  cases passes with
  | refused queued => exact .refl service
  | admitted queued => exact service.interlude_updateDispatcher _ _
  | abandoned admitted set => exact .refl service
  | cleared admitted unset => exact .refl service
  | finished cleared evaluated =>
      have interlude := service.interlude_evaluateAttempt attempt
      rw [evaluated] at interlude
      exact interlude
  | released finished => exact interlude_leaveFlight
  | checked released unset reported => exact reported

theorem advanced_giveWorker (member : attempt ∈ service.attempts)
    (queued : attempt.phase = .queued) :
    service.Advanced attempt.request (service.giveWorker attempt) := by
  unfold giveWorker
  cases found : service.dispatcher? attempt.dispatcher with
  | none => exact .waiting
  | some dispatcher =>
      simp only
      split
      · rename_i closed
        exact .moved member rfl (.refused queued found closed)
      · split
        · exact .waiting
        · exact .moved member rfl (.admitted queued)

theorem advanced_skipOutcome (member : attempt ∈ service.attempts)
    (set : service.isCancelled attempt.request = true) (outcome : Outcome) :
    service.Advanced attempt.request (service.skipOutcome attempt outcome) := by
  have freed : Interlude [] service (if outcome.evaluated then
      (service.report (.attemptSkipped attempt.request attempt.number .afterEvaluation)).freeWorker
        attempt
    else service) := by
    split
    · exact (service.interlude_report _).then interlude_freeWorker
    · exact .refl service
  exact .skipped member rfl (.inr set) (freed.then (interlude_releaseAll _ _))

theorem advanced_postOutcome (member : attempt ∈ service.attempts) {outcome : Outcome}
    (checked : attempt.phase = .checked outcome) :
    service.Advanced attempt.request (service.postOutcome attempt outcome) := by
  have freed : Interlude [] service
      (if outcome.evaluated then service.freeWorker attempt else service) := by
    split
    · exact interlude_freeWorker
    · exact .refl service
  have same : (if outcome.evaluated then service.freeWorker attempt else service).origins =
      service.origins := by
    split <;> rfl
  simp only [postOutcome]
  generalize (if outcome.evaluated then service.freeWorker attempt else service) = moment at *
  cases found : moment.origin? attempt.origin with
  | some owner => exact .posted member rfl checked freed found
  | none =>
      have gone : service.origin? attempt.origin = none := by
        rwa [origin?, ← same]
      exact .orphaned member rfl gone
        ((freed.then (moment.interlude_report _)).then (interlude_releaseAll _ _))

/-- What a step of a worker can do. -/
theorem advanced_advance (service : Service) (request : RequestId) :
    service.Advanced request (service.advance request) := by
  unfold advance
  cases found : service.attempts.find? fun attempt => attempt.request = request with
  | none => exact .waiting
  | some attempt =>
      have member := List.mem_of_find?_eq_some found
      have same : attempt.request = request := request_of_find? found
      subst same
      simp only [advanceAttempt]
      cases phase : attempt.phase with
      | queued => exact advanced_giveWorker member phase
      | admitted =>
          cases set : service.isCancelled attempt.request with
          | true => exact .moved member rfl (.abandoned phase set)
          | false => exact .moved member rfl (.cleared phase set)
      | cleared =>
          exact .moved member rfl (.finished phase rfl)
      | abandoned =>
          exact .skipped member rfl (.inl phase)
            ((interlude_leaveFlight.then (interlude_report _ _)).then interlude_freeWorker)
      | finished outcome => exact .moved member rfl (.released phase)
      | released outcome =>
          cases set : service.isCancelled attempt.request with
          | true => exact advanced_skipOutcome member set outcome
          | false =>
              refine .moved member rfl (.checked phase set ?_)
              split
              · exact service.interlude_report _
              · exact .refl service
      | checked outcome => exact advanced_postOutcome member phase

section Progress

/-- The steps that the attempt of a request still takes. -/
def stepsLeft (service : Service) (request : RequestId) : Nat :=
  match service.attempts.find? fun attempt => attempt.request = request with
  | some attempt => attempt.phase.stepsLeft
  | none => 0

/-- The attempt of a request is queued, and no worker is idle. -/
def Starved (service : Service) (request : RequestId) : Prop :=
  ∃ attempt ∈ service.attempts, attempt.request = request ∧ attempt.phase = .queued ∧
    ∀ pool, service.dispatcher? attempt.dispatcher = some pool →
      pool.closed = false ∧ pool.idle = 0

theorem stepsLeft_setPhase (service : Service) {request : RequestId}
    (found : (service.attempts.find? fun attempt => attempt.request = request) = some attempt)
    (phase : Phase) : (service.setPhase request phase).stepsLeft request = phase.stepsLeft := by
  have same : attempt.request = request := request_of_find? found
  have changed : ((service.setPhase request phase).attempts.find? fun attempt =>
      attempt.request = request) = some { attempt with phase } := by
    rw [setPhase, List.find?_map, show _ ∘ _ = fun attempt : Attempt =>
      decide (attempt.request = request) from ?_, found, Option.map_some, if_pos same]
    funext other
    simp only [Function.comp]
    split <;> rfl
  simp only [stepsLeft, changed]

theorem stepsLeft_dropAttempt (service : Service) (request : RequestId) :
    (service.dropAttempt request).stepsLeft request = 0 := by
  have none : ((service.dropAttempt request).attempts.find? fun attempt =>
      attempt.request = request) = none := by
    refine List.find?_eq_none.mpr fun attempt member => ?_
    simpa [dropAttempt] using (List.mem_filter.mp member).2
  simp only [stepsLeft, none]

/-- A step of a worker brings an attempt on, unless it waits for a worker that is idle. -/
theorem stepsLeft_advance_lt (member : attempt ∈ service.attempts)
    (served : ¬ service.Starved attempt.request) :
    (service.advance attempt.request).stepsLeft attempt.request <
      service.stepsLeft attempt.request := by
  generalize about : attempt.request = wanted at served ⊢
  obtain ⟨first, found⟩ : ∃ first,
      (service.attempts.find? fun attempt => attempt.request = wanted) = some first :=
    Option.isSome_iff_exists.mp
      (List.find?_isSome.mpr ⟨attempt, member, decide_eq_true about⟩)
  have among := List.mem_of_find?_eq_some found
  obtain rfl : first.request = wanted := request_of_find? found
  have passes : ∀ (moment : Service) (phase : Phase), moment.attempts = service.attempts →
      phase.stepsLeft < first.phase.stepsLeft →
        (moment.setPhase first.request phase).stepsLeft first.request < first.phase.stepsLeft := by
    intro moment phase kept less
    rwa [moment.stepsLeft_setPhase (kept ▸ found)]
  have left : service.stepsLeft first.request = first.phase.stepsLeft := by
    simp only [stepsLeft, found]
  simp only [left, advance, found, advanceAttempt]
  cases phase : first.phase with
  | queued =>
      rw [phase] at passes
      simp only [giveWorker]
      cases pools : service.dispatcher? first.dispatcher with
      | none => exact absurd ⟨first, among, rfl, phase, by simp [pools]⟩ served
      | some pool =>
          simp only
          split
          · exact passes _ _ rfl (by decide)
          · split
            · exact absurd ⟨first, among, rfl, phase, by simp_all⟩ served
            · exact passes _ _ rfl (by decide)
  | admitted =>
      rw [phase] at passes
      refine passes _ _ rfl ?_
      split <;> decide
  | cleared =>
      rw [phase] at passes
      exact passes _ _ (service.interlude_evaluateAttempt first).attempts (Nat.lt_succ_self 3)
  | finished outcome =>
      rw [phase] at passes
      exact passes _ _ rfl (Nat.lt_succ_self 2)
  | released outcome =>
      rw [phase] at passes
      simp only
      split
      · rw [skipOutcome, stepsLeft_dropAttempt]
        exact Nat.succ_pos 1
      · refine passes _ _ ?_ (Nat.lt_succ_self 1)
        split <;> rfl
  | checked outcome =>
      simp only [postOutcome, stepsLeft_dropAttempt]
      exact Nat.succ_pos 0
  | abandoned =>
      rw [stepsLeft_dropAttempt]
      exact Nat.succ_pos 0

end Progress

end Service

end SnapshotQuery
