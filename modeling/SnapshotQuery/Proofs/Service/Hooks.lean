import SnapshotQuery.Proofs.Service.Arming

/-!
# The budget of hooks

A hook runs on a worker right after the evaluation of an attempt that carries it,
with the version of the rows that were found.  Evaluations come in the order of
their attempts and none is repeated, so the hook runs once for an attempt at
most, before its result is posted, and no more often than the limit allows.
-/

namespace SnapshotQuery

/-- The run of the hook of a request after an evaluation of an attempt of a number. -/
def hookRunAfter? (wanted : RequestId) (limit : Option Nat) :
    Nat × Except CallFailure RowSet → Option HookRun
  | (number, .ok rows) =>
      if attaches limit number then some ⟨wanted, number, rows.version⟩ else none
  | (_, .error _) => none

namespace Service

/-- The number of the attempt of a request that a move evaluates, and what it finds. -/
def evaluated? (service : Service) (wanted : RequestId) :
    Move → Option (Nat × Except CallFailure RowSet)
  | .advance request =>
      if request = wanted then
        match service.attempts.find? fun attempt => attempt.request = wanted with
        | some attempt =>
            match attempt.phase with
            | .cleared => some (attempt.number, service.evaluation attempt)
            | _ => none
        | none => none
      else none
  | _ => none

/-- The evaluations of the attempts of a request while moves are made one after the other. -/
def evaluationsOf (service : Service) (wanted : RequestId) :
    List Move → List (Nat × Except CallFailure RowSet)
  | [] => []
  | move :: rest =>
      match service.after? move with
      | none => []
      | some after => (service.evaluated? wanted move).toList ++ after.evaluationsOf wanted rest

/-- Attempts of a request up to a number are not evaluated any more. -/
structure Surpassed (service : Service) (wanted : RequestId) (number : Nat) : Prop where
  made : wanted.number ≤ service.requestsMade
  attempts : ∀ attempt ∈ service.attempts, attempt.request = wanted →
    attempt.phase.outcome? = none → number < attempt.number
  owned : ∀ id request, service.Owns id request → request.id = wanted → number ≤ request.attempts

/-- The evaluations of the attempts of a request are known, and so is what came of them. -/
structure Hooked (service : Service) (wanted : RequestId) (limit : Option Nat)
    (evaluations : List (Nat × Except CallFailure RowSet)) : Prop where
  runs : service.hookRunsOf wanted = evaluations.filterMap (hookRunAfter? wanted limit)
  ordered : (evaluations.map Prod.fst).Pairwise (· < ·)
  surpassed : ∀ evaluation ∈ evaluations, service.Surpassed wanted evaluation.1
  found : ∀ attempt ∈ service.attempts, attempt.request = wanted → ∀ outcome rows,
    attempt.phase.outcome? = some outcome → outcome.result = .ok rows →
      (attempt.number, .ok rows) ∈ evaluations
  posted : ∀ id completion rows, service.Holds id (.completed completion) →
    completion.request = wanted → completion.result = .ok rows →
      (completion.attempt, .ok rows) ∈ evaluations
  completed : ∀ number rows, .attemptCompleted wanted number (.ok rows) ∈ service.reportsOf wanted →
    (number, .ok rows) ∈ evaluations
  skipped : ∀ number, .attemptSkipped wanted number .beforeEvaluation ∈ service.reportsOf wanted →
    service.Surpassed wanted number ∧ ∀ evaluation ∈ evaluations, evaluation.1 ≠ number

/-- What has become of the hook of a request that has been armed. -/
structure Budgeted (service : Service) (wanted : RequestId) (home : ContextId) (hook : Hook)
    (limit : Option Nat) (evaluations : List (Nat × Except CallFailure RowSet))
    (attempts : Nat) : Prop extends service.Armed wanted home hook limit attempts,
    service.Limits wanted home limit, service.Hooked wanted limit evaluations where
  started : ∀ evaluation ∈ evaluations, 0 < evaluation.1 ∧ evaluation.1 ≤ attempts

/-- The hook has run once at most for each attempt, after its evaluation, and within the limit. -/
structure WithinBudget (service : Service) (wanted : RequestId) (limit : Option Nat)
    (evaluations : List (Nat × Except CallFailure RowSet)) (attempts : Nat) : Prop where
  runs : service.hookRunsOf wanted = evaluations.filterMap (hookRunAfter? wanted limit)
  ordered : ((service.hookRunsOf wanted).map HookRun.attempt).Pairwise (· < ·)
  started : ∀ run ∈ service.hookRunsOf wanted, 0 < run.attempt ∧ run.attempt ≤ attempts
  allowed : ∀ most ∈ limit, (∀ run ∈ service.hookRunsOf wanted, run.attempt ≤ most) ∧
    (service.hookRunsOf wanted).length ≤ most
  ahead : ∀ run ∈ service.hookRunsOf wanted, ∀ attempt ∈ service.attempts,
    attempt.request = wanted → attempt.phase.outcome? = none → run.attempt < attempt.number
  failed : ∀ run ∈ service.hookRunsOf wanted, ∀ failure,
    (run.attempt, .error failure) ∉ evaluations
  skipped : ∀ run ∈ service.hookRunsOf wanted,
    .attemptSkipped wanted run.attempt .beforeEvaluation ∉ service.reportsOf wanted
  reported : ∀ run ∈ service.hookRunsOf wanted, ∀ rows,
    .attemptCompleted wanted run.attempt (.ok rows) ∈ service.reportsOf wanted →
      run.version = rows.version
  posted : ∀ run ∈ service.hookRunsOf wanted, ∀ id completion rows,
    service.Holds id (.completed completion) → completion.request = wanted →
      completion.attempt = run.attempt → completion.result = .ok rows →
        run.version = rows.version

variable {wanted : RequestId} {home : ContextId} {hook : Hook} {limit : Option Nat}
  {attempts number : Nat} {service after last : Service} {move : Move} {attempt : Attempt}
  {id : ContextId} {evaluation : Nat × Except CallFailure RowSet}
  {evaluations : List (Nat × Except CallFailure RowSet)}

section Evaluations

theorem exists_of_evaluated? (evaluated : service.evaluated? wanted move = some evaluation) :
    move = .advance wanted ∧ ∃ attempt,
      (service.attempts.find? fun attempt => attempt.request = wanted) = some attempt ∧
      attempt.phase = .cleared ∧ evaluation = (attempt.number, service.evaluation attempt) := by
  cases move with
  | advance request =>
      simp only [evaluated?] at evaluated
      split at evaluated
      · rename_i same
        refine ⟨congrArg _ same, ?_⟩
        split at evaluated
        · rename_i attempt found
          split at evaluated
          · rename_i cleared
            exact ⟨attempt, found, cleared, (Option.some.inj evaluated).symm⟩
          · cases evaluated
        · cases evaluated
      · cases evaluated
  | _ => cases evaluated

theorem Surpassed.lt_of_evaluated (surpassed : service.Surpassed wanted number)
    (evaluated : service.evaluated? wanted move = some evaluation) : number < evaluation.1 := by
  obtain ⟨_, attempt, found, cleared, rfl⟩ := exists_of_evaluated? evaluated
  have about : attempt.request = wanted := request_of_find? found
  exact surpassed.attempts attempt (List.mem_of_find?_eq_some found) about (cleared ▸ rfl)

/-- What is surpassed stays so. -/
theorem Surpassed.moved (surpassed : service.Surpassed wanted number)
    (orderly : service.Orderly) (tracked : service.Tracked)
    (moved : service.after? move = some after) : after.Surpassed wanted number := by
  have made := Nat.le_trans surpassed.made (requestsMade_le orderly moved)
  by_cases working : move = .advance wanted
  · subst working
    have advanced := service.advanced_advance wanted
    rw [Option.some.inj moved] at advanced
    refine ⟨made, ?_, fun id request owned => surpassed.owned id request
      (advanced.within.owns id request owned)⟩
    intro attempt member about unfound
    obtain ⟨old, oldMember, same, before⟩ :=
      advanced.phases tracked.distinct attempt member
    rw [same] at about ⊢
    exact surpassed.attempts old oldMember about (before unfound)
  rcases rests_or_launches_of_after? orderly tracked moved working with
    rests | ⟨moment, origin, request, launches, rfl⟩
  · exact ⟨made, fun attempt member about => surpassed.attempts attempt
      (rests.attempts attempt member about) about, fun id request owned about =>
        surpassed.owned id request (rests.owns id request owned about) about⟩
  rcases launches.source with ⟨held, owned, rfl⟩ | ⟨⟨query, rfl⟩, _⟩
  · have most := surpassed.owned origin.id held owned rfl
    refine ⟨made, ?_, ?_⟩
    · intro attempt member about _
      rw [(launches.attempts attempt member about).1]
      exact Nat.lt_succ_of_le most
    · intro id request owned about
      rw [launches.owns id request owned about]
      exact Nat.le_succ_of_le most
  · exact absurd surpassed.made (Nat.not_succ_le_self _)

/-- An attempt that came to something is surpassed. -/
theorem surpassed_of_found (tracked : service.Tracked) (member : attempt ∈ service.attempts)
    {outcome : Outcome} (found : attempt.phase.outcome? = some outcome) :
    service.Surpassed attempt.request attempt.number := by
  refine ⟨tracked.ticketsMade _ (mem_tickets.mpr (.inl ⟨attempt, member, rfl⟩)), ?_, ?_⟩
  · intro other among about unfound
    obtain rfl := List.inj_on_of_nodup_map tracked.distinct among member
      about
    exact absurd (unfound.symm.trans found) nofun
  · intro id request owned about
    exact Nat.le_of_eq (tracked.attempts attempt member id request owned about).2

/-- A result that is posted is surpassed. -/
theorem surpassed_of_posted (tracked : service.Tracked) {completion : Completion}
    (held : service.Holds id (.completed completion)) :
    service.Surpassed completion.request completion.attempt := by
  refine ⟨tracked.ticketsMade _ (mem_tickets.mpr (.inr ⟨id, completion, held, rfl⟩)), ?_, ?_⟩
  · exact fun other among about => absurd about (held.no_attempt tracked.tickets other among)
  · intro other request owned about
    exact Nat.le_of_eq (tracked.results id completion held other request owned about).2

theorem evaluated?_of_cleared
    (distinct : (service.attempts.map fun attempt => attempt.request).Nodup)
    (member : attempt ∈ service.attempts) (cleared : attempt.phase = .cleared) :
    service.evaluated? attempt.request (.advance attempt.request) =
      some (attempt.number, service.evaluation attempt) := by
  simp only [evaluated?, if_true, find?_attempt distinct member, cleared]

/-- Rows that an attempt has found come from its evaluation. -/
theorem Advanced.found (advanced : service.Advanced wanted after)
    (distinct : (service.attempts.map fun attempt => attempt.request).Nodup) {other : Attempt}
    (among : other ∈ after.attempts) {outcome : Outcome} {rows : RowSet}
    (found : other.phase.outcome? = some outcome) (result : outcome.result = .ok rows) :
    (∃ old ∈ service.attempts, old.request = other.request ∧ old.number = other.number ∧
        old.phase.outcome? = some outcome) ∨
      service.evaluated? wanted (.advance wanted) = some (other.number, .ok rows) := by
  have dropped : ∀ moment : Service, Interlude [] service moment →
      other ∈ (moment.dropAttempt wanted).attempts →
        ∃ old ∈ service.attempts, old.request = other.request ∧ old.number = other.number ∧
          old.phase.outcome? = some outcome :=
    fun moment interlude among =>
      ⟨other, interlude.attempts ▸ (List.mem_filter.mp among).1, rfl, rfl, found⟩
  cases advanced with
  | waiting => exact .inl ⟨other, among, rfl, rfl, found⟩
  | skipped _ _ _ interlude => exact .inl (dropped _ interlude among)
  | orphaned _ _ _ interlude => exact .inl (dropped _ interlude among)
  | posted _ _ _ interlude _ => exact .inl (dropped _ interlude among)
  | @moved attempt moment phase member same passes =>
      subst same
      have kept := passes.interlude.attempts
      rcases of_mem_setPhase (kept ▸ distinct) (kept ▸ member) among with old | rfl
      · exact .inl ⟨other, kept ▸ old, rfl, rfl, found⟩
      cases passes with
      | admitted _ => exact absurd found nofun
      | abandoned _ _ => exact absurd found nofun
      | cleared _ _ => exact absurd found nofun
      | refused _ _ _ =>
          obtain rfl := Option.some.inj found
          exact absurd result nofun
      | released finished => exact .inl ⟨attempt, member, rfl, rfl, finished ▸ found⟩
      | checked released _ _ => exact .inl ⟨attempt, member, rfl, rfl, released ▸ found⟩
      | finished cleared evaluated =>
          obtain rfl := Option.some.inj found
          right
          rw [evaluated?_of_cleared distinct member cleared]
          have comes := (@notes_evaluateAttempt attempt.request service attempt).2
          rw [evaluated] at comes
          rw [comes rows result]

theorem hookRunsOf_advance (armed : service.Armed wanted home hook limit attempts) :
    (service.advance wanted).hookRunsOf wanted = service.hookRunsOf wanted ++
      (service.evaluated? wanted (.advance wanted)).toList.filterMap
        (hookRunAfter? wanted limit) := by
  simp only [evaluated?, if_true]
  cases found : service.attempts.find? fun attempt => attempt.request = wanted with
  | none =>
      rw [advance_of_idle found]
      exact (List.append_nil _).symm
  | some attempt =>
      have about := request_of_find? found
      obtain ⟨_, _, carried⟩ := armed.carried attempt (List.mem_of_find?_eq_some found) about
      rw [(notes_advance found).hookRunsOf]
      cases phase : attempt.phase with
      | cleared =>
          simp only [Attempt.hookRuns, phase]
          cases service.evaluation attempt with
          | error failure => rfl
          | ok rows =>
              simp only [Attempt.hookRun?, carried, about, Option.toList_some,
                List.filterMap_cons, List.filterMap_nil, hookRunAfter?]
              cases attaches limit attempt.number <;> rfl
      | queued | admitted | abandoned | finished _ | released _ | checked _ =>
          simp only [Attempt.hookRuns, phase]
          rfl

/-- What a step of a worker posts is what the attempt has come to. -/
theorem Advanced.posts (advanced : service.Advanced wanted after) {completion : Completion}
    (held : after.Holds id (.completed completion)) :
    service.Holds id (.completed completion) ∨ ∃ attempt ∈ service.attempts, ∃ outcome,
      attempt.phase.outcome? = some outcome ∧ completion = attempt.completion outcome := by
  cases advanced with
  | waiting => exact .inl held
  | moved _ _ passes => exact .inl (passes.interlude.holds_completed_iff.mp held)
  | skipped _ _ _ interlude => exact .inl (interlude.holds_completed_iff.mp held)
  | orphaned _ _ _ interlude => exact .inl (interlude.holds_completed_iff.mp held)
  | @posted attempt outcome _ _ member _ checked interlude _ =>
      rcases holds_of_post held with old | ⟨_, new⟩
      · exact .inl (interlude.holds_completed_iff.mp old)
      · exact .inr ⟨attempt, member, outcome, checked ▸ rfl, Message.completed.inj new⟩

theorem of_mem_reportsOf_advance {event : Event}
    (member : event ∈ (service.advance wanted).reportsOf wanted) :
    event ∈ service.reportsOf wanted ∨ ∃ attempt ∈ service.attempts, attempt.request = wanted ∧
      event ∈ attempt.reports (service.isCancelled attempt.request) := by
  cases found : service.attempts.find? fun attempt => attempt.request = wanted with
  | none =>
      rw [advance_of_idle found] at member
      exact .inl member
  | some attempt =>
      rw [(notes_advance found).reportsOf] at member
      exact (List.mem_append.mp member).imp_right fun new =>
        ⟨attempt, List.mem_of_find?_eq_some found, request_of_find? found, new⟩

theorem surpassed_of_evaluated (tracked : (service.advance wanted).Tracked)
    (evaluated : service.evaluated? wanted move = some evaluation) :
    (service.advance wanted).Surpassed wanted evaluation.1 := by
  obtain ⟨_, attempt, found, cleared, rfl⟩ := exists_of_evaluated? evaluated
  obtain rfl : attempt.request = wanted := request_of_find? found
  let finished : Attempt :=
    { attempt with phase := .finished (service.evaluateAttempt attempt).2 }
  have member : finished ∈ (service.advance attempt.request).attempts := by
    simp only [advance, found, advanceAttempt, cleared]
    refine List.mem_map.mpr ⟨attempt, ?_, if_pos rfl⟩
    exact (service.interlude_evaluateAttempt attempt).attempts ▸ List.mem_of_find?_eq_some found
  have surpassed : (service.advance attempt.request).Surpassed finished.request finished.number :=
    surpassed_of_found tracked member rfl
  exact surpassed

/-- An attempt that is given up before its evaluation will not be evaluated. -/
theorem surpassed_of_abandoned (tracked : service.Tracked) (member : attempt ∈ service.attempts)
    (abandoned : attempt.phase = .abandoned) :
    (service.advance attempt.request).Surpassed attempt.request attempt.number := by
  have found := find?_attempt tracked.distinct member
  have within := (service.advanced_advance attempt.request).within
  have made := tracked.ticketsMade _ (mem_tickets.mpr (.inl ⟨attempt, member, rfl⟩))
  refine ⟨Nat.le_trans made within.requestsMade, ?_, ?_⟩
  · intro other among about _
    simp only [advance, found, advanceAttempt, abandoned] at among
    exact absurd about (of_decide_eq_true (List.mem_filter.mp among).2)
  · intro id request owned about
    exact Nat.le_of_eq
      (tracked.attempts attempt member id request (within.owns id request owned) about).2

end Evaluations

section Steps

theorem Hooked.advance (hooked : service.Hooked wanted limit evaluations)
    (armed : service.Armed wanted home hook limit attempts) (orderly : service.Orderly)
    (tracked : service.Tracked) (trackedAfter : (service.advance wanted).Tracked) :
    (service.advance wanted).Hooked wanted limit
      (evaluations ++ (service.evaluated? wanted (.advance wanted)).toList) := by
  have distinct := tracked.distinct
  have advanced := service.advanced_advance wanted
  have moved : service.after? (.advance wanted) = some (service.advance wanted) := rfl
  have still : ∀ {number}, service.Surpassed wanted number →
      (service.advance wanted).Surpassed wanted number :=
    fun surpassed => surpassed.moved orderly tracked moved
  have earlier : ∀ {evaluation}, evaluation ∈ evaluations → evaluation ∈ evaluations ++
      (service.evaluated? wanted (.advance wanted)).toList :=
    fun member => List.mem_append_left _ member
  constructor
  · rw [hookRunsOf_advance armed, hooked.runs, List.filterMap_append]
  · rw [List.map_append, List.pairwise_append]
    refine ⟨hooked.ordered, ?_, ?_⟩
    · cases service.evaluated? wanted (.advance wanted) <;> simp
    · intro number member next among
      obtain ⟨evaluation, old, rfl⟩ := List.mem_map.mp member
      obtain ⟨later, new, rfl⟩ := List.mem_map.mp among
      exact (hooked.surpassed evaluation old).lt_of_evaluated (Option.mem_toList.mp new)
  · intro evaluation member
    rcases List.mem_append.mp member with old | new
    · exact still (hooked.surpassed evaluation old)
    · exact surpassed_of_evaluated trackedAfter (Option.mem_toList.mp new)
  · intro attempt among about outcome rows found result
    rcases advanced.found distinct among found result with ⟨old, member, same, number, before⟩ | new
    · exact earlier (number ▸ hooked.found old member (same.trans about) outcome rows before result)
    · exact List.mem_append_right _ (Option.mem_toList.mpr new)
  · intro id completion rows held about result
    rcases advanced.posts held with old | ⟨attempt, member, outcome, found, rfl⟩
    · exact earlier (hooked.posted id completion rows old about result)
    · exact earlier (hooked.found attempt member about outcome rows found result)
  · intro number rows member
    rcases of_mem_reportsOf_advance member with old | ⟨attempt, among, about, new⟩
    · exact earlier (hooked.completed number rows old)
    · rcases of_mem_reports new with ⟨_, same⟩ | ⟨outcome, released, same | same⟩
      · cases same
      · cases same
      · obtain ⟨_, rfl, result⟩ := Event.attemptCompleted.inj same
        exact earlier (hooked.found attempt among about outcome rows (released ▸ rfl) result.symm)
  · intro number member
    rcases of_mem_reportsOf_advance member with old | ⟨attempt, among, about, new⟩
    · obtain ⟨surpassed, others⟩ := hooked.skipped number old
      refine ⟨still surpassed, fun evaluation member => ?_⟩
      rcases List.mem_append.mp member with old | new
      · exact others evaluation old
      · exact (surpassed.lt_of_evaluated (Option.mem_toList.mp new)).ne'
    · rcases of_mem_reports new with ⟨abandoned, same⟩ | ⟨outcome, _, same | same⟩
      · obtain ⟨_, rfl, _⟩ := Event.attemptSkipped.inj same
        obtain rfl := about
        refine ⟨surpassed_of_abandoned tracked among abandoned, fun evaluation member => ?_⟩
        rcases List.mem_append.mp member with old | new
        · exact ((hooked.surpassed evaluation old).attempts attempt among rfl
            (abandoned ▸ rfl)).ne
        · obtain ⟨_, other, found, cleared, _⟩ := exists_of_evaluated? (Option.mem_toList.mp new)
          obtain rfl := Option.some.inj ((find?_attempt distinct among).symm.trans found)
          exact absurd (abandoned.symm.trans cleared) nofun
      · cases same
      · cases same

/-- Nothing is evaluated unless a worker takes the attempt on. -/
theorem Hooked.kept (hooked : service.Hooked wanted limit evaluations) (orderly : service.Orderly)
    (tracked : service.Tracked) (moved : service.after? move = some after)
    (working : move ≠ .advance wanted) : after.Hooked wanted limit evaluations := by
  have still : ∀ {number}, service.Surpassed wanted number → after.Surpassed wanted number :=
    fun surpassed => surpassed.moved orderly tracked moved
  rcases rests_or_launches_of_after? orderly tracked moved working with
    rests | ⟨moment, origin, request, launches, rfl⟩
  · have reports := rests.reportsOf
    refine ⟨rests.hookRunsOf.trans hooked.runs, hooked.ordered,
      fun evaluation member => still (hooked.surpassed evaluation member), ?_, ?_, ?_, ?_⟩
    · exact fun attempt member about =>
        hooked.found attempt (rests.attempts attempt member about) about
    · exact fun id completion rows held about =>
        hooked.posted id completion rows (rests.holds id completion held about) about
    · exact fun number rows member => hooked.completed number rows (reports ▸ member)
    · exact fun number member =>
        (hooked.skipped number (reports ▸ member)).imp_left still
  · obtain ⟨hook, notes⟩ := launches.notes
    have reported : ∀ event ∈ after.reportsOf request.id, event ∈ service.reportsOf request.id ∨
        event = .attemptDispatched request.id (request.attempts + 1) hook := by
      intro event member
      rw [notes.reportsOf] at member
      exact (List.mem_append.mp member).imp_right List.mem_singleton.mp
    refine ⟨?_, hooked.ordered,
      fun evaluation member => still (hooked.surpassed evaluation member), ?_, ?_, ?_, ?_⟩
    · rw [notes.hookRunsOf, List.append_nil, hooked.runs]
    · intro attempt member about outcome rows found
      rw [(launches.attempts attempt member about).2] at found
      cases found
    · intro id completion rows held about result
      obtain ⟨error, refused⟩ := launches.posted id completion held about
      exact absurd (result.symm.trans refused) nofun
    · intro number rows member
      rcases reported _ member with old | new
      · exact hooked.completed number rows old
      · cases new
    · intro number member
      rcases reported _ member with old | new
      · exact (hooked.skipped number old).imp_left still
      · cases new

/-- The evaluations are known after a move if they were before. -/
theorem Hooked.moved (hooked : service.Hooked wanted limit evaluations)
    (armed : service.Armed wanted home hook limit attempts) (orderly : service.Orderly)
    (tracked : service.Tracked) (trackedAfter : after.Tracked)
    (moved : service.after? move = some after) :
    after.Hooked wanted limit (evaluations ++ (service.evaluated? wanted move).toList) := by
  by_cases working : move = .advance wanted
  · subst working
    obtain rfl := Option.some.inj moved
    exact hooked.advance armed orderly tracked trackedAfter
  have unevaluated : service.evaluated? wanted move = none := by
    cases evaluated : service.evaluated? wanted move with
    | none => rfl
    | some evaluation => exact absurd (exists_of_evaluated? evaluated).1 working
  rw [unevaluated, Option.toList_none, List.append_nil]
  exact hooked.kept orderly tracked moved working

theorem Budgeted.moved
    (budgeted : service.Budgeted wanted home hook limit evaluations attempts)
    (orderly : service.Orderly) (tracked : service.Tracked) (trackedAfter : after.Tracked)
    (moved : service.after? move = some after) : ∃ later, after.Budgeted wanted home hook limit
      (evaluations ++ (service.evaluated? wanted move).toList) later := by
  obtain ⟨later, more, armed⟩ := budgeted.toArmed.moved budgeted.toLimits orderly tracked moved
  refine ⟨later, armed, budgeted.toLimits.moved orderly moved,
    budgeted.toHooked.moved budgeted.toArmed orderly tracked trackedAfter moved, ?_⟩
  intro evaluation member
  rcases List.mem_append.mp member with old | new
  · obtain ⟨positive, most⟩ := budgeted.started evaluation old
    exact ⟨positive, Nat.le_trans most more⟩
  · obtain ⟨_, attempt, found, _, rfl⟩ := exists_of_evaluated? (Option.mem_toList.mp new)
    have about : attempt.request = wanted := request_of_find? found
    obtain ⟨positive, most, _⟩ :=
      budgeted.carried attempt (List.mem_of_find?_eq_some found) about
    exact ⟨positive, Nat.le_trans most more⟩

end Steps

section Runs

variable {schema : TableSchema} {moves : List Move} {permitted : Service → Move → Prop}

theorem evaluationsOf_cons {rest : List Move} (moved : service.after? move = some after) :
    service.evaluationsOf wanted (move :: rest) =
      (service.evaluated? wanted move).toList ++ after.evaluationsOf wanted rest := by
  simp only [evaluationsOf, moved]

/-- Of a request that is not made yet nothing is evaluated. -/
theorem hooked_of_unmade (run : (Service.new schema).Reaches permitted service)
    (unmade : service.requestsMade < wanted.number) : service.Hooked wanted limit [] := by
  obtain ⟨reports, runs⟩ := unheard_of_reaches run unmade
  have tracked := tracked_of_reaches run
  have unused := ne_of_not_mem_tickets fun ticket =>
    Nat.not_lt_of_le (tracked.ticketsMade wanted ticket) unmade
  refine ⟨runs, .nil, List.forall_mem_nil _, ?_, ?_, ?_, ?_⟩
  · exact fun attempt member about => absurd about.symm (unused.1 attempt member)
  · exact fun id completion rows held about => absurd about.symm (unused.2 id completion held)
  · exact fun number rows member => absurd (reports ▸ member) List.not_mem_nil
  · exact fun number member => absurd (reports ▸ member) List.not_mem_nil

theorem Budgeted.followed
    (budgeted : service.Budgeted wanted home hook limit evaluations attempts)
    (run : (Service.new schema).Reaches (fun _ _ => True) service)
    (later : service.afterAll? moves = some last) : ∃ attempts, last.Budgeted wanted home hook limit
      (evaluations ++ service.evaluationsOf wanted moves) attempts := by
  induction moves generalizing service evaluations attempts with
  | nil =>
      obtain rfl := Option.some.inj later
      exact ⟨attempts, (List.append_nil evaluations).symm ▸ budgeted⟩
  | cons move rest inductionHypothesis =>
      obtain ⟨after, moved, later⟩ := Option.bind_eq_some_iff.mp later
      have next := run.move move trivial moved
      obtain ⟨_, budgeted⟩ := budgeted.moved (orderly_of_reaches run) (tracked_of_reaches run)
        (tracked_of_reaches next) moved
      rw [evaluationsOf_cons moved, ← List.append_assoc]
      exact inductionHypothesis budgeted next later

/-- Attempts that are evaluated come after those that are surpassed. -/
theorem Surpassed.lt_evaluationsOf (surpassed : service.Surpassed wanted number)
    (run : (Service.new schema).Reaches (fun _ _ => True) service)
    (later : service.afterAll? moves = some last) :
    ∀ evaluation ∈ service.evaluationsOf wanted moves, number < evaluation.1 := by
  induction moves generalizing service with
  | nil => exact fun _ member => absurd member List.not_mem_nil
  | cons move rest inductionHypothesis =>
      obtain ⟨after, moved, later⟩ := Option.bind_eq_some_iff.mp later
      have next := run.move move trivial moved
      have still := surpassed.moved (orderly_of_reaches run) (tracked_of_reaches run) moved
      intro evaluation member
      rw [evaluationsOf_cons moved] at member
      rcases List.mem_append.mp member with now | others
      · exact surpassed.lt_of_evaluated (Option.mem_toList.mp now)
      · exact inductionHypothesis still next later evaluation others

theorem afterAll?_append (service : Service) (earlier others : List Move) :
    service.afterAll? (earlier ++ others) =
      (service.afterAll? earlier).bind fun middle => middle.afterAll? others := by
  induction earlier generalizing service with
  | nil => rfl
  | cons move rest inductionHypothesis =>
      simp only [List.cons_append, afterAll?, Option.bind_assoc, inductionHypothesis]

theorem evaluationsOf_append {middle : Service} {earlier others : List Move}
    (reached : service.afterAll? earlier = some middle) :
    service.evaluationsOf wanted (earlier ++ others) =
      service.evaluationsOf wanted earlier ++ middle.evaluationsOf wanted others := by
  induction earlier generalizing service with
  | nil =>
      obtain rfl := Option.some.inj reached
      rfl
  | cons move rest inductionHypothesis =>
      obtain ⟨after, moved, reached⟩ := Option.bind_eq_some_iff.mp reached
      rw [List.cons_append, evaluationsOf_cons moved, evaluationsOf_cons moved,
        inductionHypothesis reached, List.append_assoc]

end Runs

section Budget

variable {schema : TableSchema} {submitted : Service} {owner : Origin} {query : Query}
  {moves : List Move}

theorem of_hookRunAfter? {run : HookRun} (ran : hookRunAfter? wanted limit evaluation = some run) :
    attaches limit run.attempt = true ∧
      ∃ rows, evaluation = (run.attempt, .ok rows) ∧ run.version = rows.version := by
  obtain ⟨number, found⟩ := evaluation
  cases found with
  | error failure => cases ran
  | ok rows =>
      obtain ⟨attached, same⟩ := Option.ite_none_right_eq_some.mp ran
      obtain rfl := Option.some.inj same
      exact ⟨attached, rows, rfl, rfl⟩

theorem Hooked.exists_evaluation (hooked : service.Hooked wanted limit evaluations) {run : HookRun}
    (member : run ∈ service.hookRunsOf wanted) : attaches limit run.attempt = true ∧
      ∃ rows, (run.attempt, .ok rows) ∈ evaluations ∧ run.version = rows.version := by
  rw [hooked.runs] at member
  obtain ⟨evaluation, among, ran⟩ := List.mem_filterMap.mp member
  obtain ⟨attached, rows, rfl, version⟩ := of_hookRunAfter? ran
  exact ⟨attached, rows, among, version⟩

/-- No attempt is evaluated twice. -/
theorem Hooked.unique (hooked : service.Hooked wanted limit evaluations)
    {found other : Except CallFailure RowSet} (member : (number, found) ∈ evaluations)
    (among : (number, other) ∈ evaluations) : found = other := by
  have distinct : (evaluations.map Prod.fst).Nodup := hooked.ordered.imp fun less => less.ne
  exact congrArg Prod.snd (List.inj_on_of_nodup_map distinct member among rfl)

theorem Hooked.ordered_hookRunsOf (hooked : service.Hooked wanted limit evaluations) :
    ((service.hookRunsOf wanted).map HookRun.attempt).Pairwise (· < ·) := by
  rw [hooked.runs, List.pairwise_map, List.pairwise_filterMap]
  refine (List.pairwise_map.mp hooked.ordered).imp ?_
  intro earlier later less first ran second again
  obtain ⟨_, _, rfl, _⟩ := of_hookRunAfter? ran
  obtain ⟨_, _, rfl, _⟩ := of_hookRunAfter? again
  exact less

theorem Budgeted.withinBudget
    (budgeted : service.Budgeted wanted home hook limit evaluations attempts) :
    service.WithinBudget wanted limit evaluations attempts := by
  have hooked := budgeted.toHooked
  have started : ∀ run ∈ service.hookRunsOf wanted, 0 < run.attempt ∧ run.attempt ≤ attempts := by
    intro run member
    obtain ⟨_, rows, among, _⟩ := hooked.exists_evaluation member
    exact budgeted.started _ among
  have agrees : ∀ run ∈ service.hookRunsOf wanted, ∀ rows,
      (run.attempt, .ok rows) ∈ evaluations → run.version = rows.version := by
    intro run member rows among
    obtain ⟨_, others, found, version⟩ := hooked.exists_evaluation member
    exact version.trans (congrArg RowSet.version (Except.ok.inj (hooked.unique found among)))
  refine ⟨hooked.runs, hooked.ordered_hookRunsOf, started, ?_, ?_, ?_, ?_, ?_, ?_⟩
  · intro most limited
    obtain rfl : limit = some most := limited
    have allowed : ∀ run ∈ service.hookRunsOf wanted, run.attempt ≤ most := by
      intro run member
      exact of_decide_eq_true (hooked.exists_evaluation member).1
    have distinct : ((service.hookRunsOf wanted).map HookRun.attempt).Nodup :=
      hooked.ordered_hookRunsOf.imp fun less => less.ne
    have among : (service.hookRunsOf wanted).map HookRun.attempt ⊆ List.range' 1 most := by
      intro number member
      obtain ⟨run, ran, rfl⟩ := List.mem_map.mp member
      obtain ⟨positive, _⟩ := started run ran
      exact List.mem_range'_1.mpr ⟨positive, by have most := allowed run ran; omega⟩
    have fewer := (distinct.subperm among).length_le
    rw [List.length_map, List.length_range'] at fewer
    exact ⟨allowed, fewer⟩
  · intro run member
    obtain ⟨_, rows, found, _⟩ := hooked.exists_evaluation member
    exact (hooked.surpassed _ found).attempts
  · intro run member failure failed
    obtain ⟨_, rows, found, _⟩ := hooked.exists_evaluation member
    exact absurd (hooked.unique found failed) nofun
  · intro run member skip
    obtain ⟨_, rows, found, _⟩ := hooked.exists_evaluation member
    exact (hooked.skipped run.attempt skip).2 _ found rfl
  · intro run member rows completed
    exact agrees run member rows (hooked.completed run.attempt rows completed)
  · intro run member id completion rows held about same result
    exact agrees run member rows (same ▸ hooked.posted id completion rows held about result)

/-- The budget of the hook of a query.  It is attached to the attempts up to the limit of the
origin, as they are counted, and to no others.  It runs after the evaluations of these that found
rows, with the version of the rows, for one attempt after the other, and not for attempts that are
given up before their evaluation or fail in it.  Once a result is posted, it has run for that
attempt or never will. -/
theorem hook_budget
    (run : (Service.new schema).Reaches (fun _ _ => True) service)
    (found : service.origin? id = some owner)
    (submits : service.after? (.submit id query) = some submitted)
    (carried : query.hook = some hook)
    (later : submitted.afterAll? moves = some last) :
    let wanted : RequestId := ⟨service.requestsMade + 1⟩
    let limit := owner.settings.config.simulation.maxBackgroundHookRuns
    ∃ attempts, last.Armed wanted id hook limit attempts ∧
      (∀ most ∈ limit, attached limit attempts ≤ most) ∧
      last.WithinBudget wanted limit (submitted.evaluationsOf wanted moves) attempts ∧
      ∀ earlier others middle, moves = earlier ++ others →
        submitted.afterAll? earlier = some middle →
        ∀ home completion, middle.Holds home (.completed completion) →
          completion.request = wanted → ∀ run ∈ last.hookRunsOf wanted,
            run.attempt ≤ completion.attempt → run ∈ middle.hookRunsOf wanted := by
  intro wanted limit
  obtain rfl := origin?_id found
  obtain ⟨armed, limits⟩ := armed_submit run found submits carried
  have next := run.move (.submit owner.settings.id query) trivial submits
  have unevaluated : submitted.Hooked wanted limit [] :=
    (hooked_of_unmade run (Nat.lt_succ_self _)).kept (orderly_of_reaches run)
      (tracked_of_reaches run) submits nofun
  have first : submitted.Budgeted wanted owner.settings.id hook limit [] 1 :=
    ⟨armed, limits, unevaluated, List.forall_mem_nil _⟩
  obtain ⟨attempts, budgeted⟩ := first.followed next later
  rw [List.nil_append] at budgeted
  refine ⟨attempts, budgeted.toArmed, ?_, budgeted.withinBudget, ?_⟩
  · rintro most limited
    simp only [attached, Option.mem_def.mp limited]
    exact Nat.min_le_right attempts most
  · intro earlier others middle split reached home completion held about run member most
    subst split
    rw [afterAll?_append, reached] at later
    obtain ⟨_, before⟩ := first.followed next reached
    have between : (Service.new schema).Reaches (fun _ _ => True) middle :=
      next.trans (reaches_of_moves reached)
    have surpassed := surpassed_of_posted (tracked_of_reaches between) held
    rw [about] at surpassed
    rw [budgeted.runs, evaluationsOf_append reached, List.filterMap_append] at member
    rw [before.runs, List.nil_append]
    refine (List.mem_append.mp member).resolve_right fun after => ?_
    obtain ⟨evaluation, among, ran⟩ := List.mem_filterMap.mp after
    have less := surpassed.lt_evaluationsOf between later evaluation among
    obtain ⟨_, _, rfl, _⟩ := of_hookRunAfter? ran
    exact Nat.not_lt_of_le most less

/-- The hook may run once.  The first attempt is overtaken by a write, and the second one goes
without the hook. -/
theorem hook_budget_of_overtaken :
    let hook : Hook := fun _ => []
    let query : Query := { allRows "overtaken" with policy := .indefinite, hook := some hook }
    let earlier : List Move := overtakenQuery.take 2 ++
      [.addOrigin ⟨1⟩ { Config.default with simulation := ⟨some 1⟩ }]
    let moves := overtakenQuery.drop 4
    ∃ service submitted last,
      (Service.new itemsSchema).afterAll? earlier = some service ∧
      service.after? (.submit ⟨1⟩ query) = some submitted ∧
      submitted.afterAll? moves = some last ∧
      last.Armed ⟨1⟩ ⟨1⟩ hook (some 1) 2 ∧
      last.WithinBudget ⟨1⟩ (some 1) (submitted.evaluationsOf ⟨1⟩ moves) 2 ∧
      last.dispatchesOf ⟨1⟩ = [(1, true), (2, false)] ∧
      last.hookRunsOf ⟨1⟩ = [⟨⟨1⟩, 1, 1⟩] := by
  intro hook query earlier moves
  have sample : ((Service.new itemsSchema).afterAll? earlier).bind (fun service =>
      (service.origin? ⟨1⟩).bind fun owner =>
        (service.after? (.submit ⟨1⟩ query)).bind fun submitted =>
          (submitted.afterAll? moves).map fun last =>
            (service.requestsMade, owner.settings.config.simulation.maxBackgroundHookRuns,
              last.dispatchesOf ⟨1⟩, last.hookRunsOf ⟨1⟩)) =
      some (0, some 1, [(1, true), (2, false)], [⟨⟨1⟩, 1, 1⟩]) := by
    decide +kernel
  obtain ⟨service, before, sample⟩ := Option.bind_eq_some_iff.mp sample
  obtain ⟨owner, found, sample⟩ := Option.bind_eq_some_iff.mp sample
  obtain ⟨submitted, submits, sample⟩ := Option.bind_eq_some_iff.mp sample
  obtain ⟨last, later, sample⟩ := Option.map_eq_some_iff.mp sample
  simp only [Prod.mk.injEq] at sample
  obtain ⟨unused, limited, dispatched, ran⟩ := sample
  have budget := hook_budget (reaches_of_moves before) found submits rfl later
  simp only [unused, limited] at budget
  obtain ⟨attempts, armed, _, within, _⟩ := budget
  have counted := congrArg List.length (armed.dispatches.symm.trans dispatched)
  rw [List.length_map, List.length_range'] at counted
  obtain rfl : attempts = 2 := counted
  exact ⟨service, submitted, last, before, submits, later, armed, within, dispatched, ran⟩

end Budget

end Service

end SnapshotQuery
