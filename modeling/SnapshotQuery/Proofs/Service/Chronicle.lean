import SnapshotQuery.Proofs.Service.Postings
import SnapshotQuery.Proofs.Service.Stories

/-!
# The chronicle of a service

At every moment of a run there is a story of each request that was submitted.
Its lines are those its origin reported, and it says whether the request is live,
after how many attempts, or how it ended.
-/

namespace SnapshotQuery

namespace Service

/-- The story is what has become of the request so far. -/
structure Recounts (trusted : Prop) (id : RequestId) (service : Service) (story : Story) :
    Prop where
  lines : service.linesOf id = story.events id
  live : ∀ origin request, service.Owns origin request → request.id = id →
    origin = story.origin ∧ story.ending = none ∧ request.attempts = story.attempts
  waiting : story.ending = none → story.origin ∈ service.contextIds →
    ∃ request, service.Owns story.origin request ∧ request.id = id
  made : story.origin.number ≤ service.contextsMade
  outcome : service.outcomeOf id = story.ending.map fun ending => ending.finish.state
  ascends : trusted → ∀ event ∈ service.linesOf id, event.Ascends
  marked : ∀ ending, story.ending = some ending → ending.panicked = true →
    ¬ service.Composed id

/-- There is a story of each request, and each occurs with the origin its first line names. -/
structure Chronicled (trusted : Prop) (service : Service) : Prop where
  knows : service.Knows service.Submitted
  fresh : ∀ id, service.requestsMade < id.number → service.linesOf id = []
  stories : ∀ id, 0 < id.number → id.number ≤ service.requestsMade →
    ∃ story, Recounts trusted id service story

variable {trusted : Prop} {known : Handle → Prop} {service before after : Service}
  {origin other : ContextId} {request started : Request} {id : RequestId} {move : Move}
  {lines : List Event} {story : Story}

section Moves

/-- A request that an origin owns has not ended. -/
theorem Orderly.outcomeOf (orderly : service.Orderly) (owned : service.Owns origin request) :
    service.outcomeOf request.id = none := by
  have going := orderly.apart origin request owned
  simpa [Service.outcomeOf] using going

/-- No request has two origins. -/
theorem Orderly.only (orderly : service.Orderly) (back : service.Owns origin started)
    (owned : service.Owns other request) (same : request.id = started.id) :
    other = origin ∧ request = started := by
  obtain rfl := orderly.unique origin started other request back owned same
  exact ⟨(orderly.own other request owned).symm.trans (orderly.own origin request back), rfl⟩

theorem Advanced.requestsMade {wanted : RequestId} (advanced : service.Advanced wanted after) :
    after.requestsMade = service.requestsMade := by
  cases advanced with
  | waiting => rfl
  | moved _ _ passes => exact passes.interlude.requestsMade
  | skipped _ _ _ interlude => exact interlude.requestsMade
  | orphaned _ _ _ interlude => exact interlude.requestsMade
  | posted _ _ _ interlude _ => exact interlude.requestsMade

theorem Launched.requestsMade {origin : OriginSettings} {result : Service × Request}
    (launched : service.Launched origin request result) :
    result.1.requestsMade = service.requestsMade := by
  cases launched with
  | accepted interlude _ _ _ => exact interlude.requestsMade
  | refused interlude _ _ => exact interlude.requestsMade

theorem Handled.requestsMade {origin : OriginSettings} {message : Message}
    (handled : service.Handled origin message after) :
    after.requestsMade = service.requestsMade := by
  cases handled with
  | dropped _ interlude => exact interlude.requestsMade
  | ended _ _ _ interlude _ _ closing =>
      exact closing.requestsMade.trans interlude.requestsMade
  | relaunched _ _ _ interlude _ launched closing =>
      exact closing.requestsMade.trans (launched.requestsMade.trans interlude.requestsMade)

/-- Only a query that is submitted makes a new request. -/
theorem Moved.requestsMade (moved : service.Moved move after)
    (submitting : ∀ id query, move ≠ .submit id query) :
    after.requestsMade = service.requestsMade := by
  cases moved with
  | interlude interlude => exact interlude.requestsMade
  | interposed => rfl
  | woken _ => rfl
  | advanced advanced => exact advanced.requestsMade
  | processed _ _ handled => exact handled.requestsMade
  | submitted _ _ _ => exact absurd rfl (submitting _ _)
  | originAdded => rfl
  | originDropped interlude => exact interlude.requestsMade

/-- A move that submits no query makes something of one request at most. -/
theorem chapters_of_after? (orderly : service.Orderly) (tracked : service.Tracked)
    (faithful : trusted → ∃ asked, service.Faithful asked)
    (knows : service.Knows service.Submitted)
    (submitting : ∀ id query, move ≠ .submit id query) (moved : service.after? move = some after) :
    ∃ lines, Tells service.Submitted lines service after ∧ ∀ id, ∃ lines,
      Chapter trusted id service after lines ∧ after.linesOf id = service.linesOf id ++ lines := by
  by_cases processing : ∃ id, move = .process id
  · obtain ⟨id, rfl⟩ := processing
    obtain ⟨owner, message, rest, rfl, processed⟩ := exists_processed orderly moved
    obtain ⟨other, oldest, others, found, first, handled⟩ :=
      handled_of_process? orderly.ready moved
    obtain rfl := Option.some.inj (processed.found.symm.trans found)
    obtain ⟨rfl, rfl⟩ := List.cons.inj (processed.oldest.symm.trans first)
    exact processed.chapters handled orderly tracked faithful knows
  · have processing : ∀ id, move ≠ .process id := fun id same => processing ⟨id, same⟩
    have tells : Tells service.Submitted [] service after :=
      tells_of_after? processing submitting moved
    refine ⟨[], tells, fun id => ⟨[], ?_, tells.linesOf id⟩⟩
    exact .silent ((moved_of_after? orderly.ready moved).undisturbed processing
      fun origin query same => absurd same (submitting origin query))

end Moves

section Continuations

theorem Tells.submitted {handle : Handle} (tells : Tells known lines before after)
    (submitted : before.Submitted handle) : after.Submitted handle := by
  obtain ⟨policy, first⟩ := submitted
  refine ⟨policy, ?_⟩
  rw [tells.linesOf]
  exact List.mem_append_left _ first

/-- A move leads on to another service.  Only new origins come. -/
structure Onward (before after : Service) : Prop where
  orderly : after.Orderly
  made : before.contextsMade ≤ after.contextsMade
  stays : ∀ origin, origin.number ≤ before.contextsMade → origin ∈ after.contextIds →
    origin ∈ before.contextIds
  develops : before.Develops after

theorem onward_of_after? (orderly : service.Orderly) (tracked : service.Tracked)
    (moved : service.after? move = some after) : Onward service after := by
  refine ⟨orderly.moved (moved_of_after? orderly.ready moved), contextsMade_le orderly moved, ?_,
    develops_of_after? orderly tracked moved⟩
  intro origin made known
  rcases begins_of_after? orderly.ready moved with begins | ⟨request, rfl, advanced⟩
  · rcases begins.contexts origin known with old | new
    · exact contextIds_taking ▸ old
    · rw [contextsMade_taking] at new
      exact absurd (new ▸ made) (Nat.not_succ_le_self _)
  · exact advanced.within.contexts.subset known

theorem Recounts.ascending (recounts : Recounts trusted id service story)
    (added : after.linesOf id = service.linesOf id ++ lines)
    (new : trusted → ∀ event ∈ lines, event.Ascends) :
    trusted → ∀ event ∈ after.linesOf id, event.Ascends := by
  intro trust event member
  rw [added] at member
  exact (List.mem_append.mp member).elim (recounts.ascends trust event) (new trust event)

/-- An end that is marked stays marked. -/
theorem Recounts.remains (recounts : Recounts trusted id service story)
    (onward : Onward service after) :
    ∀ ending, story.ending = some ending → ending.panicked = true → ¬ after.Composed id :=
  fun ending ended panicked composed =>
    recounts.marked ending ended panicked (onward.develops.composed composed)

theorem Recounts.undisturbed (recounts : Recounts trusted id service story)
    (onward : Onward service after) (undisturbed : Undisturbed id service after)
    (same : after.linesOf id = service.linesOf id) : Recounts trusted id after story where
  lines := same.trans recounts.lines
  live origin request owned about :=
    recounts.live origin request (undisturbed.owned origin request about owned) about
  waiting going here := by
    obtain ⟨request, owned, about⟩ :=
      recounts.waiting going (onward.stays story.origin recounts.made here)
    exact ⟨request, undisturbed.kept _ request about owned here, about⟩
  made := Nat.le_trans recounts.made onward.made
  outcome := undisturbed.outcome.trans recounts.outcome
  ascends := same ▸ recounts.ascends
  marked := recounts.remains onward

/-- A message comes too late only for a request that has ended. -/
theorem Recounts.drop (recounts : Recounts trusted id service story)
    (onward : Onward service after) (undisturbed : Undisturbed id service after)
    {reason : StaleReason} (home : service.Submitted ⟨id, origin⟩)
    (known : origin ∈ service.contextIds)
    (absent : ∀ request, service.Owns origin request → request.id ≠ id)
    (added : after.linesOf id =
      service.linesOf id ++ [.staleMessageDropped id origin reason]) :
    Recounts trusted id after (story.drop reason) := by
  obtain ⟨policy, first⟩ := home
  rw [recounts.lines] at first
  obtain rfl := Story.origin_eq first
  have closed : story.ending ≠ none := by
    -- Were it still going, its origin, which is there, would have it.
    intro going
    obtain ⟨request, owned, about⟩ := recounts.waiting going known
    exact absent request owned about
  obtain ⟨ending, ended⟩ := Option.ne_none_iff_exists'.mp closed
  have dropped : (story.drop reason).ending =
      some { ending with late := ending.late ++ [reason] } := by
    rw [Story.drop, ended, Option.map_some]
  refine ⟨?_, ?_, ?_, Nat.le_trans recounts.made onward.made, ?_,
    recounts.ascending added fun _ event member => List.mem_singleton.mp member ▸ trivial, ?_⟩
  · rw [added, recounts.lines, Story.events_drop ended]
  · intro other request owned about
    obtain ⟨_, going, _⟩ := recounts.live other request
      (undisturbed.owned other request about owned) about
    exact absurd going closed
  · exact fun going => absurd (dropped.symm.trans going) (Option.some_ne_none _)
  · rw [undisturbed.outcome, recounts.outcome, dropped, ended, Option.map_some, Option.map_some]
  · rintro later named
    obtain rfl := Option.some.inj (dropped.symm.trans named)
    exact recounts.remains onward ending ended

theorem Recounts.retry (recounts : Recounts trusted id service story)
    (onward : Onward service after) {retrial : Retrial} (owned : service.Owns origin request)
    (about : request.id = id) (back : after.Owns origin started) (same : started.id = id)
    (counted : started.attempts = request.attempts + 1)
    (below : trusted → retrial.snapshot < retrial.current)
    (added : after.linesOf id = service.linesOf id ++ retrial.events id request.attempts) :
    Recounts trusted id after (story.retry retrial) := by
  obtain ⟨rfl, going, attempts⟩ := recounts.live origin request owned about
  refine ⟨?_, ?_, fun _ _ => ⟨started, back, same⟩, Nat.le_trans recounts.made onward.made, ?_,
    recounts.ascending added fun trust => Retrial.ascends_events (below trust) id _, ?_⟩
  · rw [added, recounts.lines, Story.events_retry going, attempts]
  · intro other held heldOwned here
    obtain ⟨rfl, rfl⟩ := onward.orderly.only back heldOwned (here.trans same.symm)
    refine ⟨rfl, going, ?_⟩
    simp [Story.attempts, Story.retry, counted, attempts]
  · subst same
    rw [onward.orderly.outcomeOf back, Story.retry, going, Option.map_none]
  · exact fun ending ended => absurd (ended.symm.trans going) (Option.some_ne_none ending)

theorem Recounts.finish (recounts : Recounts trusted id service story)
    (onward : Onward service after) {finish : Finish} {panicked : Bool}
    (owned : service.Owns origin request) (about : request.id = id)
    (closed : after.outcomeOf id = some finish.state) (below : trusted → finish.Ascends)
    (marked : panicked = true → ¬ after.Composed id)
    (added : after.linesOf id =
      service.linesOf id ++ finish.events id request.attempts panicked) :
    Recounts trusted id after (story.finish finish panicked) := by
  obtain ⟨rfl, going, attempts⟩ := recounts.live origin request owned about
  refine ⟨?_, ?_, fun going => absurd going (Option.some_ne_none _),
    Nat.le_trans recounts.made onward.made, closed,
    recounts.ascending added fun trust => (below trust).events id _ _, ?_⟩
  · rw [added, recounts.lines, Story.events_finish going, attempts]
  · rintro other held heldOwned rfl
    cases (onward.orderly.outcomeOf heldOwned).symm.trans closed
  · intro ending ended
    obtain rfl := Option.some.inj ended
    exact marked

/-- A story goes on with each chapter. -/
theorem Recounts.goesOn (recounts : Recounts trusted id service story)
    (onward : Onward service after) (chapter : Chapter trusted id service after lines)
    (added : after.linesOf id = service.linesOf id ++ lines) :
    ∃ next, Recounts trusted id after next := by
  cases chapter with
  | silent undisturbed =>
      rw [List.append_nil] at added
      exact ⟨story, recounts.undisturbed onward undisturbed added⟩
  | @dropped origin reason undisturbed home known absent =>
      exact ⟨story.drop reason, recounts.drop onward undisturbed home known absent added⟩
  | @retried origin request started retrial owned about back same counted below =>
      exact ⟨story.retry retrial,
        recounts.retry onward owned about back same counted below added⟩
  | @finished origin request panicked finish owned about closed below marked =>
      exact ⟨story.finish finish panicked,
        recounts.finish onward owned about closed below marked added⟩

/-- A chapter is only about a request that was submitted. -/
theorem Chapter.fresh (chapter : Chapter trusted id service after lines)
    (orderly : service.Orderly) (fresh : service.requestsMade < id.number)
    (silent : service.linesOf id = []) : lines = [] := by
  have made : ∀ origin request, service.Owns origin request → request.id ≠ id := by
    rintro origin request owned rfl
    exact absurd fresh (Nat.not_lt_of_le (orderly.made origin request owned))
  cases chapter with
  | silent _ => rfl
  | dropped _ home _ _ =>
      obtain ⟨policy, first⟩ := home
      exact absurd (silent ▸ first) List.not_mem_nil
  | retried owned about _ _ _ _ => exact absurd about (made _ _ owned)
  | finished owned about _ _ _ => exact absurd about (made _ _ owned)

/-- The chronicle goes on with every move that submits no query. -/
theorem Chronicled.goesOn (chronicled : Chronicled trusted service) (orderly : service.Orderly)
    (tracked : service.Tracked) (faithful : trusted → ∃ asked, service.Faithful asked)
    (submitting : ∀ id query, move ≠ .submit id query) (moved : service.after? move = some after) :
    Chronicled trusted after := by
  obtain ⟨lines, tells, chapters⟩ :=
    chapters_of_after? orderly tracked faithful chronicled.knows submitting moved
  have same := (moved_of_after? orderly.ready moved).requestsMade submitting
  refine ⟨(tells.knows chronicled.knows).mono fun handle => tells.submitted, ?_, ?_⟩
  · intro id beyond
    rw [same] at beyond
    obtain ⟨lines, chapter, added⟩ := chapters id
    have silent := chronicled.fresh id beyond
    rw [added, silent, chapter.fresh orderly beyond silent, List.append_nil]
  · intro id positive made
    rw [same] at made
    obtain ⟨story, recounts⟩ := chronicled.stories id positive made
    obtain ⟨lines, chapter, added⟩ := chapters id
    exact recounts.goesOn (onward_of_after? orderly tracked moved) chapter added

end Continuations

section Submissions

theorem tells_keepHandle {handle : Handle} (own : known handle) (label : String) :
    Tells known [] service (service.keepHandle label handle) :=
  ⟨rfl, fun knows => { knows with
    named := by
      intro name other found
      simp only [keepHandle, OrderedMap.find?_insert] at found
      split at found
      · exact Option.some.inj found ▸ own
      · exact knows.named name other found }⟩

/-- A query is submitted, and its first attempt is dispatched. -/
structure Submits (service : Service) (origin : ContextId) (query : Query) (id : RequestId)
    (hook : Bool) (started : Request) (after : Service) : Prop where
  tells : Tells (fun handle => service.Submitted handle ∨ handle = ⟨id, origin⟩)
    [.submitted id origin query.policy, .attemptDispatched id 1 hook] service after
  owned : after.Owns origin started
  about : started.id = id
  first : started.attempts = 1
  requestsMade : after.requestsMade = service.requestsMade + 1

theorem exists_submits (owner : OriginSettings) (query : Query)
    (here : owner.id ∈ service.contextIds) : ∃ hook started,
      service.Submits owner.id query ⟨service.requestsMade + 1⟩ hook started
        (service.submit owner query).1 := by
  obtain ⟨result, launch, submitted⟩ := service.submit_eq owner query
  let known := fun handle : Handle =>
    service.Submitted handle ∨ handle = ⟨⟨service.requestsMade + 1⟩, owner.id⟩
  have own : known ⟨⟨service.requestsMade + 1⟩, owner.id⟩ := .inr rfl
  have announced : Tells known [.submitted ⟨service.requestsMade + 1⟩ owner.id query.policy] service
      ((service.countRequest.count owner.registry .submitted).report
        (.submitted ⟨service.requestsMade + 1⟩ owner.id query.policy)) := tells_of_places rfl rfl
  obtain ⟨hook, launched⟩ := launch.tells own
  obtain ⟨runs, same⟩ := launch.started
  have about : result.2.id = ⟨service.requestsMade + 1⟩ := same ▸ rfl
  have stays : owner.id ∈ result.1.contextIds := by
    cases launch with
    | accepted _ _ _ _ => exact here
    | refused _ => exact (contextIds_post _).symm ▸ here
  have given : Tells known [] result.1 (result.1.insertLive owner.id result.2) := by
    rw [← launch.putBack]
    exact tells_putBack (about ▸ own)
  rw [submitted]
  refine ⟨hook, result.2, ((announced.trans launched).then given).then (tells_keepHandle own _),
    owns_insertLive_self stays result.2, about, same ▸ rfl, ?_⟩
  cases launch <;> rfl

/-- A story begins with the first attempt. -/
theorem Submits.recounts {owner : ContextId} {query : Query} {hook : Bool}
    (submits : service.Submits owner query id hook started after) (orderly : after.Orderly)
    (fresh : service.linesOf id = []) :
    Recounts trusted id after ⟨owner, query.policy, hook, [], none⟩ := by
  have lines : after.linesOf id =
      [.submitted id owner query.policy, .attemptDispatched id 1 hook] := by
    rw [submits.tells.linesOf, fresh]
    simp [Event.subject?]
  have about := submits.about
  refine ⟨lines, ?_, fun _ _ => ⟨started, submits.owned, about⟩, ?_, ?_, ?_,
    fun _ ended => absurd ended.symm (Option.some_ne_none _)⟩
  · intro other request owned same
    obtain ⟨rfl, rfl⟩ := orderly.only submits.owned owned (same.trans about.symm)
    exact ⟨rfl, rfl, submits.first⟩
  · exact orderly.contextsMade owner submits.owned.mem_contextIds
  · exact about ▸ orderly.outcomeOf submits.owned
  · rw [lines]
    simp [Event.Ascends]

/-- The chronicle goes on with a new story. -/
theorem Chronicled.submitted (chronicled : Chronicled trusted service) (orderly : service.Orderly)
    (tracked : service.Tracked) {owner : Origin} {query : Query}
    (found : service.origin? origin = some owner)
    (moved : service.after? (.submit origin query) = some after) : Chronicled trusted after := by
  obtain rfl := origin?_id found
  have onward := onward_of_after? orderly tracked moved
  obtain ⟨hook, started, submits⟩ :=
    exists_submits owner.settings query (mem_contextIds_of_origin? found)
  have submitted : (service.submit owner.settings query).1 = after := by
    simpa [after?, found] using moved
  rw [submitted] at submits
  have fresh := chronicled.fresh ⟨service.requestsMade + 1⟩ (Nat.lt_succ_self _)
  have others : ∀ id, id ≠ ⟨service.requestsMade + 1⟩ →
      after.linesOf id = service.linesOf id := by
    intro id other
    rw [submits.tells.linesOf]
    simp [Event.subject?, Ne.symm other]
  have begun : Recounts trusted ⟨service.requestsMade + 1⟩ after
      ⟨owner.settings.id, query.policy, hook, [], none⟩ := submits.recounts onward.orderly fresh
  refine ⟨?_, ?_, ?_⟩
  · refine (submits.tells.knows (chronicled.knows.mono fun handle => .inl)).mono ?_
    rintro handle (old | rfl)
    · exact submits.tells.submitted old
    · exact ⟨query.policy, begun.lines ▸ List.mem_cons_self⟩
  · intro id beyond
    rw [submits.requestsMade] at beyond
    rw [others id (by rintro rfl; exact Nat.lt_irrefl _ beyond)]
    exact chronicled.fresh id (Nat.lt_of_succ_lt beyond)
  · intro id positive known
    by_cases new : id = ⟨service.requestsMade + 1⟩
    · exact ⟨_, new ▸ begun⟩
    · have old : id.number ≤ service.requestsMade := by
        rw [submits.requestsMade] at known
        refine Nat.le_of_lt_succ (Nat.lt_of_le_of_ne known fun same => new ?_)
        exact congrArg RequestId.mk same
      obtain ⟨story, recounts⟩ := chronicled.stories id positive old
      have processing : ∀ other, Move.submit owner.settings.id query ≠ .process other := by
        intro other same
        cases same
      have undisturbed :=
        (moved_of_after? orderly.ready moved).undisturbed processing fun _ _ _ => new
      exact ⟨story, recounts.undisturbed onward undisturbed (others id new)⟩

end Submissions

theorem chronicled_new (schema : TableSchema) : Chronicled trusted (Service.new schema) where
  knows := by constructor <;> simp [new, Owns, Holds]
  fresh _ _ := rfl
  stories id positive made := absurd positive (Nat.not_lt_of_le made)

/-- Every run has a chronicle. -/
theorem chronicled_of_reaches {permitted : Service → Move → Prop} {schema : TableSchema}
    (run : (Service.new schema).Reaches permitted service) :
    Chronicled (∀ moment move, permitted moment move → move.Truthful) service := by
  induction run with
  | start => exact chronicled_new schema
  | @move service after move earlier allowed moved inductionHypothesis =>
      have orderly := orderly_of_reaches earlier
      have tracked := tracked_of_reaches earlier
      by_cases submitting : ∃ origin query, move = .submit origin query
      · obtain ⟨origin, query, rfl⟩ := submitting
        obtain ⟨owner, found, _⟩ := Option.map_eq_some_iff.mp moved
        exact inductionHypothesis.submitted orderly tracked found moved
      · exact inductionHypothesis.goesOn orderly tracked
          (fun honest => faithful_of_reaches (earlier.mono honest))
          (fun origin query same => submitting ⟨origin, query, same⟩) moved

end Service

end SnapshotQuery
