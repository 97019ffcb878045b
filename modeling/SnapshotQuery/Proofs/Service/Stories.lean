import SnapshotQuery.Proofs.Service.Delivery
import SnapshotQuery.Proofs.Service.Lines
import SnapshotQuery.Proofs.Service.Turns

/-!
# The story of a request

What an origin reports about a request is a story of attempts.  Each attempt but
the last one came to rows that were stale; the last one, once it is over, has the
ending of the request, and after that only messages that come too late are thrown
away.
-/

namespace SnapshotQuery

/-- One more attempt, because the rows of the one before were stale. -/
structure Retrial where
  snapshot : VersionStamp
  current : VersionStamp
  hook : Bool

/-- How a request ends. -/
inductive Finish where
  | converged (rows : Nat) (version : VersionStamp)
  | rederived (rows : Nat) (version : VersionStamp)
  | failed (error : QueryError)
  /-- The rows were stale, and the policy allows no more attempts. -/
  | unreachable (snapshot current : VersionStamp)
  | cancelled

/-- The end of a request, whether its callback panicked, and why messages that came later were
thrown away. -/
structure Epilogue where
  finish : Finish
  panicked : Bool
  late : List StaleReason

structure Story where
  origin : ContextId
  policy : RetryPolicy
  hook : Bool
  retrials : List Retrial
  ending : Option Epilogue

/-- The version of the rows was below the one they were compared with. -/
def Event.Ascends : Event → Prop
  | versionMismatch _ _ snapshot current => snapshot < current
  | _ => True

section Lines

variable (id : RequestId)

/-- The lines between an attempt and the next one. -/
def Retrial.events (attempt : Nat) (retrial : Retrial) : List Event := [
  .versionMismatch id attempt retrial.snapshot retrial.current,
  .retrying id (attempt + 1),
  .attemptDispatched id (attempt + 1) retrial.hook]

def Finish.events (attempts : Nat) (panicked : Bool) : Finish → List Event
  | converged rows version => closingLine panicked (.converged id attempts rows version)
  | rederived rows version =>
      .rederived id attempts version ::
        closingLine panicked (.converged id attempts rows version)
  | failed error => closingLine panicked (.failed id attempts error)
  | unreachable snapshot current =>
      .versionMismatch id attempts snapshot current :: closingLine panicked
        (.failed id attempts (.unreachableVersion attempts snapshot current))
  | cancelled => [.cancelled id attempts]

def Epilogue.events (origin : ContextId) (attempts : Nat) (ending : Epilogue) : List Event :=
  ending.finish.events id attempts ending.panicked ++
    ending.late.map (.staleMessageDropped id origin)

end Lines

def Finish.state : Finish → RequestState
  | converged _ _ | rederived _ _ => .converged
  | failed _ | unreachable _ _ => .failed
  | cancelled => .cancelled

/-- The rows of a request that could not be brought up to date were older than its origin. -/
def Finish.Ascends : Finish → Prop
  | unreachable snapshot current => snapshot < current
  | _ => True

theorem Finish.Ascends.events {finish : Finish} (ascends : finish.Ascends) (id : RequestId)
    (attempts : Nat) (panicked : Bool) :
    ∀ event ∈ finish.events id attempts panicked, event.Ascends := by
  cases finish with
  | unreachable snapshot current =>
      simpa [Finish.events, Event.Ascends, Finish.Ascends] using ascends
  | _ => simp [Finish.events, Event.Ascends]

theorem Retrial.ascends_events {retrial : Retrial} (below : retrial.snapshot < retrial.current)
    (id : RequestId) (attempt : Nat) : ∀ event ∈ retrial.events id attempt, event.Ascends := by
  simpa [Retrial.events, Event.Ascends] using below

namespace Story

/-- The number of attempts that were made. -/
def attempts (story : Story) : Nat := story.retrials.length + 1

/-- The lines of the attempts. -/
def course (id : RequestId) (story : Story) : List Event :=
  .submitted id story.origin story.policy :: .attemptDispatched id 1 story.hook ::
    (story.retrials.zipIdx 1).flatMap fun (retrial, attempt) => retrial.events id attempt

/-- The lines of a story. -/
def events (id : RequestId) (story : Story) : List Event :=
  story.course id ++ match story.ending with
    | none => []
    | some ending => ending.events id story.origin story.attempts

/-- The story goes on with another attempt. -/
def retry (story : Story) (retrial : Retrial) : Story :=
  { story with retrials := story.retrials ++ [retrial] }

def finish (story : Story) (finish : Finish) (panicked : Bool) : Story :=
  { story with ending := some ⟨finish, panicked, []⟩ }

/-- A message came too late. -/
def drop (story : Story) (reason : StaleReason) : Story :=
  { story with
    ending := story.ending.map fun ending => { ending with late := ending.late ++ [reason] } }

variable {id : RequestId} {story : Story}

theorem events_retry (going : story.ending = none) (retrial : Retrial) :
    (story.retry retrial).events id = story.events id ++ retrial.events id story.attempts := by
  simp [events, retry, course, going, List.zipIdx_append, attempts, Nat.add_comm]

theorem events_finish (going : story.ending = none) (finish : Finish) (panicked : Bool) :
    (story.finish finish panicked).events id =
      story.events id ++ finish.events id story.attempts panicked := by
  simp [events, Story.finish, course, going, Epilogue.events, attempts]

theorem events_drop {ending : Epilogue} (ended : story.ending = some ending)
    (reason : StaleReason) : (story.drop reason).events id =
      story.events id ++ [.staleMessageDropped id story.origin reason] := by
  simp [events, drop, course, ended, Epilogue.events, attempts]

/-- Only the first line names the origin. -/
theorem origin_eq {origin : ContextId} {policy : RetryPolicy}
    (submitted : .submitted id origin policy ∈ story.events id) : origin = story.origin := by
  rcases List.mem_append.mp submitted with course | ending
  · rcases List.mem_cons.mp course with first | others
    · exact (Event.submitted.inj first).2.1
    · simp [Retrial.events] at others
  · cases ended : story.ending with
    | none => simp [ended] at ending
    | some epilogue =>
        simp only [ended, Epilogue.events] at ending
        cases finishing : epilogue.finish <;> simp [finishing, Finish.events] at ending

end Story

namespace Service

/-- The state in which a request has ended. -/
def outcomeOf (service : Service) (id : RequestId) : Option RequestState :=
  (service.ended.find? fun final => final.id = id).map fun final => final.state

/-- The first line about a request names the origin. -/
def Submitted (service : Service) (handle : Handle) : Prop :=
  ∃ policy, .submitted handle.request handle.origin policy ∈ service.linesOf handle.request

/-- Nothing becomes of a request, unless its origin goes away. -/
structure Undisturbed (id : RequestId) (before after : Service) : Prop where
  owned : ∀ origin request, request.id = id → after.Owns origin request →
    before.Owns origin request
  kept : ∀ origin request, request.id = id → before.Owns origin request →
    origin ∈ after.contextIds → after.Owns origin request
  outcome : after.outcomeOf id = before.outcomeOf id

/-- What a move makes of a request, with the lines that its origin reports meanwhile. -/
inductive Chapter (trusted : Prop) (id : RequestId) (before after : Service) : List Event → Prop
  | silent (undisturbed : Undisturbed id before after) : Chapter trusted id before after []
  | dropped {origin reason} (undisturbed : Undisturbed id before after)
      (home : before.Submitted ⟨id, origin⟩) (known : origin ∈ before.contextIds)
      (absent : ∀ request, before.Owns origin request → request.id ≠ id) :
      Chapter trusted id before after [.staleMessageDropped id origin reason]
  | retried {origin request started} {retrial : Retrial} (owned : before.Owns origin request)
      (about : request.id = id) (back : after.Owns origin started) (same : started.id = id)
      (counted : started.attempts = request.attempts + 1)
      (below : trusted → retrial.snapshot < retrial.current) :
      Chapter trusted id before after (retrial.events id request.attempts)
  | finished {origin request panicked} {finish : Finish} (owned : before.Owns origin request)
      (about : request.id = id) (closed : after.outcomeOf id = some finish.state)
      (below : trusted → finish.Ascends) (marked : panicked = true → ¬ after.Composed id) :
      Chapter trusted id before after (finish.events id request.attempts panicked)

/-- What becomes of rows, whatever comes between. -/
inductive Decides (service : Service) (rows : RowSet) (attempts : Nat) : Reconciliation → Prop
  | converged {view} : Decides service rows attempts (.converged view)
  | rederived {view} : Decides service rows attempts (.rederived view)
  | refused {error} (plain : error.isUnreachableVersion = false) :
      Decides service rows attempts (.giveUp error)
  | retried (stale : rows.version ≠ service.reachVersion.2) :
      Decides service rows attempts (.retry rows.version service.reachVersion.2)
  | unreachable (stale : rows.version ≠ service.reachVersion.2) :
      Decides service rows attempts
        (.giveUp (.unreachableVersion attempts rows.version service.reachVersion.2))

variable {trusted : Prop} {known : Handle → Prop} {service before after moment : Service}
  {origin : OriginSettings} {request final : Request} {id : RequestId} {message : Message}
  {owner : Origin} {rest : List Message} {rows : RowSet} {outcome : Reconciliation}

section Decisions

theorem decides_handOverAs {service : Service} (rows : RowSet) (target : VersionStamp)
    (done : View → Reconciliation) :
    (∃ view, (service.handOverAs rows target done).2 = done view) ∨
      ∃ error, error.isUnreachableVersion = false ∧
        (service.handOverAs rows target done).2 = .giveUp error := by
  simp only [handOverAs, handOver]
  by_cases same : rows.version = target
  · rw [if_pos same]
    generalize service.reachSnapshot (some target) = result
    obtain ⟨moment, snapshot⟩ := result
    cases snapshot with
    | error failure => exact .inr ⟨_, rfl, rfl⟩
    | ok snapshot => exact .inl ⟨_, rfl⟩
  · rw [if_neg same]
    exact .inr ⟨_, rfl, rfl⟩

theorem decides_reconcile (service : Service) (mode : ReconcileMode) (rows : RowSet)
    (policy : RetryPolicy) (attempts : Nat) (cancelled : Bool) :
    service.Decides rows attempts
      (service.reconcile mode rows policy attempts cancelled).2 := by
  have missed : rows.version ≠ service.reachVersion.2 → service.Decides rows attempts
      (policy.onMismatch rows.version service.reachVersion.2 attempts cancelled) := by
    intro stale
    unfold RetryPolicy.onMismatch
    split
    · exact .retried stale
    · exact .unreachable stale
  unfold reconcile
  by_cases same : rows.version = service.reachVersion.2
  · simp only [if_pos same]
    rcases decides_handOverAs rows service.reachVersion.2 .converged with
      ⟨view, shown⟩ | ⟨error, plain, refused⟩
    · rw [shown]
      exact .converged
    · rw [refused]
      exact .refused plain
  · simp only [if_neg same]
    cases mode with
    | strict => exact missed same
    | rederive =>
        simp only
        generalize service.reachVersion.1.reachImport rows rows.version service.reachVersion.2 =
          result
        obtain ⟨later, imported⟩ := result
        cases imported with
        | error failure => exact .refused rfl
        | ok imported =>
            simp only
            split
            · rcases decides_handOverAs imported service.reachVersion.2 .rederived with
                ⟨view, shown⟩ | ⟨error, plain, refused⟩
              · rw [shown]
                exact .rederived
              · rw [refused]
                exact .refused plain
            · exact missed same

end Decisions

section Bystanders

theorem undisturbed_of_owns_iff
    (owns : ∀ origin request, request.id = id →
      (after.Owns origin request ↔ before.Owns origin request))
    (outcome : after.outcomeOf id = before.outcomeOf id) : Undisturbed id before after where
  owned origin request about := (owns origin request about).mp
  kept origin request about owned _ := (owns origin request about).mpr owned
  outcome := outcome

theorem outcomeOf_congr (ended : after.ended = before.ended) :
    after.outcomeOf id = before.outcomeOf id := by
  rw [outcomeOf, ended, outcomeOf]

theorem outcomeOf_cons {ended : List Request} (latest : service.ended = final :: ended) :
    service.outcomeOf id =
      if final.id = id then some final.state else { service with ended }.outcomeOf id := by
  simp only [outcomeOf, latest, List.find?_cons]
  by_cases same : final.id = id <;> simp [same]

theorem Interlude.undisturbed {calls : List Observation}
    (interlude : Interlude calls before after) : Undisturbed id before after :=
  undisturbed_of_owns_iff (fun _ _ _ => interlude.owns_iff) (outcomeOf_congr interlude.ended)

/-- A message makes nothing of other requests. -/
theorem Handled.undisturbed (handled : service.Handled origin message after)
    (elsewhere : id ≠ message.request) : Undisturbed id service after := by
  have taken : ∀ removed other held, removed = message.request → held.id = id →
      ((service.removeLive origin.id removed).Owns other held ↔ service.Owns other held) := by
    rintro removed other held rfl about
    exact owns_removeLive_iff.trans (and_iff_left fun _ => about ▸ elsewhere)
  cases handled with
  | dropped _ interlude => exact interlude.undisturbed
  | @ended request final _ moment marks _ found same _ interlude _ _ closing =>
      have about := (owns_of_liveRequest? found).2
      refine undisturbed_of_owns_iff ?_ ?_
      · intro other held own
        have retired : (moment.retire final marks).Owns other held ↔ moment.Owns other held :=
          Iff.rfl
        exact ((closing.owns_iff.trans retired).trans interlude.owns_iff).trans
          (taken _ other held about own)
      · have other : final.id ≠ id := fun here => elsewhere (here.symm.trans (same.trans about))
        rw [outcomeOf_cons closing.ended, if_neg other]
        exact outcomeOf_congr interlude.ended
  | @relaunched request _ moment result _ found _ _ interlude _ launched closing =>
      have about := (owns_of_liveRequest? found).2
      refine undisturbed_of_owns_iff ?_ ?_
      · intro other held own
        have inserted : (result.1.insertLive origin.id result.2).Owns other held ↔
            result.1.Owns other held := by
          refine ⟨fun owned => ?_, fun owned => owned.insertLive _⟩
          rcases owns_insertLive owned with old | ⟨_, rfl⟩
          · exact old
          · exact absurd (own.symm.trans (launched.starts.id.trans about)) elsewhere
        exact (((closing.owns_iff.trans inserted).trans launched.owns_iff).trans
          interlude.owns_iff).trans (taken _ other held about own)
      · exact outcomeOf_congr
          ((closing.ended.trans launched.within.ended).trans interlude.ended)

/-- Other moves make nothing of a request, unless it is submitted. -/
theorem Moved.undisturbed {move : Move} (moved : service.Moved move after)
    (processing : ∀ id, move ≠ .process id)
    (submitting : ∀ origin query, move = .submit origin query →
      id ≠ ⟨service.requestsMade + 1⟩) :
    Undisturbed id service after := by
  cases moved with
  | interlude interlude => exact interlude.undisturbed
  | interposed => exact undisturbed_of_owns_iff (fun _ _ _ => Iff.rfl) rfl
  | woken _ => exact undisturbed_of_owns_iff (fun _ _ _ => owns_post_iff) rfl
  | advanced advanced =>
      exact undisturbed_of_owns_iff (fun _ _ _ => advanced.owns_iff)
        (outcomeOf_congr advanced.within.ended)
  | processed _ _ _ => exact absurd rfl (processing _)
  | @submitted _ _ _ moment result _ interlude launched =>
      refine undisturbed_of_owns_iff ?_
        (outcomeOf_congr (launched.within.ended.trans interlude.ended))
      intro other held about
      refine Iff.trans ?_ (launched.owns_iff.trans interlude.owns_iff)
      refine ⟨fun owned => ?_, fun owned => owned.insertLive _⟩
      rcases owns_insertLive owned with before | ⟨_, rfl⟩
      · exact before
      · exact absurd (about.symm.trans launched.starts.id) (submitting _ _ rfl)
  | originAdded => exact undisturbed_of_owns_iff (fun _ _ _ => owns_addOrigin_iff) rfl
  | @originDropped gone _ interlude =>
      refine ⟨?_, ?_, outcomeOf_congr interlude.ended⟩
      · intro other held _ owned
        exact (owns_withoutOrigin_iff.mp (interlude.owns_iff.mp owned)).1
      · intro other held _ owned stays
        rw [interlude.contextIds] at stays
        obtain ⟨origin, member, rfl⟩ := List.mem_map.mp stays
        have kept := of_decide_eq_true (List.mem_filter.mp member).2
        exact interlude.owns_iff.mpr (owns_withoutOrigin_iff.mpr ⟨owned, kept⟩)

end Bystanders

section Turns

/-- A request in hand has ended. -/
theorem outcomeOf_putBack (service : Service) (terminal : final.state.isTerminal = true)
    (id : ContextId) (snapshots : List Snapshot) :
    ((service.putBack id final).releaseAll snapshots).outcomeOf final.id = some final.state := by
  have closing := interlude_releaseAll (service.putBack id final) snapshots
  rw [putBack, if_pos terminal] at closing ⊢
  rw [outcomeOf_cons closing.ended, if_pos rfl]

/-- The decision about the rows of a request in hand ends it, unless it is to be tried again. -/
theorem tells_conclude {asked : Service} (decides : asked.Decides rows request.attempts outcome)
    (ready : request.Ready) (ends : ∀ snapshot current, outcome ≠ .retry snapshot current) :
    ∃ (finish : Finish) (panicked : Bool),
      Tells known (finish.events request.id request.attempts panicked) service
          (service.conclude origin request.awaiting outcome).1 ∧
        (panicked = true →
          ¬ (service.conclude origin request.awaiting outcome).1.Composed request.id) ∧
        (service.conclude origin request.awaiting outcome).2 = request.endedAs finish.state ∧
        (rows.version ≤ asked.reachVersion.2 → finish.Ascends) := by
  have going : request.awaiting.state.isTerminal = false := rfl
  have onError : request.awaiting.onError.isSome = true := ready.onError
  cases decides with
  | retried _ => exact absurd rfl (ends _ _)
  | @converged view =>
      obtain ⟨panicked, told, marked⟩ := service.closes_deliverSuccess origin request view
      exact ⟨.converged view.rows.size view.rows.version, panicked, told, marked,
        (service.interlude_deliverSuccess origin ready.onSuccess view).1, fun _ => trivial⟩
  | @rederived view =>
      have announced : Tells known [.rederived request.id request.attempts view.rows.version]
          service (service.announced origin request (.rederived view)) := tells_of_places rfl rfl
      obtain ⟨panicked, told, marked⟩ := closes_deliverSuccess
        (service.announced origin request (.rederived view)) origin request view
      exact ⟨.rederived view.rows.size view.rows.version, panicked, announced.trans told, marked,
        (interlude_deliverSuccess _ origin ready.onSuccess view).1, fun _ => trivial⟩
  | @refused error plain =>
      have concluded : service.conclude origin request.awaiting (.giveUp error) =
          service.deliverError origin request.awaiting error := by
        cases error <;> first | rfl | cases plain
      rw [concluded]
      obtain ⟨panicked, told, marked⟩ := service.closes_deliverError origin going error
      exact ⟨.failed error, panicked, told, marked,
        (service.interlude_deliverError origin going onError error).1, fun _ => trivial⟩
  | unreachable stale =>
      have mismatch : Tells known [.versionMismatch request.id request.attempts rows.version
          asked.reachVersion.2] service (service.reportMismatch origin request.awaiting
            rows.version asked.reachVersion.2) := service.tells_reportMismatch origin _ _ _
      obtain ⟨panicked, told, marked⟩ := closes_deliverError (service.reportMismatch origin
        request.awaiting rows.version asked.reachVersion.2) origin going
          (.unreachableVersion request.attempts rows.version asked.reachVersion.2)
      exact ⟨.unreachable rows.version asked.reachVersion.2, panicked, mismatch.trans told, marked,
        (interlude_deliverError _ origin going onError _).1,
        fun below => Nat.lt_of_le_of_ne below stale⟩

/-- The rows were stale, and the next attempt is launched. -/
theorem tells_retry (service : Service) (own : known ⟨request.id, origin.id⟩)
    (snapshot current : VersionStamp) :
    ∃ hook result moment, moment.Launched origin request.between result ∧
      Interlude [] service moment ∧
      service.conclude origin request.awaiting (.retry snapshot current) = result ∧
      Tells known (Retrial.events request.id request.attempts ⟨snapshot, current, hook⟩) service
        result.1 := by
  let moment := ((service.reportMismatch origin request.awaiting snapshot current).count
    origin.registry .retries).report (.retrying request.id (request.attempts + 1))
  have idle : request.between.state = .pending ∨ request.between.state = .retrying := .inr rfl
  have reported : Tells known [.versionMismatch request.id request.attempts snapshot current,
      .retrying request.id (request.attempts + 1)] service moment := tells_of_places rfl rfl
  have interlude : Interlude [] service moment :=
    ((interlude_reportMismatch snapshot current).then (interlude_count _ _ _)).then
      (interlude_report _ _)
  have launch : moment.Launch origin request.between
    (moment.launchAttempt origin request.between) := launch_launchAttempt idle
  obtain ⟨hook, told⟩ := launch.tells own
  exact ⟨hook, _, moment, launched_launchAttempt idle, interlude, rfl, reported.trans told⟩

/-- A request in hand ends. -/
theorem chapter_finished {taken : Service} (finish : Finish) {panicked : Bool} (final : Request)
    (found : service.liveRequest? origin.id message.request = some request)
    (own : known ⟨message.request, origin.id⟩)
    (hand : Tells known [] service taken)
    (tells : Tells known (finish.events request.id request.attempts panicked) taken moment)
    (marked : panicked = true → ¬ moment.Composed request.id)
    (same : final.id = request.id) (state : final.state = finish.state)
    (below : trusted → finish.Ascends) (snapshots : List Snapshot) :
    ∃ lines, Tells known lines service ((moment.putBack origin.id final).releaseAll snapshots) ∧
      Chapter trusted message.request service
        ((moment.putBack origin.id final).releaseAll snapshots) lines := by
  obtain ⟨owned, about⟩ := owns_of_liveRequest? found
  have terminal : final.state.isTerminal = true := by
    rw [state]
    cases finish <;> rfl
  have closed := moment.outcomeOf_putBack terminal origin.id snapshots
  rw [same, state] at closed
  rw [← about] at own ⊢
  refine ⟨_, ((hand.trans tells).then (tells_putBack (same ▸ own))).then (tells_releaseAll _ _), ?_⟩
  exact .finished owned rfl closed below fun panicked composed =>
    marked panicked (moment.composed_of_putBack composed)

/-- A request in hand goes on. -/
theorem chapter_retried {taken : Service} {snapshot current : VersionStamp}
    (found : service.liveRequest? origin.id message.request = some request)
    (own : known ⟨message.request, origin.id⟩) (hand : Tells known [] service taken)
    (here : origin.id ∈ taken.contextIds) (below : trusted → snapshot < current)
    (snapshots : List Snapshot) :
    let concluded := taken.conclude origin request.awaiting (.retry snapshot current)
    ∃ lines,
      Tells known lines service
          ((concluded.1.putBack origin.id concluded.2).releaseAll snapshots) ∧
        Chapter trusted message.request service
          ((concluded.1.putBack origin.id concluded.2).releaseAll snapshots) lines := by
  obtain ⟨owned, about⟩ := owns_of_liveRequest? found
  rw [← about] at own ⊢
  obtain ⟨hook, result, moment, launched, interlude, concluded, told⟩ :=
    taken.tells_retry own snapshot current
  simp only [concluded]
  have starts := launched.starts
  have known : origin.id ∈ result.1.contextIds := by
    rw [launched.contextIds, interlude.contextIds]
    exact here
  have back : ((result.1.putBack origin.id result.2).releaseAll snapshots).Owns origin.id
      result.2 := by
    rw [launched.putBack]
    exact (interlude_releaseAll _ snapshots).owns_iff.mpr (owns_insertLive_self known result.2)
  refine ⟨_, ((hand.trans told).then (tells_putBack (starts.id ▸ own))).then
    (tells_releaseAll _ _), ?_⟩
  exact .retried owned rfl back starts.id starts.attempts below

theorem Reconciled.tells {taken decided : Service} {set : Bool}
    (reconciled : taken.Reconciled origin request rows decided outcome set) :
    Tells known [] taken decided := by
  have told : Tells known [] taken (taken.reconcile origin.config.reconcileMode rows
      request.policy request.attempts false).1 := Tells.kept.reconcile _ _ _ _ _ _
  rw [reconciled.reconciled] at told
  exact told

theorem Reconciled.decides {taken decided : Service} {set : Bool}
    (reconciled : taken.Reconciled origin request rows decided outcome set) :
    taken.Decides rows request.attempts outcome := by
  have decides := taken.decides_reconcile origin.config.reconcileMode rows request.policy
    request.attempts false
  rw [reconciled.reconciled] at decides
  exact decides

/-- What is made of the request that a message is about. -/
theorem Settled.chapter (settled : service.Settled origin message after)
    (contexts : service.contextIds.Nodup) (here : origin.id ∈ service.contextIds)
    (home : service.Submitted ⟨message.request, origin.id⟩)
    (own : known ⟨message.request, origin.id⟩)
    (current : ∀ completion request, message = .completed completion →
      service.liveRequest? origin.id message.request = some request →
        completion.origin = origin.id ∧ completion.attempt = request.attempts)
    (timely : trusted → ∀ completion request rows,
      service.Received origin message completion request → completion.result = .ok rows →
        rows.version ≤ (service.removeLive origin.id request.id).reachVersion.2) :
    ∃ lines, Tells known lines service after ∧
      Chapter trusted message.request service after lines := by
  have taken : ∀ request : Request, Tells known [] service
      (service.removeLive origin.id request.id) := fun request => tells_removeLive request.id
  have uncalled : ∀ {panics : Prop}, false = true → panics :=
    fun panicked => absurd panicked Bool.false_ne_true
  cases settled with
  | @dropped reason _ useless =>
      have dropped : Interlude [] service
          ((service.dropStale origin message.request reason).releaseAll
            message.snapshot?.toList) :=
        (interlude_dropStale _ _).then (interlude_releaseAll _ _)
      refine ⟨_, (service.tells_dropStale origin message.request reason).then
        (tells_releaseAll _ _), .dropped dropped.undisturbed home here ?_⟩
      -- The result of a request that is still owned is that of its running attempt.
      intro request owned about
      obtain ⟨live, found⟩ := Option.ne_none_iff_exists'.mp (liveRequest?_ne_none contexts owned)
      rw [about] at found
      obtain ⟨completion, posted, stale⟩ := useless live found
      obtain ⟨sent, running⟩ := current completion live posted found
      exact stale.elim (absurd sent) (absurd running)
  | @cancelled request found ready =>
      exact chapter_finished .cancelled request.abandoned found own (taken request)
        (tells_endCancelled _ origin ready.going) uncalled rfl rfl (fun _ => trivial) _
  | @overtaken completion request rows decided outcome received result reconciled =>
      have going : request.awaiting.state.isTerminal = false := rfl
      exact chapter_finished .cancelled request.awaiting.abandoned received.found own
        ((taken request).then reconciled.tells)
        ((decided.tells_endCancelled origin going).then (tells_releaseAll _ _)) uncalled rfl rfl
        (fun _ => trivial) _
  | @failed completion request error received result =>
      obtain ⟨panicked, told, marked⟩ := closes_deliverError
        (service.removeLive origin.id request.id) origin received.ready.going error
      exact chapter_finished (.failed error) (request.endedAs .failed) received.found own
        (taken request) told marked rfl rfl (fun _ => trivial) _
  | @concluded completion request rows decided outcome received result reconciled =>
      have hand : Tells known [] service decided := (taken request).then reconciled.tells
      have newer := fun trust => timely trust completion request rows received result
      by_cases retried : ∃ snapshot current, outcome = .retry snapshot current
      · obtain ⟨snapshot, current, rfl⟩ := retried
        have present : origin.id ∈ decided.contextIds := by
          rw [reconciled.interlude.contextIds, contextIds_removeLive]
          exact here
        refine chapter_retried received.found own hand present ?_ _
        intro trust
        have below := newer trust
        cases reconciled.decides with
        | retried stale => exact Nat.lt_of_le_of_ne below stale
      · obtain ⟨finish, panicked, told, marked, final, below⟩ :=
          tells_conclude reconciled.decides received.ready
            fun snapshot current same => retried ⟨snapshot, current, same⟩
        exact chapter_finished finish _ received.found own hand told marked (final ▸ rfl)
          (final ▸ rfl) (below ∘ newer) _

end Turns

section Steps

theorem Chapter.subject {lines : List Event} (chapter : Chapter trusted id before after lines) :
    ∀ event ∈ lines, event.subject? = some id := by
  cases chapter with
  | silent _ => exact List.forall_mem_nil _
  | dropped _ _ _ _ => simp [Event.subject?]
  | retried _ _ _ _ _ _ => simp [Retrial.events, Event.subject?]
  | @finished _ _ panicked finish _ _ _ _ _ =>
      cases finish <;> cases panicked <;> simp [Finish.events, closingLine, Event.subject?]

/-- What is reported about one request adds to its lines alone. -/
theorem Tells.linesOf_of_subject {lines : List Event} {wanted : RequestId}
    (tells : Tells known lines before after)
    (subject : ∀ event ∈ lines, event.subject? = some wanted) :
    after.linesOf id = before.linesOf id ++ if id = wanted then lines else [] := by
  rw [tells.linesOf]
  congr 1
  split
  · rename_i same
    exact List.filter_eq_self.mpr fun event member => by simp [subject event member, same]
  · rename_i other
    exact List.filter_eq_nil_iff.mpr fun event member => by
      simp [subject event member, Ne.symm other]

/-- A truthful store answers with no version before the current one. -/
theorem current_le_reachVersion (truthful : service.Truthful) (coherent : service.store.Coherent) :
    service.store.authority.current ≤ service.reachVersion.2 := by
  have asking := service.interlude_reachVersion
  have published : service.reachVersion.2 = service.reachVersion.1.store.authority.current :=
    (reachVersion_eq truthful).trans (asking.store.coherent coherent).published
  exact published ▸ asking.store.current_le

theorem Chapter.leaveMessages {lines : List Event} {origin : ContextId}
    (chapter : Chapter trusted id (service.leaveMessages origin rest) after lines) :
    Chapter trusted id service after lines := by
  have same : (service.leaveMessages origin rest).contextIds = service.contextIds :=
    contextIds_updateOrigin fun _ => rfl
  have before : Undisturbed id (service.leaveMessages origin rest) after →
      Undisturbed id service after := fun undisturbed =>
    ⟨fun other held about owned =>
        owns_leaveMessages_iff.mp (undisturbed.owned other held about owned),
      fun other held about owned =>
        undisturbed.kept other held about (owns_leaveMessages_iff.mpr owned),
      undisturbed.outcome⟩
  cases chapter with
  | silent undisturbed => exact .silent (before undisturbed)
  | dropped undisturbed home known absent =>
      exact .dropped (before undisturbed) home (same ▸ known)
        fun request owned => absent request (owns_leaveMessages_iff.mpr owned)
  | retried owned about back same counted below =>
      exact .retried (owns_leaveMessages_iff.mp owned) about back same counted below
  | finished owned about closed below marked =>
      exact .finished (owns_leaveMessages_iff.mp owned) about closed below marked

/-- What a turn of an origin makes of each request. -/
theorem Processed.chapters (processed : service.Processed owner message rest after)
    (handled : (service.leaveMessages owner.settings.id rest).Handled owner.settings message after)
    (orderly : service.Orderly) (tracked : service.Tracked)
    (faithful : trusted → ∃ asked, service.Faithful asked)
    (knows : service.Knows service.Submitted) :
    ∃ lines, Tells service.Submitted lines service after ∧ ∀ id, ∃ lines,
      Chapter trusted id service after lines ∧ after.linesOf id = service.linesOf id ++ lines := by
  have held := holds_of_origin? processed.found processed.oldest
  have home := knows.posted _ message held
  have left : (service.leaveMessages owner.settings.id rest).contextIds = service.contextIds :=
    contextIds_updateOrigin fun _ => rfl
  have quiet : Tells service.Submitted [] service (service.leaveMessages owner.settings.id rest) :=
    tells_leaveMessages orderly.contexts processed.found processed.oldest
  have timely : trusted → ∀ completion request rows,
      (service.leaveMessages owner.settings.id rest).Received owner.settings message completion
        request → completion.result = .ok rows →
      rows.version ≤ ((service.leaveMessages owner.settings.id rest).removeLive owner.settings.id
        request.id).reachVersion.2 := by
    intro trust completion request rows received result
    obtain ⟨asked, faithful⟩ := faithful trust
    have computed := faithful.posted _ completion rows (received.posted ▸ held) result
    have truthful : ((service.leaveMessages owner.settings.id rest).removeLive owner.settings.id
        request.id).Truthful := faithful.truthful
    exact Nat.le_trans computed.version_le (current_le_reachVersion truthful faithful.coherent)
  obtain ⟨lines, told, chapter⟩ := processed.settled.chapter (left ▸ orderly.contexts)
    (left ▸ mem_contextIds_of_origin? processed.found) home home
    (fun completion request posted live =>
      ⟨tracked.own _ completion (posted ▸ held), processed.current tracked posted live⟩) timely
  have told := quiet.trans told
  refine ⟨lines, told, fun id => ?_⟩
  have added : after.linesOf id = _ := told.linesOf_of_subject chapter.subject
  by_cases about : id = message.request
  · rw [if_pos about] at added
    exact ⟨lines, about ▸ chapter.leaveMessages, added⟩
  · rw [if_neg about] at added
    exact ⟨[], (Chapter.silent (handled.undisturbed about)).leaveMessages, added⟩

end Steps

end Service

end SnapshotQuery
