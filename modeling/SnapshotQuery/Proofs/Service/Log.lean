import SnapshotQuery.Proofs.Service.Chronicle

/-!
# The log of a request

With the lowest threshold everything that is reported is printed.  Of the lines
with the id of a request those that come from its origin are then the lines of a
story: attempts that are numbered without gaps, and one ending.  Only where a
callback panics does the story break off before its last line.
-/

namespace SnapshotQuery

/-- What origins report. -/
def EventKind.ofOrigins : List EventKind := [
  querySubmitted, queryAttemptDispatched, queryVersionMismatch, queryRederived, queryRetrying,
  queryConverged, queryFailed, queryCancelled, queryStaleMessageDropped]

namespace Entry

def fromOrigin (entry : Entry) : Bool :=
  EventKind.ofOrigins.any fun kind => kind.name = entry.event

/-- A field of the line names the request. -/
def carries (id : RequestId) (entry : Entry) : Bool :=
  decide (Event.ofRequest id ∈ entry.fields)

def printed (entry : Entry) : PrintedLine := ⟨entry.severity.stream, entry.line⟩

end Entry

/-- The number of the attempt that is dispatched. -/
def Event.dispatched? : Event → Option Nat
  | attemptDispatched _ attempt _ => some attempt
  | _ => none

/-- The line that announces an attempt comes right before the line that it is dispatched. -/
def Announced (id : RequestId) (lines : List Event) : Prop :=
  ∀ index attempt, lines[index]? = some (.retrying id attempt) →
    ∃ hook, lines[index + 1]? = some (.attemptDispatched id attempt hook)

variable {id : RequestId}

section Entries

theorem RequestId.text_injective {other : RequestId} (same : id.text = other.text) :
    id = other := by
  have digits : Nat.toDigits 10 id.number = Nat.toDigits 10 other.number := by
    have numbers := (String.append_right_inj "req-").mp same
    rwa [Nat.toString_eq_ofList_toDigits, Nat.toString_eq_ofList_toDigits,
      String.ofList_inj] at numbers
  have number : id.number = other.number := calc
    id.number = Nat.ofDigitChars 10 (Nat.toDigits 10 id.number) 0 :=
      Nat.ofDigitChars_ten_toDigits.symm
    _ = Nat.ofDigitChars 10 (Nat.toDigits 10 other.number) 0 := by rw [digits]
    _ = other.number := Nat.ofDigitChars_ten_toDigits
  exact congrArg RequestId.mk number

theorem ofRequest_inj {other : RequestId} :
    Event.ofRequest id = Event.ofRequest other ↔ id = other :=
  ⟨fun same => RequestId.text_injective (Prod.mk.inj same).2, congrArg _⟩

theorem fromOrigin_entry (event : Event) :
    event.entry.fromOrigin = event.subject?.isSome := by
  cases event with
  | attemptCompleted _ _ result => cases result <;> rfl
  | _ => rfl

/-- What an origin reports about a request carries its id alone. -/
theorem carries_entry {event : Event} {subject : RequestId}
    (reported : event.subject? = some subject) : event.entry.carries id = true ↔ subject = id := by
  have named : ∀ other : RequestId, Event.ofRequest id = Event.ofRequest other ↔ other = id :=
    fun other => ofRequest_inj.trans eq_comm
  have keyed : ∀ key value, key ≠ "request_id" → Event.ofRequest id ≠ (key, value) :=
    fun key value differs same => differs (Prod.mk.inj same).1.symm
  cases event with
  | staleMessageDropped request origin reason =>
      obtain rfl := Option.some.inj reported
      cases reason <;>
        simp [Event.entry, EventKind.entry, Entry.carries, StaleReason.field, named, keyed]
  | configLoaded _ _ | storeCommit _ _ _ | snapshotOpened _ | garbageCollected _
  | attemptSkipped _ _ _ | attemptCompleted _ _ _ | workerPanicked _ _ _ | originGone _ _
  | simulationWriteFailed _ _ => cases reported
  | _ =>
      obtain rfl := Option.some.inj reported
      simp [Event.entry, EventKind.entry, Entry.carries, named, keyed]

/-- The lines of origins with the id of a request are those that are reported about it. -/
theorem fromOrigin_and_carries_iff (event : Event) :
    (event.entry.fromOrigin && event.entry.carries id) = true ↔ event.subject? = some id := by
  rw [Bool.and_eq_true, fromOrigin_entry]
  cases reported : event.subject? with
  | none => simp
  | some subject => simp [carries_entry reported]

theorem lines_recordAll (journal : Journal) (entries : List Entry) :
    (journal.recordAll entries).lines = journal.lines ++
      (entries.filter fun entry => journal.enabled entry.severity).map Entry.printed := by
  induction entries generalizing journal with
  | nil => simp [Journal.recordAll]
  | cons entry rest inductionHypothesis =>
      have recorded : journal.recordAll (entry :: rest) = (journal.record entry).recordAll rest :=
        rfl
      rw [recorded, inductionHypothesis]
      cases printed : journal.enabled entry.severity with
      | false =>
          have same : journal.record entry = journal := by
            rw [Journal.record, printed, if_neg Bool.false_ne_true]
          rw [same, List.filter_cons_of_neg (by simp [printed])]
      | true =>
          have added : journal.record entry =
              { journal with lines := journal.lines ++ [entry.printed] } := by
            rw [Journal.record, printed, if_pos rfl]
            rfl
          rw [added, List.filter_cons_of_pos (by exact printed), List.map_cons, List.append_assoc]
          rfl

end Entries

section Stories

theorem dispatched_retrials (id : RequestId) (retrials : List Retrial) (first : Nat) :
    ((retrials.zipIdx first).flatMap fun (retrial, attempt) => retrial.events id attempt).filterMap
      Event.dispatched? = List.range' (first + 1) retrials.length := by
  induction retrials generalizing first with
  | nil => rfl
  | cons retrial rest inductionHypothesis =>
      simp only [List.zipIdx_cons, List.flatMap_cons, List.filterMap_append, inductionHypothesis]
      rfl

theorem dispatched_events (id : RequestId) (story : Story) :
    (story.events id).filterMap Event.dispatched? = List.range' 1 story.attempts := by
  have course : (story.course id).filterMap Event.dispatched? = List.range' 1 story.attempts := by
    have retrials := dispatched_retrials id story.retrials 1
    simp only [Story.course, List.filterMap_cons, Event.dispatched?, retrials]
    rfl
  rw [Story.events, List.filterMap_append, course]
  cases story.ending with
  | none => exact List.append_nil _
  | some ending =>
      have undispatched : (ending.events id story.origin story.attempts).filterMap
          Event.dispatched? = [] := by
        obtain ⟨finish, panicked, late⟩ := ending
        cases finish <;> cases panicked <;>
          simp [Epilogue.events, Finish.events, closingLine, Event.dispatched?]
      rw [undispatched, List.append_nil]

/-- A request that has failed says so, unless a callback panicked. -/
theorem Story.failed_mem_events {story : Story} {ending : Epilogue}
    (ended : story.ending = some ending) (failed : ending.finish.state = .failed)
    (whole : ending.panicked = false) :
    ∃ error, .failed id story.attempts error ∈ story.events id := by
  obtain ⟨finish, panicked, late⟩ := ending
  obtain rfl : panicked = false := whole
  cases finish with
  | failed error => exact ⟨error, by simp [Story.events, ended, Epilogue.events, Finish.events]⟩
  | unreachable snapshot current =>
      exact ⟨.unreachableVersion story.attempts snapshot current,
        by simp [Story.events, ended, Epilogue.events, Finish.events]⟩
  | converged _ _ | rederived _ _ | cancelled => cases failed

theorem announced_of_forall {lines : List Event}
    (unannounced : ∀ attempt, .retrying id attempt ∉ lines) : Announced id lines :=
  fun _ attempt here => absurd (List.mem_of_getElem? here) (unannounced attempt)

theorem Announced.append {front back : List Event} (first : Announced id front)
    (second : Announced id back) : Announced id (front ++ back) := by
  intro index attempt here
  rcases Nat.lt_or_ge index front.length with inside | beyond
  · rw [List.getElem?_append_left inside] at here
    obtain ⟨hook, next⟩ := first index attempt here
    have inside := (List.getElem?_eq_some_iff.mp next).1
    exact ⟨hook, (List.getElem?_append_left inside).trans next⟩
  · rw [List.getElem?_append_right beyond] at here
    obtain ⟨hook, next⟩ := second (index - front.length) attempt here
    have later : front.length ≤ index + 1 := Nat.le_succ_of_le beyond
    refine ⟨hook, ?_⟩
    rw [List.getElem?_append_right later, Nat.sub_add_comm beyond, next]

theorem Announced.flatMap {Item : Type} {lines : Item → List Event}
    (each : ∀ item, Announced id (lines item)) (items : List Item) :
    Announced id (items.flatMap lines) := by
  induction items with
  | nil => exact announced_of_forall fun _ => List.not_mem_nil
  | cons item rest inductionHypothesis =>
      rw [List.flatMap_cons]
      exact (each item).append inductionHypothesis

theorem Retrial.announced_events (id : RequestId) (attempt : Nat) (retrial : Retrial) :
    Announced id (retrial.events id attempt) := by
  rintro (_ | _ | _ | index) next here
  · cases here
  · obtain rfl : attempt + 1 = next := (Event.retrying.inj (Option.some.inj here)).2
    exact ⟨retrial.hook, rfl⟩
  · cases here
  · cases here

theorem announced_events (id : RequestId) (story : Story) : Announced id (story.events id) := by
  have begun : Announced id
      [.submitted id story.origin story.policy, .attemptDispatched id 1 story.hook] :=
    announced_of_forall fun attempt => by simp
  have retrials := begun.append (.flatMap (fun numbered : Retrial × Nat =>
    numbered.1.announced_events id numbered.2) (story.retrials.zipIdx 1))
  refine retrials.append ?_
  cases story.ending with
  | none => exact announced_of_forall fun _ => List.not_mem_nil
  | some ending =>
      refine announced_of_forall fun attempt => ?_
      cases finish : ending.finish <;> simp [Epilogue.events, Finish.events, finish]

end Stories

namespace Service

/-- The lines of a service that are printed with a threshold, oldest first. -/
def log (service : Service) (threshold : Severity) : List Entry :=
  (service.trail.reverse.map Event.entry).filter fun entry => decide (threshold ≤ entry.severity)

variable {service : Service}

theorem log_trace (service : Service) :
    service.log .trace = service.trail.reverse.map Event.entry :=
  List.filter_eq_self.mpr fun _ _ => decide_eq_true (Nat.zero_le _)

/-- What a journal prints of a service is its log. -/
theorem lines_recordAll_log (journal : Journal) (service : Service) :
    (journal.recordAll (service.trail.reverse.map Event.entry)).lines =
      journal.lines ++ (service.log journal.threshold).map Entry.printed :=
  lines_recordAll journal _

/-- The lines in the log that come from the origin of a request are those that were reported. -/
theorem filter_log_trace (service : Service) (id : RequestId) :
    (service.log .trace).filter (fun entry => entry.fromOrigin && entry.carries id) =
      (service.linesOf id).map Event.entry := by
  rw [log_trace, List.filter_map, linesOf, ← List.filter_reverse]
  congr 1
  refine List.filter_congr fun event _ => ?_
  rw [Bool.eq_iff_iff, decide_eq_true_iff]
  exact fromOrigin_and_carries_iff event

/-- The log of a request is a story.  Its attempts are numbered from one without gaps, and each
one after the first is announced by the line before it.  The story has ended once the request has,
with the line of the state the request has ended in, which is missing only if a callback of the
request panicked.  Rows that were stale were older than the version of the origin, if the store is
truthful. -/
theorem log_of_request {permitted : Service → Move → Prop} {schema : TableSchema}
    (run : (Service.new schema).Reaches permitted service) (positive : 0 < id.number)
    (made : id.number ≤ service.requestsMade) :
    ∃ story : Story,
      (service.log .trace).filter (fun entry => entry.fromOrigin && entry.carries id) =
        (story.events id).map Event.entry ∧
      (story.ending.map fun ending => ending.finish.state) = service.outcomeOf id ∧
      (story.events id).filterMap Event.dispatched? = List.range' 1 story.attempts ∧
      Announced id (story.events id) ∧
      (service.Composed id → ∀ ending, story.ending = some ending → ending.panicked = false) ∧
      ((∀ moment move, permitted moment move → move.Truthful) →
        ∀ attempt snapshot current,
          .versionMismatch id attempt snapshot current ∈ story.events id → snapshot < current) := by
  obtain ⟨story, recounts⟩ := (chronicled_of_reaches run).stories id positive made
  refine ⟨story, ?_, recounts.outcome.symm, dispatched_events id story, announced_events id story,
    ?_, ?_⟩
  · rw [filter_log_trace, recounts.lines]
  · exact fun composed ending ended =>
      Bool.eq_false_iff.mpr fun panicked => recounts.marked ending ended panicked composed
  · intro truthful attempt snapshot current member
    rw [← recounts.lines] at member
    exact recounts.ascends truthful _ member

/-- A query is tried again after a write, and cancelled before the second result is handled. -/
theorem log_of_request_of_cancelled : ∃ service story,
    (Service.new itemsSchema).afterAll? (overtakenQuery ++
      [.act (.cancel "overtaken"), .process ⟨1⟩, .process ⟨1⟩]) = some service ∧
    ((Story.events ⟨1⟩ story).map Event.entry).map (fun entry => entry.event) = [
      "QUERY_SUBMITTED", "QUERY_ATTEMPT_DISPATCHED", "QUERY_VERSION_MISMATCH", "QUERY_RETRYING",
      "QUERY_ATTEMPT_DISPATCHED", "QUERY_CANCELLED", "QUERY_STALE_MESSAGE_DROPPED"] ∧
    (story.ending.map fun ending => ending.finish.state) = some .cancelled ∧
    (∀ ending, story.ending = some ending → ending.panicked = false) ∧
    ∀ attempt snapshot current,
      .versionMismatch ⟨1⟩ attempt snapshot current ∈ story.events ⟨1⟩ → snapshot < current := by
  have sample : ∃ service, (Service.new itemsSchema).afterAll? (overtakenQuery ++
      [.act (.cancel "overtaken"), .process ⟨1⟩, .process ⟨1⟩]) = some service ∧
      ((service.log .trace).filter fun entry => entry.fromOrigin && entry.carries ⟨1⟩).map
        (fun entry => entry.event) = [
          "QUERY_SUBMITTED", "QUERY_ATTEMPT_DISPATCHED", "QUERY_VERSION_MISMATCH",
          "QUERY_RETRYING", "QUERY_ATTEMPT_DISPATCHED", "QUERY_CANCELLED",
          "QUERY_STALE_MESSAGE_DROPPED"] ∧
      service.outcomeOf ⟨1⟩ = some .cancelled ∧ service.requestsMade = 1 ∧
      service.observations.filterMap Observation.panic? = [] :=
    ⟨_, rfl, rfl, rfl, rfl, rfl⟩
  obtain ⟨service, moved, lines, outcome, made, calm⟩ := sample
  have truthful : ∀ move ∈ overtakenQuery ++
      [.act (.cancel "overtaken"), .process ⟨1⟩, .process ⟨1⟩], move.Truthful := by
    simp [overtakenQuery, Move.Truthful]
  have run : (Service.new itemsSchema).Reaches (fun _ move => move.Truthful) service :=
    reaches_of_afterAll? moved fun move member _ => truthful move member
  obtain ⟨story, told, ended, _, _, whole, below⟩ :=
    log_of_request run Nat.one_pos (Nat.le_of_eq made.symm)
  exact ⟨service, story, moved, told ▸ lines, ended.trans outcome,
    whole (composed_of_calm calm ⟨1⟩), below fun _ _ honest => honest⟩

/-- A query that is not tried again is overtaken by a write, and its error callback panics. -/
def panickingQuery : List Move := [
  .act (.write (insertItem 5)),
  .addDispatcher "pool" 1 none,
  .addOrigin ⟨1⟩ .default,
  .submit ⟨1⟩ { allRows "lost" with onError := fun _ => [.panic (some "boom")] },
  .advance ⟨1⟩, .advance ⟨1⟩, .advance ⟨1⟩, .advance ⟨1⟩, .advance ⟨1⟩, .advance ⟨1⟩,
  .act (.write (insertItem 7)),
  .process ⟨1⟩]

/-- The request has failed, and no line says so. -/
theorem failure_unreported_of_panic : ∃ service,
    (Service.new itemsSchema).afterAll? panickingQuery = some service ∧
    service.outcomeOf ⟨1⟩ = some .failed ∧
    ((service.log .trace).filter fun entry => entry.fromOrigin && entry.carries ⟨1⟩).map
      (fun entry => entry.event) =
        ["QUERY_SUBMITTED", "QUERY_ATTEMPT_DISPATCHED", "QUERY_VERSION_MISMATCH"] ∧
    ¬ ∃ story : Story,
      (service.log .trace).filter (fun entry => entry.fromOrigin && entry.carries ⟨1⟩) =
        (story.events ⟨1⟩).map Event.entry ∧
      (story.ending.map fun ending => ending.finish.state) = service.outcomeOf ⟨1⟩ ∧
      ∀ ending, story.ending = some ending → ending.panicked = false := by
  have sample : ∃ service, (Service.new itemsSchema).afterAll? panickingQuery = some service ∧
      service.outcomeOf ⟨1⟩ = some .failed ∧
      ((service.log .trace).filter fun entry => entry.fromOrigin && entry.carries ⟨1⟩).map
        (fun entry => entry.event) =
          ["QUERY_SUBMITTED", "QUERY_ATTEMPT_DISPATCHED", "QUERY_VERSION_MISMATCH"] :=
    ⟨_, rfl, rfl, rfl⟩
  obtain ⟨service, moved, outcome, lines⟩ := sample
  refine ⟨service, moved, outcome, lines, ?_⟩
  rintro ⟨story, told, state, whole⟩
  rw [outcome] at state
  obtain ⟨ending, ended, failed⟩ := Option.map_eq_some_iff.mp state
  obtain ⟨error, reported⟩ := Story.failed_mem_events ended failed (whole ending ended)
  have named := List.mem_map_of_mem (f := fun entry => entry.event)
    (List.mem_map_of_mem (f := Event.entry) reported)
  rw [← told, lines] at named
  have unnamed : "QUERY_FAILED" ∉
      ["QUERY_SUBMITTED", "QUERY_ATTEMPT_DISPATCHED", "QUERY_VERSION_MISMATCH"] := by decide
  exact unnamed named

end Service

end SnapshotQuery
