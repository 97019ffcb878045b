import SnapshotQuery.Session.Basic
import SnapshotQuery.Proofs.Log.Reading
import SnapshotQuery.Proofs.Service.Log

/-!
# The threshold of the log

A session never looks at what it prints.  With a higher threshold it answers the
same, notices the same and ends in the same state, and of the lines it prints
just those that are severe enough.
-/

namespace SnapshotQuery

/-- The severity that the line tells reaches the threshold. -/
def Severity.reachedBy (threshold : Severity) (line : String) : Bool :=
  (Severity.ofLine? line).any fun severity => decide (threshold ≤ severity)

/-- A turn of a session: a command of its script, or a move of a worker, an origin or another
client in between. -/
inductive Turn where
  | command (command : Command)
  | move (move : Move)

section Journals

variable {journal loud quiet : Journal} {entries : List Entry}

theorem reachedBy_line (threshold : Severity) (entry : Entry) :
    threshold.reachedBy entry.line = decide (threshold ≤ entry.severity) := by
  rw [Severity.reachedBy, Entry.ofLine?_line, Option.any_some]

/-- The lines of the journal are those of the entries that reach its threshold. -/
def Journal.Tells (journal : Journal) (entries : List Entry) : Prop :=
  journal.lines = (entries.filter fun entry => journal.enabled entry.severity).map Entry.printed

theorem threshold_recordAll (journal : Journal) (entries : List Entry) :
    (journal.recordAll entries).threshold = journal.threshold := by
  induction entries generalizing journal with
  | nil => rfl
  | cons entry rest inductionHypothesis =>
      have recorded : journal.recordAll (entry :: rest) = (journal.record entry).recordAll rest :=
        rfl
      rw [recorded, inductionHypothesis, Journal.record]
      split <;> rfl

theorem Journal.Tells.recordAll (tells : journal.Tells entries) (later : List Entry) :
    (journal.recordAll later).Tells (entries ++ later) := by
  rw [Tells] at tells
  simp only [Tells, lines_recordAll, tells, enabled, threshold_recordAll, List.filter_append,
    List.map_append]

theorem tells_gained (journal : Journal) (entries : List Entry) :
    Journal.Tells { journal.recordAll entries with
      lines := (journal.recordAll entries).lines.drop journal.lines.length } entries := by
  rw [Journal.Tells, lines_recordAll, List.drop_left]
  simp only [Journal.enabled, threshold_recordAll]

/-- Of two journals with the same entries the one with the higher threshold prints the lines of
the other one that reach it. -/
theorem Journal.Tells.on_eq_filter (told : loud.Tells entries) (told' : quiet.Tells entries)
    (le : loud.threshold ≤ quiet.threshold) (stream : Stream) :
    quiet.on stream = (loud.on stream).filter quiet.threshold.reachedBy := by
  have reaches : ∀ entry : Entry, (quiet.enabled entry.severity && loud.enabled entry.severity) =
      quiet.enabled entry.severity := fun entry => by
    rw [Bool.and_eq_left_iff_imp]
    exact fun enabled => decide_eq_true (Nat.le_trans le (of_decide_eq_true enabled))
  rw [Journal.on, Journal.on, told, told']
  simp only [List.filter_map, List.map_map, List.filter_filter]
  congr 1
  refine List.filter_congr fun entry _ => ?_
  have reached : quiet.threshold.reachedBy entry.printed.text = quiet.enabled entry.severity :=
    reachedBy_line quiet.threshold entry
  simp only [Function.comp_apply, reached]
  rw [Bool.and_left_comm, reaches]

end Journals

namespace Session

def withJournal (session : Session) (journal : Journal) : Session := { session with journal }

/-- Print what was reported since a moment, and tell what is known then. -/
def tell (session : Session) (outcome : Session × Reply) : Session × StepReport :=
  let next := outcome.1.print session.service.trail.length
  (next,
    { reply := outcome.2
      version := next.service.store.currentVersion
      live := next.service.store.liveRows
      pinned := next.service.store.pinnedSnapshots
      observations := (next.service.observations.take
        (next.service.observations.length - session.service.observations.length)).reverse
      journal := { next.journal with
        lines := next.journal.lines.drop session.journal.lines.length } })

/-- A command is run; a move is made if it can be. -/
def outcome (session : Session) : Turn → Session × Reply
  | .command command => session.run command
  | .move move =>
      match session.service.after? move with
      | some service => ({ session with service }, .flag true)
      | none => (session, .flag false)

def play : Session → List Turn → Session × List StepReport
  | session, [] => (session, [])
  | session, turn :: rest =>
      let (next, report) := session.tell (session.outcome turn)
      let (last, reports) := next.play rest
      (last, report :: reports)

theorem step_eq_tell (session : Session) (command : Command) :
    session.step command = session.tell (session.run command) := rfl

/-- Commands without moves in between are run as the session runs them. -/
theorem reports_play_commands (session : Session) (commands : List Command) :
    (session.play (commands.map .command)).2 = session.runAll commands := by
  induction commands generalizing session with
  | nil => rfl
  | cons command rest inductionHypothesis =>
      have stepped : session.runAll (command :: rest) =
          (session.step command).2 :: (session.step command).1.runAll rest := rfl
      rw [stepped, step_eq_tell, ← inductionHypothesis]
      rfl

section Frame

variable (journal : Journal) (session : Session) (name : String)

def onto (outcome : Session × Reply) : Session × Reply :=
  (outcome.1.withJournal journal, outcome.2)

variable {journal session}

theorem withSnapshot_onto {use use' : Snapshot → Session × Reply}
    (same : ∀ snapshot, use' snapshot = onto journal (use snapshot)) :
    (session.withJournal journal).withSnapshot name use' =
      onto journal (session.withSnapshot name use) := by
  simp only [withSnapshot, withJournal]
  cases session.service.snapshots.find? name with
  | none => rfl
  | some snapshot => exact same snapshot

theorem withSet_onto {use use' : RowSet → Session × Reply}
    (same : ∀ rows, use' rows = onto journal (use rows)) :
    (session.withJournal journal).withSet name use' = onto journal (session.withSet name use) := by
  simp only [withSet, withJournal]
  cases session.sets.find? name with
  | none => rfl
  | some rows => exact same rows

theorem withDispatcher_onto {use use' : Dispatcher → Session × Reply}
    (same : ∀ dispatcher, use' dispatcher = onto journal (use dispatcher)) :
    (session.withJournal journal).withDispatcher name use' =
      onto journal (session.withDispatcher name use) := by
  simp only [withDispatcher, withJournal]
  cases (session.service.dispatcherNames.find? name).bind session.service.dispatcher? with
  | none => rfl
  | some dispatcher => exact same dispatcher

theorem withOrigin_onto {use use' : Origin → Session × Reply}
    (same : ∀ origin, use' origin = onto journal (use origin)) :
    (session.withJournal journal).withOrigin name use' =
      onto journal (session.withOrigin name use) := by
  simp only [withOrigin, withJournal]
  cases (session.origins.find? name).bind session.service.origin? with
  | none => rfl
  | some origin => exact same origin

theorem answerRows_onto (name : Option String) (result : Except StoreError RowSet) :
    (session.withJournal journal).answerRows name result =
      onto journal (session.answerRows name result) := by
  cases name with
  | none => rfl
  | some name => cases result <;> rfl

/-- A command does the same whatever was printed before, and prints nothing itself. -/
theorem run_onto (command : Command) :
    (session.withJournal journal).run command = onto journal (session.run command) := by
  cases command with
  | openSnapshot name version =>
      simp only [run, withJournal]
      rcases session.service.openSnapshot version with ⟨service, error | snapshot⟩ <;> rfl
  | copySnapshot source name => exact withSnapshot_onto source fun _ => rfl
  | evaluate snapshot predicate name =>
      exact withSnapshot_onto snapshot fun _ => answerRows_onto name _
  | importRows set source target name => exact withSet_onto set fun _ => answerRows_onto name _
  | enterRows name rows => exact answerRows_onto (some name) (.ok rows)
  | readRow snapshot row => exact withSnapshot_onto snapshot fun _ => rfl
  | handOver set target name => exact withSet_onto set fun _ => rfl
  | reconcile set mode policy attempts cancelled name => exact withSet_onto set fun _ => rfl
  | showDispatcher name => exact withDispatcher_onto name fun _ => rfl
  | addOrigin name dispatcher config => exact withDispatcher_onto dispatcher fun _ => rfl
  | dropOrigin name =>
      simp only [run, dropOrigin, withJournal]
      cases session.origins.find? name <;> rfl
  | submit name origin script => exact withOrigin_onto origin fun _ => rfl
  | poll origin => exact withOrigin_onto origin fun _ => rfl
  | drive origin rounds => exact withOrigin_onto origin fun _ => rfl
  | runUntilIdle origin => exact withOrigin_onto origin fun _ => rfl
  | showOrigin name => exact withOrigin_onto name fun _ => rfl
  | _ => rfl

/-- Neither a command nor a move looks at the journal. -/
theorem outcome_onto (turn : Turn) :
    (session.withJournal journal).outcome turn = onto journal (session.outcome turn) := by
  cases turn with
  | command command => exact run_onto command
  | move move =>
      simp only [outcome, withJournal]
      cases session.service.after? move <;> rfl

end Frame

def news (session : Session) (earlier : Nat) : List Entry :=
  (session.service.trail.take (session.service.trail.length - earlier)).reverse.map Event.entry

end Session

/-- Two reports that differ in their lines only, and the second has the lines of the first that
reach the threshold. -/
structure StepReport.Quieted (threshold : Severity) (loud quiet : StepReport) : Prop where
  reply : quiet.reply = loud.reply
  version : quiet.version = loud.version
  live : quiet.live = loud.live
  pinned : quiet.pinned = loud.pinned
  observations : quiet.observations = loud.observations
  lines : ∀ stream, quiet.journal.on stream =
    (loud.journal.on stream).filter threshold.reachedBy

namespace Session

/-- Two sessions that differ in their lines only, and the second has printed the lines of the
first that reach the threshold. -/
structure Quieted (threshold : Severity) (loud quiet : Session) : Prop where
  service : quiet.service = loud.service
  sets : quiet.sets = loud.sets
  origins : quiet.origins = loud.origins
  disturbances : quiet.disturbances = loud.disturbances
  lines : ∀ stream, quiet.journal.on stream =
    (loud.journal.on stream).filter threshold.reachedBy

/-- Two sessions in one state that have printed the same entries, each with its threshold. -/
structure Twins (low high : Severity) (loud quiet : Session) : Prop where
  same : quiet = loud.withJournal quiet.journal
  low : loud.journal.threshold = low
  high : quiet.journal.threshold = high
  told : ∃ entries, loud.journal.Tells entries ∧ quiet.journal.Tells entries

variable {low high : Severity} {loud quiet : Session}

theorem Twins.quieted (twins : Twins low high loud quiet) (le : low ≤ high) :
    Quieted high loud quiet where
  service := by rw [twins.same]; rfl
  sets := by rw [twins.same]; rfl
  origins := by rw [twins.same]; rfl
  disturbances := by rw [twins.same]; rfl
  lines stream := by
    obtain ⟨entries, told, told'⟩ := twins.told
    have le : loud.journal.threshold ≤ quiet.journal.threshold := by rwa [twins.low, twins.high]
    rw [told.on_eq_filter told' le stream, twins.high]

/-- A turn keeps two sessions alike, and its reports differ in their lines only. -/
theorem Twins.tell (twins : Twins low high loud quiet) (le : low ≤ high) (turn : Turn) :
    Twins low high (loud.tell (loud.outcome turn)).1 (quiet.tell (quiet.outcome turn)).1 ∧
      (loud.tell (loud.outcome turn)).2.Quieted high (quiet.tell (quiet.outcome turn)).2 := by
  obtain ⟨same, threshold, threshold', entries, told, told'⟩ := twins
  generalize quiet.journal = journal at *
  subst same
  have kept : loud.outcome turn = onto loud.journal (loud.outcome turn) := outcome_onto turn
  rw [outcome_onto turn]
  generalize loud.outcome turn = outcome at kept ⊢
  rw [kept]
  -- both sessions print what the service has reported since, each to its journal
  let news := outcome.1.news loud.service.trail.length
  have low' : (loud.journal.recordAll news).threshold = low :=
    (threshold_recordAll loud.journal news).trans threshold
  have high' : (journal.recordAll news).threshold = high :=
    (threshold_recordAll journal news).trans threshold'
  refine ⟨⟨rfl, low', high', _, told.recordAll news, told'.recordAll news⟩,
    ⟨rfl, rfl, rfl, rfl, rfl, fun stream => ?_⟩⟩
  have lines := (tells_gained loud.journal news).on_eq_filter (tells_gained journal news)
    (by rwa [low', high']) stream
  rwa [high'] at lines

theorem Twins.play (twins : Twins low high loud quiet) (le : low ≤ high) (turns : List Turn) :
    Twins low high (loud.play turns).1 (quiet.play turns).1 ∧
      List.Forall₂ (StepReport.Quieted high) (loud.play turns).2 (quiet.play turns).2 := by
  induction turns generalizing loud quiet with
  | nil => exact ⟨twins, .nil⟩
  | cons turn rest inductionHypothesis =>
      obtain ⟨next, report⟩ := twins.tell le turn
      obtain ⟨last, reports⟩ := inductionHypothesis next
      exact ⟨last, .cons report reports⟩

theorem twins_new (schema : TableSchema) (low high : Severity) :
    Twins low high (new schema ⟨low, []⟩) (new schema ⟨high, []⟩) :=
  ⟨rfl, rfl, rfl, [], rfl, rfl⟩

/-- The threshold of the log only chooses among the lines.  With a higher one every turn answers
and is noticed as before, the session ends in the same state, and on each stream stand, in their
order, the lines that tell a severity which reaches it. -/
theorem threshold_only_chooses_lines (schema : TableSchema) {low high : Severity}
    (le : low ≤ high) :
    (∀ commands, List.Forall₂ (StepReport.Quieted high)
        ((new schema ⟨low, []⟩).runAll commands) ((new schema ⟨high, []⟩).runAll commands)) ∧
      ∀ turns,
        let loud := (new schema ⟨low, []⟩).play turns
        let quiet := (new schema ⟨high, []⟩).play turns
        List.Forall₂ (StepReport.Quieted high) loud.2 quiet.2 ∧ Quieted high loud.1 quiet.1 := by
  have played := (twins_new schema low high).play le
  refine ⟨fun commands => ?_, fun turns => ?_⟩
  · rw [← reports_play_commands, ← reports_play_commands]
    exact (played (commands.map .command)).2
  · obtain ⟨twins, reports⟩ := played turns
    exact ⟨reports, twins.quieted le⟩

/-- A write of its hook overtakes a query that is not tried again. -/
def overtakenTurns : List Turn := [
  .command (.write (Service.insertItem 5)),
  .command (.addDispatcher "pool" .default none),
  .command (.addOrigin "desk" "pool" .default),
  .command (.submit "overtaken" "desk"
    ⟨.all, some .noRetry, false, some [[.write (Service.insertItem 7)]], none, [], []⟩),
  .move (.advance ⟨1⟩), .move (.advance ⟨1⟩), .move (.advance ⟨1⟩), .move (.advance ⟨1⟩),
  .move (.advance ⟨1⟩), .move (.advance ⟨1⟩), .command (.poll "desk")]

theorem threshold_only_chooses_lines_of_overtaken :
    let loud := (new Service.itemsSchema ⟨.trace, []⟩).play overtakenTurns
    let quiet := (new Service.itemsSchema ⟨.warn, []⟩).play overtakenTurns
    Severity.trace ≤ Severity.warn ∧ Quieted .warn loud.1 quiet.1 ∧
      (loud.1.journal.on .output).length = 7 ∧ (quiet.1.journal.on .output).length = 1 ∧
      (loud.1.journal.on .error).length = 1 ∧ (quiet.1.journal.on .error).length = 1 :=
  ⟨by decide,
    ((threshold_only_chooses_lines Service.itemsSchema (by decide)).2 overtakenTurns).2,
    by decide +kernel, by decide +kernel, by decide +kernel, by decide +kernel⟩

end Session

end SnapshotQuery
