import SnapshotQuery.Proofs.Retention.Census
import SnapshotQuery.Proofs.Service.Views

/-!
# Where pins are held

Only callers make copies of snapshots, and only of those they hold under names.
An attempt, a message and a view have each a snapshot of their own, so the pins of
a store are those of the callers, one for each attempt and message that carries a
snapshot, and one for each view.
-/

namespace SnapshotQuery

/-- The move changes nothing under the names of snapshots. -/
def Move.isNameless : Move → Bool
  | openSnapshot _ _ | copySnapshot _ _ | dropSnapshot _ => false
  | _ => true

/-- A worker has opened a snapshot for the attempt and still holds it. -/
def Attempt.holdsSnapshot (attempt : Attempt) : Bool :=
  (attempt.phase.outcome?.bind Outcome.snapshot).isSome

/-- The message is a result that comes with its snapshot. -/
def Message.carriesSnapshot (message : Message) : Bool := message.snapshot?.isSome

namespace Service

/-- No snapshot is copied, none is put under a name, and a view that comes to be kept has a pin. -/
structure Uncopied (before after : Service) : Prop where
  retention : before.store.retention.Keeps after.store.retention
  snapshots : after.snapshots = before.snapshots
  views : ∀ view ∈ after.views.values, view ∈ before.views.values ∨ view.snapshot.isPinned = true

variable {service before after : Service} {origin : OriginSettings} {message : Message}

theorem uncopied_of_stock (same : after.stock = before.stock) : Uncopied before after := by
  simp only [stock, Prod.mk.injEq] at same
  obtain ⟨retention, snapshots, views⟩ := same
  exact ⟨retention ▸ .refl _, snapshots, fun view member => .inl (views ▸ member)⟩

theorem Uncopied.refl (service : Service) : Uncopied service service :=
  uncopied_of_stock rfl

theorem Uncopied.trans {first middle last : Service} (earlier : Uncopied first middle)
    (later : Uncopied middle last) : Uncopied first last where
  retention := earlier.retention.trans later.retention
  snapshots := later.snapshots.trans earlier.snapshots
  views view member := by
    rcases later.views view member with between | new
    · exact earlier.views view between
    · exact .inr new

section Calls

theorem uncopied_report (service : Service) (event : Event) :
    Uncopied service (service.report event) :=
  uncopied_of_stock rfl

theorem uncopied_count (service : Service) (registry : RegistryId) (counter : Counter) :
    Uncopied service (service.count registry counter) :=
  uncopied_of_stock rfl

theorem uncopied_release (service : Service) (snapshot : Snapshot) :
    Uncopied service (service.release snapshot) :=
  ⟨Retention.keeps_release _ _, rfl, fun _ => .inl⟩

theorem uncopied_releaseAll (service : Service) (snapshots : List Snapshot) :
    Uncopied service (service.releaseAll snapshots) := by
  induction snapshots generalizing service with
  | nil => exact .refl service
  | cons snapshot rest inductionHypothesis =>
      exact (service.uncopied_release snapshot).trans (inductionHypothesis _)

theorem uncopied_openSnapshot (service : Service) (version : Option VersionStamp) :
    Uncopied service (service.openSnapshot version).1 := by
  unfold openSnapshot
  cases opening : service.store.openSnapshot version with
  | error refusal => exact .refl service
  | ok result =>
      obtain ⟨snapshot, store⟩ := result
      obtain ⟨_, _, opened⟩ :=
        (service.store.openSnapshot_eq_ok_iff version snapshot store).mp opening
      obtain ⟨_, rfl⟩ := Prod.mk.inj opened
      exact ⟨Retention.keeps_acquire _ _, rfl, fun _ => .inl⟩

theorem Uncopied.kept : KeptByCalls Uncopied where
  refl := .refl
  trans earlier later := earlier.trans later
  act service action := uncopied_of_stock (service.stock_act action)
  hookRan _ _ _ := uncopied_of_stock rfl
  taken _ := uncopied_of_stock rfl
  opened := uncopied_openSnapshot
  released := uncopied_release
  panicked _ _ _ := uncopied_of_stock rfl

theorem values_erase_subset {Item : Type} (map : OrderedMap String Item) (name : String) :
    (map.erase name).values ⊆ map.values :=
  List.map_subset _ (List.filter_subset_self _)

theorem uncopied_keepView (service : Service) (name : String) {view : View}
    (pinned : view.snapshot.isPinned = true) : Uncopied service (service.keepView name view) := by
  have kept : Uncopied service
      { service with views := service.views.insert name view } := by
    refine ⟨.refl _, rfl, ?_⟩
    intro other among
    rcases List.mem_cons.mp ((service.views.values_insert_perm name view).mem_iff.mp among) with
      rfl | old
    · exact .inr pinned
    · exact .inl (values_erase_subset _ name old)
  exact kept.trans (uncopied_releaseAll _ _)

theorem uncopied_putBack (service : Service) (id : ContextId) (request : Request) :
    Uncopied service (service.putBack id request) := by
  unfold putBack
  split <;> exact uncopied_of_stock rfl

theorem stock_dispatch (service : Service) (attempt : Attempt) :
    (service.dispatch attempt).1.stock = service.stock := by
  unfold dispatch
  split
  · rfl
  · split
    · rfl
    · split <;> rfl

end Calls

section Deliveries

variable (service : Service) (origin : OriginSettings) (request : Request)

theorem uncopied_recordEnd (counter : Counter) (event : Event) (panic : Option String) :
    Uncopied service (service.recordEnd origin request counter event panic) := by
  cases panic <;> exact uncopied_of_stock rfl

theorem uncopied_deliverError (error : QueryError) :
    Uncopied service (service.deliverError origin request error).1 := by
  unfold deliverError
  cases request.fail with
  | error refusal => exact .refl service
  | ok result =>
      obtain ⟨failed, callback⟩ := result
      refine Uncopied.trans ?_ (uncopied_recordEnd _ _ _ _ _ _)
      cases callback with
      | none => exact .refl service
      | some callback =>
          have observed : Uncopied service
              (service.observe (.failed failed.label failed.id error)) := uncopied_of_stock rfl
          exact observed.trans (Uncopied.kept.actAll _ _)

theorem uncopied_callSuccess (callback : SuccessCallback) {view : View}
    (pinned : view.snapshot.isPinned = true) :
    Uncopied service (service.callSuccess request callback view).1 := by
  have inspected := Uncopied.kept.inspect service view
  simp only [callSuccess]
  generalize service.inspect view = result at inspected
  obtain ⟨moment, seen⟩ := result
  have called : Uncopied service
      (moment.observe (.succeeded request.label request.id seen)) :=
    inspected.trans (uncopied_of_stock rfl)
  cases callback.keep with
  | some name =>
      exact (called.trans (uncopied_keepView _ name pinned)).trans
        (Uncopied.kept.actAll _ _)
  | none =>
      exact (called.trans (Uncopied.kept.actAll _ _)).trans (uncopied_release _ _)

theorem uncopied_deliverSuccess {view : View} (pinned : view.snapshot.isPinned = true) :
    Uncopied service (service.deliverSuccess origin request view).1 := by
  unfold deliverSuccess
  cases request.converge with
  | error refusal =>
      exact (service.uncopied_release view.snapshot).trans (uncopied_deliverError _ _ _ _)
  | ok result =>
      obtain ⟨converged, callback⟩ := result
      refine Uncopied.trans ?_ (uncopied_recordEnd _ _ _ _ _ _)
      cases callback with
      | none => exact service.uncopied_release view.snapshot
      | some callback => exact service.uncopied_callSuccess converged callback pinned

theorem stock_endCancelled :
    (service.endCancelled origin request).1.stock = service.stock := by
  unfold endCancelled
  split <;> rfl

theorem uncopied_launchAttempt :
    Uncopied service (service.launchAttempt origin request).1 := by
  unfold launchAttempt
  cases request.startAttempt with
  | error error => exact service.uncopied_deliverError _ _ _
  | ok started =>
      simp only
      generalize Request.armHook _ _ = armed
      obtain ⟨started, hook⟩ := armed
      have reported : Uncopied service (service.report
          (.attemptDispatched started.id started.attempts hook.isSome)) := uncopied_of_stock rfl
      generalize service.report _ = moment at reported
      generalize Attempt.mk _ _ _ _ _ _ _ _ = attempt
      have dispatched := reported.trans (uncopied_of_stock (moment.stock_dispatch attempt))
      simp only
      generalize moment.dispatch attempt = result at dispatched
      obtain ⟨later, answer⟩ := result
      cases answer with
      | ok => exact dispatched
      | error error => exact dispatched.trans (uncopied_of_stock rfl)

theorem uncopied_conclude {outcome : Reconciliation} 
    (pinned : ∀ view ∈ outcome.view?, view.snapshot.isPinned = true) :
    Uncopied service (service.conclude origin request outcome).1 := by
  have mismatched : ∀ snapshot current, Uncopied service
      (service.reportMismatch origin request snapshot current) :=
    fun _ _ => uncopied_of_stock rfl
  cases outcome with
  | converged view => exact service.uncopied_deliverSuccess origin request (pinned view rfl)
  | rederived view =>
      have counted : Uncopied service ((service.count origin.registry
          .versionMismatches).count origin.registry .rederived) := uncopied_of_stock rfl
      exact (counted.trans (uncopied_report _ _)).trans
        (uncopied_deliverSuccess _ origin request (pinned view rfl))
  | retry snapshot current =>
      have counted : Uncopied service ((service.reportMismatch origin request snapshot
          current).count origin.registry .retries) :=
        (mismatched snapshot current).trans (uncopied_count _ _ _)
      simp only [conclude]
      cases request.scheduleRetry with
      | error error => exact counted.trans (uncopied_deliverError _ _ _ _)
      | ok next =>
          exact (counted.trans (uncopied_report _ _)).trans (uncopied_launchAttempt _ _ _)
  | giveUp error =>
      cases error <;> first
        | exact service.uncopied_deliverError _ _ _
        | exact (mismatched _ _).trans (uncopied_deliverError _ _ _ _)

end Deliveries

/-- Handling a message copies nothing if the view it delivers has a pin. -/
theorem Settled.uncopied (settled : service.Settled origin message after)
    (delivered : ∀ {completion request rows decided outcome},
      service.Received origin message completion request → completion.result = .ok rows →
        (service.removeLive origin.id request.id).Reconciled origin request rows decided outcome
          false → ∀ view ∈ outcome.view?, view.snapshot.isPinned = true) :
    Uncopied service after := by
  have taken : ∀ request : Request, Uncopied service
      (service.removeLive origin.id request.id) := fun _ => uncopied_of_stock rfl
  have reconciles : ∀ {request : Request} {rows decided outcome set},
      (service.removeLive origin.id request.id).Reconciled origin request rows decided outcome
        set → Uncopied service decided := by
    intro request rows decided outcome set reconciled
    have kept := Uncopied.kept.reconcile (service.removeLive origin.id request.id)
      origin.config.reconcileMode rows request.policy request.attempts false
    rw [reconciled.reconciled] at kept
    exact (taken request).trans kept
  cases settled with
  | dropped _ =>
      have dropped : ∀ reason, Uncopied service
          (service.dropStale origin message.request reason) := fun _ => uncopied_of_stock rfl
      exact (dropped _).trans (uncopied_releaseAll _ _)
  | @cancelled request _ _ =>
      exact (((taken request).trans (uncopied_of_stock (stock_endCancelled _ _ _))).trans
        (uncopied_putBack _ _ _)).trans (uncopied_releaseAll _ _)
  | overtaken _ _ reconciled =>
      exact (((((reconciles reconciled).trans
        (uncopied_of_stock (stock_endCancelled _ _ _))).trans (uncopied_releaseAll _ _))).trans
          (uncopied_putBack _ _ _)).trans (uncopied_releaseAll _ _)
  | @failed _ request _ _ _ =>
      exact (((taken request).trans (uncopied_deliverError _ _ _ _)).trans
        (uncopied_putBack _ _ _)).trans (uncopied_releaseAll _ _)
  | concluded received result reconciled =>
      exact (((reconciles reconciled).trans (uncopied_conclude _ _ _
        (delivered received result reconciled))).trans (uncopied_putBack _ _ _)).trans
          (uncopied_releaseAll _ _)

section Moves

variable {move : Move}

theorem stock_giveWorker (service : Service) (attempt : Attempt) :
    (service.giveWorker attempt).stock = service.stock := by
  unfold giveWorker
  split
  · rfl
  · split
    · rfl
    · split <;> rfl

theorem uncopied_skipOutcome (service : Service) (attempt : Attempt) (outcome : Outcome) :
    Uncopied service (service.skipOutcome attempt outcome) := by
  have freed : Uncopied service (if outcome.evaluated then
      (service.report (.attemptSkipped attempt.request attempt.number .afterEvaluation)).freeWorker
        attempt
    else service) := by
    split <;> exact uncopied_of_stock rfl
  exact (freed.trans (uncopied_releaseAll _ _)).trans (uncopied_of_stock rfl)

theorem uncopied_postOutcome (service : Service) (attempt : Attempt) (outcome : Outcome) :
    Uncopied service (service.postOutcome attempt outcome) := by
  have freed : Uncopied service
      (if outcome.evaluated then service.freeWorker attempt else service) := by
    split <;> exact uncopied_of_stock rfl
  simp only [postOutcome]
  generalize (if outcome.evaluated then service.freeWorker attempt else service) = moment at freed ⊢
  cases moment.origin? attempt.origin with
  | some owner => exact freed.trans (uncopied_of_stock rfl)
  | none =>
      exact ((freed.trans (uncopied_report _ _)).trans (uncopied_releaseAll _ _)).trans
        (uncopied_of_stock rfl)

theorem uncopied_advance (service : Service) (request : RequestId) :
    Uncopied service (service.advance request) := by
  unfold advance
  cases service.attempts.find? fun attempt => attempt.request = request with
  | none => exact .refl service
  | some attempt =>
      simp only [advanceAttempt]
      cases attempt.phase with
      | queued => exact uncopied_of_stock (service.stock_giveWorker attempt)
      | admitted => exact uncopied_of_stock rfl
      | cleared =>
          exact (Uncopied.kept.evaluateAttempt service attempt).trans
            (uncopied_of_stock rfl)
      | abandoned => exact uncopied_of_stock rfl
      | finished outcome => exact uncopied_of_stock rfl
      | released outcome =>
          simp only
          split
          · exact service.uncopied_skipOutcome attempt outcome
          · split <;> exact uncopied_of_stock rfl
      | checked outcome => exact service.uncopied_postOutcome attempt outcome

theorem uncopied_submit (service : Service) (origin : OriginSettings) (query : Query) :
    Uncopied service (service.submit origin query).1 := by
  have announced : Uncopied service (service.countRequest.count origin.registry .submitted
      |>.report (.submitted ⟨service.requestsMade + 1⟩ origin.id query.policy)) :=
    uncopied_of_stock rfl
  have launched := announced.trans (uncopied_launchAttempt _ origin
    (query.request ⟨service.requestsMade + 1⟩ origin.id))
  exact (launched.trans (uncopied_putBack _ _ _)).trans (uncopied_of_stock rfl)

/-- A message is handled without a copy, and the view it delivers has a pin. -/
theorem Processed.uncopied {owner : Origin} {rest : List Message}
    (processed : service.Processed owner message rest after) (vouches : service.Vouches)
    (contexts : service.contextIds.Nodup) (backs : service.store.Backs service.holdings) :
    Uncopied service after := by
  have left : Uncopied service (service.leaveMessages owner.settings.id rest) :=
    uncopied_of_stock rfl
  refine left.trans (processed.settled.uncopied ?_)
  intro completion request rows decided outcome received answered reconciled view delivered
  have oldest := processed.oldest
  rw [received.posted] at oldest
  have resolved := vouches.resolved contexts backs processed.found oldest answered reconciled
  cases resolved with
  | converged shows | rederived shows =>
      obtain rfl := Option.some.inj delivered
      exact shows.pinned
  | retried _ _ | unreachable _ _ | poisoned _ => exact absurd delivered nofun

/-- Such a move copies nothing. -/
theorem uncopied_of_after? (orderly : service.Orderly) (vouches : service.Vouches)
    (backs : service.store.Backs service.holdings) (nameless : move.isNameless = true)
    (moved : service.after? move = some after) : Uncopied service after := by
  cases move with
  | act action => exact Option.some.inj moved ▸ Uncopied.kept.act service action
  | wake handle =>
      simp only [after?] at moved
      split at moved
      · exact Option.some.inj moved ▸ uncopied_of_stock rfl
      · cases moved
  | advance request => exact Option.some.inj moved ▸ service.uncopied_advance request
  | process origin =>
      obtain ⟨owner, message, rest, _, processed⟩ := exists_processed orderly moved
      exact processed.uncopied vouches orderly.contexts backs
  | submit origin query =>
      obtain ⟨owner, _, rfl⟩ := Option.map_eq_some_iff.mp moved
      exact service.uncopied_submit owner.settings query
  | addDispatcher name workers shared => exact Option.some.inj moved ▸ uncopied_of_stock rfl
  | addOrigin dispatcher config =>
      obtain ⟨pool, _, rfl⟩ := Option.map_eq_some_iff.mp moved
      exact uncopied_of_stock rfl
  | dropOrigin origin =>
      have dropped : Uncopied service (service.withoutOrigin origin) := uncopied_of_stock rfl
      exact Option.some.inj moved ▸ dropped.trans (uncopied_releaseAll _ _)
  | dropView name =>
      have dropped : Uncopied service { service with views := service.views.erase name } :=
        ⟨.refl _, rfl, fun view member => .inl (values_erase_subset _ name member)⟩
      exact Option.some.inj moved ▸ dropped.trans (uncopied_releaseAll _ _)
  | interpose faults => exact Option.some.inj moved ▸ uncopied_of_stock rfl
  | openSnapshot _ _ | copySnapshot _ _ | dropSnapshot _ =>
      exact absurd nameless Bool.false_ne_true

end Moves

section Names

/-- Pins are shared by copies under names only, and what is kept has a pin. -/
structure Tidy (service : Service) : Prop where
  counted : service.store.retention.floor.Counted
  shared : service.store.retention.SharedAmong service.snapshots.values
  named : ∀ snapshot ∈ service.snapshots.values, snapshot.isPinned = true
  views : ∀ view ∈ service.views.values, view.snapshot.isPinned = true

theorem tidy_new (schema : TableSchema) : (Service.new schema).Tidy where
  counted := VisibilityFloor.counted_empty
  shared := Retention.sharedAmong_empty
  named _ member := absurd member List.not_mem_nil
  views _ member := absurd member List.not_mem_nil

theorem Tidy.uncopied (tidy : before.Tidy) (uncopied : Uncopied before after) : after.Tidy where
  counted := uncopied.retention.counted tidy.counted
  shared := by
    rw [uncopied.snapshots]
    exact tidy.shared.keeps uncopied.retention
  named := by
    rw [uncopied.snapshots]
    exact tidy.named
  views view member := (uncopied.views view member).elim (tidy.views view) id

/-- Snapshots that are dropped leave the sharing to the others. -/
theorem sharedAmong_releaseAll {dropped named : List Snapshot}
    (shared : service.store.retention.SharedAmong (dropped ++ named)) :
    (service.releaseAll dropped).store.retention.SharedAmong named := by
  induction dropped generalizing service with
  | nil => exact shared
  | cons snapshot rest inductionHypothesis =>
      have released : (service.release snapshot).store.retention.SharedAmong (rest ++ named) :=
        shared.release
      exact inductionHypothesis released

/-- The names are changed after the pins were, and what is no longer under a name is dropped. -/
theorem Tidy.rename {moment : Service} {dropped : List Snapshot} (tidy : before.Tidy)
    (counted : moment.store.retention.floor.Counted) (views : moment.views = before.views)
    (shared : moment.store.retention.SharedAmong (dropped ++ moment.snapshots.values))
    (named : ∀ snapshot ∈ moment.snapshots.values, snapshot.isPinned = true) :
    (moment.releaseAll dropped).Tidy := by
  have released := moment.uncopied_releaseAll dropped
  refine ⟨released.retention.counted counted, ?_, ?_, ?_⟩
  · rw [released.snapshots]
    exact sharedAmong_releaseAll shared
  · rw [released.snapshots]
    exact named
  · intro view member
    refine (released.views view member).elim (fun old => ?_) id
    exact tidy.views view (views ▸ old)

theorem Tidy.keepSnapshot {moment : Service} (tidy : before.Tidy) (name : String)
    {snapshot : Snapshot} (pinned : snapshot.isPinned = true)
    (counted : moment.store.retention.floor.Counted)
    (snapshots : moment.snapshots = before.snapshots) (views : moment.views = before.views)
    (shared : moment.store.retention.SharedAmong (snapshot :: before.snapshots.values)) :
    (moment.keepSnapshot name snapshot).Tidy := by
  have old := moment.snapshots.values_perm name
  have new := moment.snapshots.values_insert_perm name snapshot
  rw [← snapshots] at shared
  let renamed : Service := { moment with snapshots := moment.snapshots.insert name snapshot }
  have kept : (renamed.releaseAll (moment.snapshots.find? name).toList).Tidy := by
    refine tidy.rename counted views (shared.perm ?_) ?_
    · exact ((old.cons snapshot).trans List.perm_middle.symm).trans (new.symm.append_left _)
    · intro other member
      rcases List.mem_cons.mp (new.mem_iff.mp member) with rfl | among
      · exact pinned
      · exact tidy.named other (snapshots ▸ values_erase_subset _ name among)
  exact kept

theorem Tidy.openSnapshot (tidy : service.Tidy) {name : String} {version : Option VersionStamp}
    (moved : service.after? (.openSnapshot name version) = some after) : after.Tidy := by
  have uncopied := service.uncopied_openSnapshot version
  have untouched : (service.openSnapshot version).1.views = service.views ∧
      ∀ snapshot, (service.openSnapshot version).2 = .ok snapshot → snapshot.isPinned = true := by
    unfold Service.openSnapshot
    cases opening : service.store.openSnapshot version with
    | error refusal => exact ⟨rfl, nofun⟩
    | ok result =>
        obtain ⟨snapshot, store⟩ := result
        obtain ⟨_, _, opened⟩ :=
          (service.store.openSnapshot_eq_ok_iff version snapshot store).mp opening
        obtain ⟨rfl, rfl⟩ := Prod.mk.inj opened
        refine ⟨rfl, ?_⟩
        intro other same
        exact Except.ok.inj same ▸ rfl
  obtain ⟨views, pinned⟩ := untouched
  simp only [after?] at moved
  generalize service.openSnapshot version = result at uncopied views pinned moved
  obtain ⟨moment, opened⟩ := result
  cases opened with
  | error refusal => exact Option.some.inj moved ▸ tidy.uncopied uncopied
  | ok snapshot =>
      obtain rfl := Option.some.inj moved
      exact tidy.keepSnapshot name (pinned snapshot rfl)
        (uncopied.retention.counted tidy.counted) uncopied.snapshots views
        ((tidy.shared.keeps uncopied.retention).cons snapshot)

theorem Tidy.copySnapshot (tidy : service.Tidy) {source : String} {snapshot : Snapshot}
    (found : service.snapshots.find? source = some snapshot) (name : String) :
    (service.copySnapshot name snapshot).Tidy := by
  have member : snapshot ∈ service.snapshots.values :=
    List.mem_map_of_mem ((service.snapshots.mem_entries_iff source snapshot).mpr found)
  exact tidy.keepSnapshot name (tidy.named snapshot member)
    (Retention.counted_share tidy.counted snapshot) rfl rfl (tidy.shared.share member)

theorem Tidy.dropSnapshot (tidy : service.Tidy) (name : String) :
    (service.dropSnapshot name).Tidy := by
  have dropped : ({ service with
      snapshots := service.snapshots.erase name }.releaseAll
        (service.snapshots.find? name).toList).Tidy := by
    refine tidy.rename tidy.counted rfl (tidy.shared.perm (service.snapshots.values_perm name)) ?_
    exact fun snapshot member => tidy.named snapshot (values_erase_subset _ name member)
  exact dropped

theorem Tidy.moved (tidy : service.Tidy) (orderly : service.Orderly) (vouches : service.Vouches)
    (provided : service.Provided) {move : Move} (moved : service.after? move = some after) :
    after.Tidy := by
  cases nameless : move.isNameless with
  | true => exact tidy.uncopied (uncopied_of_after? orderly vouches provided.backs nameless moved)
  | false =>
      cases move with
      | openSnapshot name version => exact tidy.openSnapshot moved
      | copySnapshot source name =>
          obtain ⟨snapshot, found, rfl⟩ := Option.map_eq_some_iff.mp moved
          exact tidy.copySnapshot found name
      | dropSnapshot name => exact Option.some.inj moved ▸ tidy.dropSnapshot name
      | _ => exact absurd nameless nofun

theorem tidy_of_reaches {schema : TableSchema}
    (run : (Service.new schema).Reaches (fun _ move => move.Transparent) service) :
    service.Tidy := by
  induction run with
  | start => exact tidy_new schema
  | move move earlier _ moved inductionHypothesis =>
      exact inductionHypothesis.moved (orderly_of_reaches earlier) (vouches_of_reaches earlier)
        (provided_of_reaches earlier) moved

end Names

section Census

/-- The copies that callers do not hold under names. -/
def carried (service : Service) : List Snapshot :=
  service.views.values.map View.snapshot ++
    (service.attempts.flatMap (fun attempt => attempt.phase.snapshots) ++
      service.origins.flatMap Origin.snapshots)

theorem length_snapshots_attempts (attempts : List Attempt) :
    (attempts.flatMap fun attempt => attempt.phase.snapshots).length =
      attempts.countP Attempt.holdsSnapshot := by
  induction attempts with
  | nil => rfl
  | cons attempt rest inductionHypothesis =>
      have one : attempt.phase.snapshots.length = attempt.holdsSnapshot.toNat := by
        unfold Phase.snapshots Attempt.holdsSnapshot
        cases attempt.phase.outcome? with
        | none => rfl
        | some outcome =>
            cases held : outcome.snapshot <;> simp [held]
      rw [List.flatMap_cons, List.length_append, one, inductionHypothesis, List.countP_cons]
      cases attempt.holdsSnapshot <;> simp [Nat.add_comm]

theorem length_snapshots_origins (origins : List Origin) :
    (origins.flatMap Origin.snapshots).length =
      (origins.flatMap fun origin => origin.mailbox).countP Message.carriesSnapshot := by
  induction origins with
  | nil => rfl
  | cons origin rest inductionHypothesis =>
      have own : origin.snapshots.length = origin.mailbox.countP Message.carriesSnapshot := by
        rw [Origin.snapshots, List.length_filterMap_eq_countP]
        rfl
      simp only [List.flatMap_cons, List.length_append, List.countP_append, own,
        inductionHypothesis]

theorem length_carried (service : Service) :
    service.carried.length = service.attempts.countP Attempt.holdsSnapshot +
      (service.origins.flatMap fun origin => origin.mailbox).countP Message.carriesSnapshot +
      service.views.size := by
  simp only [carried, List.length_append, List.length_map, length_snapshots_attempts,
    length_snapshots_origins, OrderedMap.size, OrderedMap.values]
  omega

theorem carried_eq_nil (noViews : service.views.isEmpty = true)
    (noAttempts : ∀ attempt ∈ service.attempts, attempt.holdsSnapshot = false)
    (noMessages : ∀ origin ∈ service.origins, ∀ message ∈ origin.mailbox,
      message.carriesSnapshot = false) : service.carried = [] := by
  apply List.eq_nil_of_length_eq_zero
  have held : service.attempts.countP Attempt.holdsSnapshot = 0 :=
    List.countP_eq_zero.mpr fun attempt member => by simp [noAttempts attempt member]
  have posted : (service.origins.flatMap fun origin => origin.mailbox).countP
      Message.carriesSnapshot = 0 := by
    apply List.countP_eq_zero.mpr
    intro message member
    obtain ⟨origin, among, inside⟩ := List.mem_flatMap.mp member
    simp [noMessages origin among message inside]
  have kept : service.views.size = 0 := by
    simpa [OrderedMap.isEmpty, OrderedMap.size] using noViews
  rw [length_carried, held, posted, kept]

/-- In a run in which the store answers, whatever is carried has a pin. -/
theorem Vouches.pinned (vouches : service.Vouches) (tidy : service.Tidy) :
    ∀ snapshot ∈ service.carried, snapshot.isPinned = true := by
  have vouched : ∀ {attempt result snapshot},
      service.Vouched attempt result (some snapshot) → snapshot.isPinned = true := by
    intro attempt result snapshot vouched
    cases vouched with
    | found _ shows => exact shows.pinned
  intro snapshot member
  rcases List.mem_append.mp member with viewed | working
  · obtain ⟨view, kept, rfl⟩ := List.mem_map.mp viewed
    exact tidy.views view kept
  · rcases List.mem_append.mp working with held | posted
    · obtain ⟨attempt, among, held⟩ := List.mem_flatMap.mp held
      unfold Phase.snapshots at held
      cases reached : attempt.phase.outcome? with
      | none => simp [reached] at held
      | some outcome =>
          have own : outcome.snapshot = some snapshot := by simpa [reached] using held
          have evaluated := vouches.evaluated attempt among outcome reached
          rw [own] at evaluated
          exact vouched evaluated
    · obtain ⟨origin, among, posted⟩ := List.mem_flatMap.mp posted
      obtain ⟨message, inside, carries⟩ := List.mem_filterMap.mp posted
      cases message with
      | cancelRequested request => exact absurd carries nofun
      | completed completion =>
          obtain ⟨attempt, stems⟩ := vouches.posted origin.settings.id completion
            ⟨origin, among, rfl, inside⟩
          have evaluated := stems.vouched
          rw [show completion.snapshot = some snapshot from carries] at evaluated
          exact vouched evaluated

/-- Nothing is held without a pin. -/
theorem accounts_held (tidy : service.Tidy) (vouches : service.Vouches)
    (backs : service.store.Backs service.holdings) :
    service.store.retention.Accounts (service.snapshots.values ++ service.carried) := by
  have pinned : service.holdings.filter Snapshot.isPinned = service.holdings := by
    apply List.filter_eq_self.mpr
    intro snapshot member
    rcases List.mem_append.mp member with named | carried
    · exact tidy.named snapshot named
    · exact vouches.pinned tidy snapshot carried
  have held := backs.accounts
  rw [pinned] at held
  exact held

/-- Where nothing is pinned everything below the current version goes. -/
theorem collect_of_unpinned (tidy : service.Tidy) (coherent : service.store.Coherent)
    (unpinned : service.store.retention.Accounts []) :
    service.store.retention.floor.collectionFloor service.store.authority.current =
        service.store.currentVersion ∧
      (service.store.poisoned = false → ∃ store report,
        service.store.collect = .ok (store, report) ∧
          (store, report) = service.store.reclaim service.store.currentVersion ∧
          store.horizon = service.store.currentVersion) := by
  have floor : service.store.retention.floor.collectionFloor service.store.authority.current =
      service.store.currentVersion :=
    (tidy.counted.collectionFloor_eq (fun version => unpinned.readers version) _).trans
      coherent.published.symm
  have known : service.store.horizon ≤ service.store.currentVersion :=
    coherent.horizon_le.trans_eq coherent.published.symm
  refine ⟨floor, fun sound => ⟨_, _, ?_, rfl, Nat.max_eq_right known⟩⟩
  exact (service.store.collect_eq_ok_iff _ _).mpr ⟨sound, congrArg service.store.reclaim floor.symm⟩

/-- No pin leaks.  In every run in which the store answers the queries, whatever others do in
between, the pins are the families of the callers' snapshots, one for each attempt whose worker
holds its snapshot, one for each result in a mailbox that carries one, and one for each view that is
kept.  Where there is none of these nothing is pinned, and the next collection reclaims everything
below the current version, unless a transaction has panicked. -/
theorem no_pin_leaks {schema : TableSchema}
    (run : (Service.new schema).Reaches (fun _ move => move.Transparent) service) :
    service.store.pinnedSnapshots =
        Retention.families service.snapshots.values +
          service.attempts.countP Attempt.holdsSnapshot +
          (service.origins.flatMap fun origin => origin.mailbox).countP Message.carriesSnapshot +
          service.views.size ∧
      (service.snapshots.isEmpty = true → service.views.isEmpty = true →
        (∀ attempt ∈ service.attempts, attempt.holdsSnapshot = false) →
        (∀ origin ∈ service.origins, ∀ message ∈ origin.mailbox,
          message.carriesSnapshot = false) →
        service.store.pinnedSnapshots = 0 ∧
          service.store.retention.floor.collectionFloor service.store.authority.current =
            service.store.currentVersion ∧
          (service.store.poisoned = false → ∃ store report,
            service.store.collect = .ok (store, report) ∧
              (store, report) = service.store.reclaim service.store.currentVersion ∧
              store.horizon = service.store.currentVersion)) := by
  have tidy := tidy_of_reaches run
  have vouches := vouches_of_reaches run
  have accounts := accounts_held tidy vouches (provided_of_reaches run).backs
  refine ⟨?_, ?_⟩
  · rw [Store.pinnedSnapshots, tidy.shared.pinnedCount_eq accounts, length_carried]
    omega
  · intro noNames noViews noAttempts noMessages
    have named : service.snapshots.values = [] := by
      simpa [OrderedMap.isEmpty, OrderedMap.values] using noNames
    rw [named, carried_eq_nil noViews noAttempts noMessages, List.nil_append] at accounts
    exact ⟨accounts.pinnedCount_eq, collect_of_unpinned tidy vouches.coherent accounts⟩

/-- All steps of an attempt, from the queue to the mailbox. -/
def finishAttempt (request : RequestId) : List Move :=
  List.replicate attemptSteps (.advance request)

/-- Two copies of a snapshot under names, a view, a result in the mailbox and an attempt that was
evaluated. -/
def crowdedRun : List Move :=
  [.act (.write (insertItem 5)),
    .addDispatcher "pool" 1 none,
    .addOrigin ⟨1⟩ .default,
    .openSnapshot "first" none,
    .copySnapshot "first" "second",
    .submit ⟨1⟩ { allRows "kept" with onSuccess := ⟨some "view", fun _ => []⟩ }] ++
  finishAttempt ⟨1⟩ ++ [.process ⟨1⟩, .submit ⟨1⟩ (allRows "posted")] ++
  finishAttempt ⟨2⟩ ++ [.submit ⟨1⟩ (allRows "evaluated"),
    .advance ⟨3⟩, .advance ⟨3⟩, .advance ⟨3⟩]

/-- The callers let go of everything while an attempt has still to be posted. -/
def departures : List Move :=
  [.act (.write (insertItem 7)), .dropSnapshot "first", .dropOrigin ⟨1⟩, .dropView "view",
    .dropSnapshot "second"] ++ finishAttempt ⟨3⟩

/-- Four pins for five copies, and none is left in the end. -/
theorem no_pin_leaks_of_crowd :
    ∃ service later, (Service.new itemsSchema).afterAll? crowdedRun = some service ∧
      service.afterAll? departures = some later ∧
      service.store.pinnedSnapshots = 4 ∧ service.holdings.length = 5 ∧
      later.store.pinnedSnapshots = 0 ∧
      ∃ store report, later.store.collect = .ok (store, report) ∧ store.horizon = 2 := by
  have sample : ∃ service later, (Service.new itemsSchema).afterAll? crowdedRun = some service ∧
      service.afterAll? departures = some later ∧
      Retention.families service.snapshots.values = 1 ∧
      service.attempts.countP Attempt.holdsSnapshot = 1 ∧
      (service.origins.flatMap fun origin => origin.mailbox).countP
        Message.carriesSnapshot = 1 ∧
      service.views.size = 1 ∧ service.holdings.length = 5 ∧
      later.snapshots.isEmpty = true ∧ later.views.isEmpty = true ∧ later.attempts = [] ∧
      later.origins = [] ∧ later.store.currentVersion = 2 ∧ later.store.poisoned = false :=
    ⟨_, _, rfl, rfl, rfl, rfl, rfl, rfl, rfl, rfl, rfl, rfl, rfl, rfl, rfl⟩
  obtain ⟨service, later, moved, left, families, held, posted, kept, copies, noNames, noViews,
    noAttempts, noOrigins, version, sound⟩ := sample
  have run : (Service.new itemsSchema).Reaches (fun _ move => move.Transparent) service :=
    reaches_of_afterAll? moved (by simp [crowdedRun, finishAttempt, attemptSteps, Move.Transparent])
  have further : service.Reaches (fun _ move => move.Transparent) later :=
    reaches_of_afterAll? left (by simp [departures, finishAttempt, attemptSteps, Move.Transparent])
  have counted := (no_pin_leaks run).1
  rw [families, held, posted, kept] at counted
  obtain ⟨none, -, collects⟩ := (no_pin_leaks (run.trans further)).2 noNames noViews
    (by simp [noAttempts]) (by simp [noOrigins])
  obtain ⟨store, report, collecting, -, horizon⟩ := collects sound
  exact ⟨service, later, moved, left, counted, copies, none, store, report, collecting,
    horizon.trans version⟩

end Census

end Service

end SnapshotQuery
