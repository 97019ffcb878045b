import SnapshotQuery.Proofs.Service.Provenance

/-!
# Views stay complete

A view that is delivered has a document for each of its rows.  Its snapshot is
backed until the last copy of the view is dropped, so whatever is written or
collected meanwhile, every read of the view gives the same documents.
-/

namespace SnapshotQuery

/-- A result that is handed over is shown by a snapshot. -/
theorem Store.Resolved.shows {store : Store} {policy : RetryPolicy} {attempts : Nat}
    {outcome : Reconciliation} {view : View} (resolved : store.Resolved policy attempts outcome)
    (shown : outcome.view? = some view) : store.Shows view.rows view.snapshot := by
  cases resolved with
  | converged shows =>
      obtain rfl := Option.some.inj shown
      exact shows
  | rederived shows =>
      obtain rfl := Option.some.inj shown
      exact shows
  | retried _ _ | unreachable _ _ | poisoned _ => exact absurd shown nofun

namespace Service

/-- The store backs a snapshot that is in hand or belongs to a view that is kept. -/
def Guards (service : Service) (snapshot : Snapshot) : Prop :=
  ∃ held, service.store.Backs (held ++ service.holdings) ∧
    (snapshot ∈ held ∨ ∃ view ∈ service.views.values, view.snapshot = snapshot)

/-- The documents are those of the rows at their version, in the order of the rows. -/
structure Displays (store : Store) (view : View) (documents : List Value) : Prop where
  shows : store.Shows view.rows view.snapshot
  visible : view.rows.rows.map (fun row => store.documentAt? row view.rows.version) =
    documents.map some

/-- Unless a write panics, the view can be read as a whole and at each position. -/
structure Presents (service : Service) (view : View) (documents : List Value) : Prop where
  all : (service.documents view).1.store.poisoned = false →
    (service.documents view).2 = .ok documents
  each : ∀ index, (service.documentAt view index).1.store.poisoned = false →
    (service.documentAt view index).2 = .ok documents[index]?

variable {schema : TableSchema} {service before after moment later : Service} {view : View}
  {documents : List Value} {snapshot : Snapshot} {version : VersionStamp} {row : RowId}
  {owner : Origin} {request : Request} {completion : Completion} {outcome : Reconciliation}
  {move : Move} {label : String} {wanted : RequestId} {calls : List Observation}
  {seen : ViewReport}

section Guarding

theorem Meanwhile.guards (meanwhile : before.Meanwhile after) (guards : before.Guards snapshot) :
    after.Guards snapshot := by
  obtain ⟨held, backs, known⟩ := guards
  refine ⟨held, meanwhile.exchange.backs held backs, ?_⟩
  rwa [meanwhile.views]

theorem Guards.retained (guards : service.Guards snapshot) (pinned : snapshot.isPinned = true) :
    service.store.Retained snapshot.version := by
  obtain ⟨held, backs, known⟩ := guards
  refine backs.retained snapshot ?_ pinned
  rcases known with inHand | ⟨view, kept, rfl⟩
  · exact List.mem_append_left _ inHand
  · refine List.mem_append_right _ ?_
    simp only [holdings, List.mem_append]
    exact .inr (.inl (List.mem_map_of_mem kept))

end Guarding

section Reading

theorem Displays.length (displays : Displays service.store view documents) :
    documents.length = view.rows.size := by
  have same := congrArg List.length displays.visible
  rw [List.length_map, List.length_map] at same
  exact same.symm

/-- Rows that are complete at a version that can be read have documents. -/
theorem exists_displays {store : Store} (shows : store.Shows view.rows view.snapshot)
    (kept : store.horizon ≤ view.rows.version) : ∃ documents, Displays store view documents := by
  have there := shows.complete.documents kept
  refine ⟨view.rows.rows.filterMap fun row => store.documentAt? row view.rows.version, shows, ?_⟩
  generalize view.rows.rows = rows at there
  induction rows with
  | nil => rfl
  | cons row rest inductionHypothesis =>
      obtain ⟨document, same⟩ := Option.isSome_iff_exists.mp (there row List.mem_cons_self)
      rw [List.map_cons, List.filterMap_cons, same, List.map_cons,
        inductionHypothesis fun other member => there other (List.mem_cons_of_mem _ member)]

/-- What a view displays it displays as long as its version can be read. -/
theorem Displays.descends {first last : Store} (displays : Displays first view documents)
    (descends : first.Descends last) (kept : last.horizon ≤ view.rows.version) :
    Displays last view documents where
  shows := displays.shows.descends descends
  visible := by
    rw [← displays.visible]
    exact List.map_congr_left fun row _ =>
      descends.documents displays.shows.complete.known kept row

/-- A row is read at the version of its snapshot, whoever comes between. -/
theorem viewDocument_of_guarded (transparent : service.Transparent)
    (guards : service.Guards snapshot) (pinned : snapshot.isPinned = true)
    (known : snapshot.version ≤ service.store.authority.current) (row : RowId)
    (sound : (service.viewDocument snapshot row).1.store.poisoned = false) :
    service.Meanwhile (service.viewDocument snapshot row).1 ∧
      (service.viewDocument snapshot row).2 =
        .ok (service.store.documentAt? row snapshot.version) := by
  obtain ⟨asked, meanwhile, reached⟩ := exists_reachDocument transparent snapshot row
  have retained := (meanwhile.guards guards).retained pinned
  have same := meanwhile.proceeds.store.documents known retained.1 row
  rw [Store.readRow_of_retained retained row] at reached
  unfold viewDocument at sound ⊢
  rw [reached] at sound ⊢
  cases poisoned : asked.store.poisoned with
  | true =>
      simp only [poisoned, if_true, Except.mapError] at sound
      exact absurd sound nofun
  | false =>
      simp only [Bool.false_eq_true, if_false, Except.mapError]
      exact ⟨meanwhile, congrArg Except.ok same⟩

theorem documentsOf_cons {document : Option Value} {rest : List RowId}
    (read : service.viewDocument snapshot row = (moment, .ok document)) :
    service.documentsOf snapshot (row :: rest) = ((moment.documentsOf snapshot rest).1,
      (moment.documentsOf snapshot rest).2.map fun documents => document.toList ++ documents) := by
  simp only [documentsOf, read]
  generalize moment.documentsOf snapshot rest = result
  obtain ⟨last, answers⟩ := result
  cases answers <;> rfl

/-- Reading row by row leaves out none. -/
theorem documentsOf_of_guarded {rows : List RowId} (transparent : service.Transparent)
    (guards : service.Guards snapshot) (pinned : snapshot.isPinned = true)
    (known : snapshot.version ≤ service.store.authority.current)
    (visible : rows.map (fun row => service.store.documentAt? row snapshot.version) =
      documents.map some)
    (sound : (service.documentsOf snapshot rows).1.store.poisoned = false) :
    (service.documentsOf snapshot rows).2 = .ok documents := by
  induction rows generalizing service documents with
  | nil =>
      obtain rfl := List.map_eq_nil_iff.mp visible.symm
      rfl
  | cons row rest inductionHypothesis =>
      obtain ⟨document, others, rfl, same, following⟩ := List.map_eq_cons_iff.mp visible.symm
      have read := viewDocument_of_guarded transparent guards pinned known row
      have descends := (Proceeds.kept.viewDocument service snapshot row).store
      cases reading : service.viewDocument snapshot row with
      | mk moment answer =>
          rw [reading] at read descends
          cases answer with
          | error refusal =>
              simp only [documentsOf, reading] at sound
              cases (read sound).2
          | ok found =>
              rw [documentsOf_cons reading] at sound ⊢
              have further := (Proceeds.kept.documentsOf moment snapshot rest).store
              obtain ⟨meanwhile, answered⟩ := read (further.precedes.unpoisoned sound)
              obtain rfl := (Except.ok.inj answered).trans same.symm
              have kept := ((meanwhile.guards guards).retained pinned).1
              have later : rest.map (fun row => moment.store.documentAt? row snapshot.version) =
                  others.map some := by
                rw [following]
                exact List.map_congr_left fun other _ => descends.documents known kept other
              simp only [inductionHypothesis (meanwhile.transparent transparent)
                (meanwhile.guards guards) (Nat.le_trans known descends.precedes.current_le) later
                sound, Except.map, Option.toList_some, List.singleton_append]

/-- A view whose snapshot is guarded presents what it displays. -/
theorem presents_of_guarded (transparent : service.Transparent)
    (guards : service.Guards view.snapshot) (displays : Displays service.store view documents) :
    service.Presents view documents := by
  obtain ⟨⟨pinned, version, complete⟩, visible⟩ := displays
  have known := version.symm ▸ complete.known
  rw [← version] at visible
  refine ⟨documentsOf_of_guarded transparent guards pinned known visible, ?_⟩
  intro index sound
  have there := congrArg (fun listed => listed[index]?) visible
  simp only [List.getElem?_map] at there
  cases here : view.rows.rows[index]? with
  | none =>
      rw [here] at there
      simp only [documentAt, here]
      exact congrArg Except.ok (Option.map_eq_none_iff.mp there.symm).symm
  | some row =>
      simp only [documentAt, here] at sound ⊢
      rw [(viewDocument_of_guarded transparent guards pinned known row sound).2]
      rw [here, Option.map_some] at there
      obtain ⟨document, found, same⟩ := Option.map_eq_some_iff.mp there.symm
      rw [found, ← same]

end Reading

section Delivering

/-- A view is guarded from the moment it is delivered. -/
theorem Succeeds.guarded (vouches : service.Vouches) (orderly : service.Orderly)
    (provided : service.Provided)
    (succeeds : service.Succeeds owner completion request outcome view moment after) :
    moment.store.Shows view.rows view.snapshot ∧ moment.Guards view.snapshot ∧
      moment.Transparent := by
  obtain ⟨rest, rows, oldest, answered, delivers⟩ := succeeds.oldest
  obtain ⟨decided, outcome_eq, unset, rfl⟩ := delivers.reconciled
  have reconciled : ((service.leaveMessages owner.settings.id rest).removeLive owner.settings.id
      request.id).Reconciled owner.settings request rows decided outcome false :=
    ⟨outcome_eq, unset⟩
  have resolved := vouches.resolved orderly.contexts provided.backs succeeds.found oldest answered
    reconciled
  obtain ⟨snapshot, _, _, held⟩ := vouches.shows orderly.contexts provided.backs succeeds.found
    oldest answered request.id
  have backs : decided.store.Backs (outcome.snapshots ++ ([snapshot] ++ decided.holdings)) :=
    reconciled.exchange.backs [snapshot] held
  have inHand : view.snapshot ∈ outcome.snapshots := by
    simp [Reconciliation.snapshots, delivers.view]
  have guards : decided.Guards view.snapshot :=
    ⟨outcome.snapshots ++ [snapshot], by rwa [List.append_assoc],
      .inl (List.mem_append_left _ inHand)⟩
  have transparent : decided.Transparent :=
    vouches.transparent.mono reconciled.proceeds.faults
  have shows := resolved.shows delivers.view
  cases outcome with
  | converged _ | rederived _ => exact ⟨shows, guards, transparent⟩
  | retry _ _ | giveUp _ => exact absurd delivers.view.symm (Option.some_ne_none view)

theorem Succeeds.develops
    (succeeds : service.Succeeds owner completion request outcome view moment after) :
    moment.Develops after := by
  rw [succeeds.called]
  exact (((moment.attends_deliverSuccess owner.settings request view).then
    (proceeds_putBack _ _ _)).then (proceeds_releaseAll _ _)).develops

theorem views_releaseAll (service : Service) (snapshots : List Snapshot) :
    (service.releaseAll snapshots).views = service.views := by
  induction snapshots generalizing service with
  | nil => rfl
  | cons snapshot rest inductionHypothesis => exact inductionHypothesis (service.release snapshot)

theorem views_recordEnd (service : Service) (origin : OriginSettings) (request : Request)
    (counter : Counter) (event : Event) (panic : Option String) :
    (service.recordEnd origin request counter event panic).views = service.views := by
  cases panic <;> rfl

/-- A view that its callback keeps is kept. -/
theorem Succeeds.kept {callback : SuccessCallback} {name : String}
    (succeeds : service.Succeeds owner completion request outcome view moment after)
    (carried : request.onSuccess = some callback) (keeps : callback.keep = some name) :
    view ∈ after.views.values := by
  have among : ∀ service : Service, view ∈ (service.keepView name view).views.values := by
    intro service
    rw [keepView, views_releaseAll]
    exact (OrderedMap.values_insert_perm _ _ _).mem_iff.mpr List.mem_cons_self
  have ended : (request.endedAs .converged).state.isTerminal = true := rfl
  rw [succeeds.called, views_releaseAll, deliverSuccess_eq carried, putBack, if_pos ended]
  simp only [views_recordEnd, callSuccess, keeps]
  exact (Meanwhile.kept.actAll _ _).views.symm ▸ among _

end Delivering

section Runs

/-- A delivered view stays complete for as long as it lives.  It has a document for each of its
rows, and whatever is written, collected and dropped later, as long as a copy is kept it displays
these documents at its version, and every read of it presents them in the order of the rows. -/
theorem delivered_view_complete
    (run : (Service.new schema).Reaches (fun _ move => move.Transparent) service)
    (honest : move.Transparent) (moved : service.after? move = some after)
    (callbacks : after.callbacks = calls ++ service.callbacks)
    (called : .succeeded label wanted seen ∈ calls) :
    ∃ owner completion request outcome view moment documents,
      move = .process owner.settings.id ∧ request.id = wanted ∧
      service.Succeeds owner completion request outcome view moment after ∧
      documents.length = view.rows.size ∧
      seen = ⟨view.rows, (moment.documents view).2⟩ ∧
      Displays moment.store view documents ∧ moment.Presents view documents ∧
      ∀ later, after.Reaches (fun _ move => move.Transparent) later →
        view ∈ later.views.values →
          Displays later.store view documents ∧ later.Presents view documents := by
  have orderly := orderly_of_reaches run
  have provided := provided_of_reaches run
  have vouches := vouches_of_reaches run
  obtain ⟨owner, completion, request, outcome, view, moment, process, about, shown, succeeds⟩ :=
    succeeds_of_called orderly moved callbacks called
  obtain ⟨shows, guards, transparent⟩ := succeeds.guarded vouches orderly provided
  have kept := (guards.retained shows.pinned).1
  rw [shows.version] at kept
  obtain ⟨documents, displays⟩ := exists_displays shows kept
  refine ⟨owner, completion, request, outcome, view, moment, documents, process, about, succeeds,
    displays.length, shown, displays, presents_of_guarded transparent guards displays, ?_⟩
  intro later further member
  have reached := Reaches.move move run honest moved
  have whole := reached.trans further
  have guarded : later.Guards view.snapshot :=
    ⟨[], (provided_of_reaches whole).backs, .inr ⟨view, member, rfl⟩⟩
  have still := (guarded.retained shows.pinned).1
  rw [shows.version] at still
  have descends := ((succeeds.develops).trans (reached.develops further)).store
  have displayed := displays.descends descends still
  exact ⟨displayed, presents_of_guarded (vouches_of_reaches whole).transparent guarded displayed⟩

/-- The result of a query is delivered as a view that is kept. -/
def keptQuery : List Move := [
  .act (.write (insertItem 5)),
  .addDispatcher "pool" 1 none,
  .addOrigin ⟨1⟩ .default,
  .submit ⟨1⟩ { allRows "kept" with onSuccess := ⟨some "view", fun _ => []⟩ },
  .advance ⟨1⟩, .advance ⟨1⟩, .advance ⟨1⟩, .advance ⟨1⟩, .advance ⟨1⟩, .advance ⟨1⟩]

/-- A view still presents its document when the table has been cleared and garbage collected. -/
theorem delivered_view_complete_of_cleared :
    ∃ (service after later : Service) (view : View) (document : Value),
      (Service.new itemsSchema).afterAll? keptQuery = some service ∧
      service.after? (.process ⟨1⟩) = some after ∧
      after.afterAll? [.act (.write ⟨[.clear], false, none⟩), .act .collect] = some later ∧
      later.store.currentVersion = 2 ∧ view.rows.version = 1 ∧
      later.Presents view [document] := by
  have sample : ∃ service after later settings request message seen,
      (Service.new itemsSchema).afterAll? keptQuery = some service ∧
      service.after? (.process ⟨1⟩) = some after ∧
      after.afterAll? [.act (.write ⟨[.clear], false, none⟩), .act .collect] = some later ∧
      after.callbacks = [.succeeded "kept" ⟨1⟩ seen] ++ service.callbacks ∧
      service.origins = [⟨settings, [message], [request]⟩] ∧
      request.onSuccess = some ⟨some "view", fun _ => []⟩ ∧ seen.rows.rows.length = 1 ∧
      seen.rows.version = 1 ∧ later.store.currentVersion = 2 ∧ later.views = after.views :=
    ⟨_, _, _, _, _, _, _, rfl, rfl, rfl, rfl, rfl, rfl, rfl, rfl, rfl, rfl⟩
  obtain ⟨service, after, later, settings, held, message, seen, moved, moving, cleared, callbacks,
    alone, carried, one, first, second, views⟩ := sample
  have run : (Service.new itemsSchema).Reaches (fun _ move => move.Transparent) service :=
    reaches_of_afterAll? moved (by simp [keptQuery, Move.Transparent])
  have further : after.Reaches (fun _ move => move.Transparent) later :=
    reaches_of_afterAll? cleared (by simp [Move.Transparent])
  have honest : (Move.process ⟨1⟩).Transparent := trivial
  obtain ⟨owner, completion, request, outcome, view, moment, documents, _, _, succeeds, size, shown,
    _, _, lives⟩ := delivered_view_complete run honest moving callbacks List.mem_cons_self
  have same : request = held := by
    obtain ⟨origin, member, _, live⟩ := succeeds.owned
    rw [alone] at member
    obtain rfl := List.mem_singleton.mp member
    exact List.mem_singleton.mp live
  have member : view ∈ later.views.values := views ▸ succeeds.kept (same ▸ carried) rfl
  obtain rfl : seen = _ := shown
  obtain ⟨document, rfl⟩ := List.length_eq_one_iff.mp (size.trans one)
  exact ⟨service, after, later, view, document, moved, moving, cleared, second, first,
    (lives later further member).2⟩

end Runs

end Service

end SnapshotQuery
