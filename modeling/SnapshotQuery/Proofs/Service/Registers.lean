import SnapshotQuery.Proofs.Service.Provenance
import SnapshotQuery.Proofs.Service.Workers

/-!
# Counters and who counts on them

A counter grows by what is entered under it.  All origins may count on the same
counters: their dispatchers do so too, and no dispatcher changes its counters.
-/

namespace SnapshotQuery.Service

variable {counts : List (RegistryId × Counter)} {service before after moment : Service}
  {registry : RegistryId} {id : ContextId} {origin : OriginSettings} {owner : Origin}
  {request : Request} {move : Move} {permitted : Service → Move → Prop} {schema : TableSchema}

section Counters

theorem lookup_tally (registries : List (RegistryId × Metrics)) (entry : RegistryId × Counter) :
    (tally registries entry).lookup registry = (registries.lookup registry).map fun metrics =>
      if registry = entry.1 then metrics.increment entry.2 else metrics := by
  induction registries with
  | nil => rfl
  | cons first rest inductionHypothesis =>
      obtain ⟨other, metrics⟩ := first
      simp only [tally, List.map_cons, List.lookup_cons] at inductionHypothesis ⊢
      by_cases here : registry = other
      · simp [here]
      · have differs : (registry == other) = false := beq_false_of_ne here
        simp only [differs]
        exact inductionHypothesis

/-- A counter that is kept grows by the number of times it is counted. -/
theorem get_metrics (known : (before.registries.lookup registry).isSome = true)
    (tallied : after.registries = counts.foldl tally before.registries) (counter : Counter) :
    (after.metrics registry).get counter =
      (before.metrics registry).get counter + counts.count (registry, counter) := by
  simp only [Service.metrics, tallied]
  generalize before.registries = registries at known
  clear tallied
  induction counts generalizing registries with
  | nil => rfl
  | cons entry rest inductionHypothesis =>
      obtain ⟨metrics, found⟩ := Option.isSome_iff_exists.mp known
      obtain ⟨here, counted⟩ := entry
      have entered : (tally registries (here, counted)).lookup registry =
          some (if registry = here then metrics.increment counted else metrics) := by
        rw [lookup_tally, found, Option.map_some]
      rw [List.foldl_cons, inductionHypothesis _ (entered ▸ rfl), entered, found, List.count_cons]
      by_cases same : registry = here
      · by_cases also : counter = counted
        · simp [same, also]
          omega
        · simp [same, also, Ne.symm also]
      · simp [same, Ne.symm same]

theorem isSome_lookup_foldl_tally {registries : List (RegistryId × Metrics)}
    (known : (registries.lookup registry).isSome = true) (counts : List (RegistryId × Counter)) :
    ((counts.foldl tally registries).lookup registry).isSome = true := by
  induction counts generalizing registries with
  | nil => exact known
  | cons entry rest inductionHypothesis =>
      refine inductionHypothesis ?_
      rw [lookup_tally, Option.isSome_map]
      exact known

end Counters

section Desks

/-- The counters, and the dispatchers that count on them. -/
def desks (service : Service) : List (RegistryId × Metrics) × List (DispatcherId × RegistryId) :=
  (service.registries, service.dispatchers.map fun pool => (pool.id, pool.registry))

theorem desks_updateDispatcher {change : Dispatcher → Dispatcher} {id : DispatcherId}
    (same : ∀ pool, (change pool).id = pool.id ∧ (change pool).registry = pool.registry) :
    (service.updateDispatcher id change).desks = service.desks := by
  refine Prod.ext rfl ?_
  simp only [desks, updateDispatcher, List.map_map]
  apply List.map_congr_left
  intro pool _
  simp only [Function.comp_apply]
  split
  · rw [(same pool).1, (same pool).2]
  · rfl

theorem Proceeds.roster (proceeds : Proceeds counts before after) :
    after.desks.2 = before.desks.2 := by
  have same := congrArg (List.map fun entry => (entry.1, entry.2.1)) proceeds.staff
  simpa [Service.staff, desks, Function.comp_def] using same

/-- Proceedings without a count leave the desks as they are. -/
theorem Proceeds.desks (proceeds : Proceeds [] before after) : after.desks = before.desks :=
  Prod.ext proceeds.registries proceeds.roster

theorem desks_freeWorker (service : Service) (attempt : Attempt) :
    (service.freeWorker attempt).desks = service.desks :=
  desks_updateDispatcher fun _ => ⟨rfl, rfl⟩

theorem desks_leaveFlight (service : Service) (attempt : Attempt) :
    (service.leaveFlight attempt).desks = service.desks :=
  desks_updateDispatcher fun _ => ⟨rfl, rfl⟩

theorem desks_advance (service : Service) (request : RequestId) :
    (service.advance request).desks = service.desks := by
  have released : ∀ (moment : Service) snapshots, moment.desks = service.desks →
      (moment.releaseAll snapshots).desks = service.desks :=
    fun moment snapshots same => (moment.proceeds_releaseAll snapshots).desks.trans same
  unfold advance
  cases service.attempts.find? fun attempt => attempt.request = request with
  | none => rfl
  | some attempt =>
      simp only [advanceAttempt]
      cases attempt.phase with
      | queued =>
          simp only [giveWorker]
          split
          · rfl
          · split
            · rfl
            · split
              · rfl
              · rename_i pool _ _ _
                have taken : (service.updateDispatcher pool.id fun pool =>
                    { pool with idle := pool.idle - 1 }).desks = service.desks :=
                  desks_updateDispatcher fun _ => ⟨rfl, rfl⟩
                exact taken
      | admitted => rfl
      | cleared => exact (Proceeds.kept.evaluateAttempt service attempt).desks
      | abandoned =>
          exact (desks_freeWorker _ attempt).trans (service.desks_leaveFlight attempt)
      | finished outcome => exact service.desks_leaveFlight attempt
      | released outcome =>
          simp only
          split
          · refine released _ _ ?_
            split
            · exact desks_freeWorker _ attempt
            · rfl
          · split <;> rfl
      | checked outcome =>
          have freed : (if outcome.evaluated then service.freeWorker attempt else service).desks =
              service.desks := by
            split
            · exact service.desks_freeWorker attempt
            · rfl
          simp only [postOutcome]
          generalize (if outcome.evaluated then service.freeWorker attempt else service) = moment
            at freed
          cases moment.origin? attempt.origin with
          | some owner => exact freed
          | none => exact released _ _ freed

/-- A dispatcher keeps its counters, and counters change only by being counted. -/
theorem desks_of_after? (orderly : service.Orderly) (tracked : service.Tracked)
    (moved : service.after? move = some after) :
    after.desks.2 = service.desks.2 ∧
        (∃ counts, after.registries = List.foldl tally service.registries counts) ∨
      ∃ name workers shared, move = .addDispatcher name workers shared := by
  have still : after.desks = service.desks → after.desks.2 = service.desks.2 ∧
      ∃ counts, after.registries = List.foldl tally service.registries counts :=
    fun same => ⟨congrArg Prod.snd same, [], congrArg Prod.fst same⟩
  cases move with
  | advance request => exact .inl (still (Option.some.inj moved ▸ service.desks_advance request))
  | process origin =>
      obtain ⟨owner, message, rest, _, processed⟩ := exists_processed orderly moved
      obtain ⟨counts, proceeds⟩ := processed.proceeds tracked
      exact .inl ⟨proceeds.roster, counts, proceeds.registries⟩
  | submit origin query =>
      obtain ⟨owner, _, rfl⟩ := Option.map_eq_some_iff.mp moved
      have proceeds := service.proceeds_submit owner.settings query
      exact .inl ⟨proceeds.roster, _, proceeds.registries⟩
  | addDispatcher name workers shared => exact .inr ⟨name, workers, shared, rfl⟩
  | interpose faults => exact .inl (still (Option.some.inj moved ▸ rfl))
  | _ => exact .inl (still (proceeds_of_minor rfl moved).desks)

end Desks

section Sharing

/-- All origins count under one registry, none is dropped, and no callback panics. -/
def Shares (registry : RegistryId) (service : Service) : Move → Prop
  | .addOrigin id _ => (service.registries.lookup registry).isSome = true ∧
      ∀ pool ∈ service.dispatchers, pool.id = id → pool.registry = registry
  | .dropOrigin _ => False
  | .process id => ∀ after request, service.process? id = some after → after.Composed request
  | _ => True

/-- All origins and their dispatchers count under the registry, which is kept. -/
structure Common (registry : RegistryId) (service : Service) : Prop where
  settings : ∀ settings ∈ service.originSettings, settings.registry = registry
  known : ∀ settings ∈ service.originSettings, (service.registries.lookup registry).isSome = true
  desks : ∀ settings ∈ service.originSettings, ∀ desk ∈ service.desks.2,
    desk.1 = settings.dispatcher → desk.2 = registry

theorem Common.of_desks (common : before.Common registry)
    (settings : after.originSettings = before.originSettings)
    (desks : after.desks.2 = before.desks.2)
    (registries : after.registries = counts.foldl tally before.registries) :
    after.Common registry where
  settings := settings ▸ common.settings
  known owner member :=
    registries ▸ isSome_lookup_foldl_tally (common.known owner (settings ▸ member)) counts
  desks := settings ▸ desks ▸ common.desks

theorem Common.addDispatcher (common : service.Common registry) (provided : service.Provided)
    (name : String) (workers : Nat) (shared : Option RegistryId) :
    (service.addDispatcher name workers shared).1.Common registry where
  settings := common.settings
  known owner member := by
    have known := common.known owner member
    simp only [Service.addDispatcher]
    split
    · exact known
    · rw [List.lookup_append, Option.isSome_or, known, Bool.true_or]
  desks owner member desk among here := by
    have split : desk ∈ service.desks.2 ∨ desk.1 = ⟨service.dispatchersMade + 1⟩ := by
      simp only [Service.desks, Service.addDispatcher, List.map_append] at among
      rcases List.mem_append.mp among with old | new
      · exact .inl old
      · exact .inr (congrArg Prod.fst (List.mem_singleton.mp new))
    rcases split with old | new
    · exact common.desks owner member desk old here
    · have made := provided.flown.made _ (provided.housed owner member)
      rw [← here, new] at made
      exact absurd made (Nat.not_succ_le_self _)

theorem Common.moved (common : service.Common registry) (orderly : service.Orderly)
    (tracked : service.Tracked) (provided : service.Provided)
    (shares : service.Shares registry move) (moved : service.after? move = some after) :
    after.Common registry := by
  rcases desks_of_after? orderly tracked moved with
    ⟨desks, counts, registries⟩ | ⟨name, workers, shared, rfl⟩
  · rcases originSettings_of_after? moved with
      same | ⟨id, config, pool, rfl, found, rfl⟩ | ⟨id, rfl, _⟩
    · exact common.of_desks same desks registries
    · have here : ∀ pool ∈ service.dispatchers, pool.id = id → pool.registry = registry := shares.2
      have same : pool.id = id := dispatcher?_id found
      have settings : (service.addOrigin pool config).1.originSettings =
          service.originSettings ++ [(service.addOrigin pool config).2] := by
        simp [Service.originSettings, Service.addOrigin]
      refine ⟨?_, fun _ _ => shares.1, ?_⟩
      · intro owner member
        rw [settings] at member
        rcases List.mem_append.mp member with old | new
        · exact common.settings owner old
        · rw [List.mem_singleton.mp new]
          exact here pool (List.mem_of_find?_eq_some found) same
      · intro owner member desk among at_desk
        rw [settings] at member
        rcases List.mem_append.mp member with old | new
        · exact common.desks owner old desk among at_desk
        · obtain ⟨other, known, rfl⟩ := List.mem_map.mp among
          rw [List.mem_singleton.mp new] at at_desk
          exact here other known (at_desk.trans same)
    · exact absurd shares not_false
  · obtain rfl := Option.some.inj moved
    exact common.addDispatcher provided name workers shared

theorem common_of_reaches (run : (Service.new schema).Reaches (Shares registry) service) :
    service.Common registry := by
  induction run with
  | start => exact ⟨nofun, nofun, nofun⟩
  | move move earlier shares moved inductionHypothesis =>
      exact inductionHypothesis.moved (orderly_of_reaches earlier) (tracked_of_reaches earlier)
        (provided_of_reaches earlier) shares moved

end Sharing

end SnapshotQuery.Service
