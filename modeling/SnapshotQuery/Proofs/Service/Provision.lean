import SnapshotQuery.Proofs.Service.Custody
import SnapshotQuery.Proofs.Service.Exchange

/-!
# What is under way is provided for

In every reachable service the store backs each snapshot that is held somewhere,
each dispatcher knows its attempts in flight, and every origin has a dispatcher.
A dispatcher that is closed stays so.
-/

namespace SnapshotQuery.Service

/-- Snapshots are backed, dispatchers know their attempts, and origins have dispatchers. -/
structure Provided (service : Service) : Prop where
  backs : service.store.Backs service.holdings
  flown : service.Flown
  housed : ∀ settings ∈ service.originSettings, settings.dispatcher ∈ service.poolIds

variable {service before after moment : Service} {given : List Snapshot} {id : ContextId}
  {owner : Origin} {attempt : Attempt} {message : Message} {rest : List Message}

theorem provided_new (schema : TableSchema) : (Service.new schema).Provided where
  backs := Store.backs_new schema
  flown := ⟨by simp [new], by simp [new], by simp [new, poolIds]⟩
  housed := by simp [new, originSettings]

/-- A service that is provided for, and has the dispatchers of an earlier one, none of them open
again. -/
structure Follows (before after : Service) : Prop where
  provided : after.Provided
  shut : ∀ id, before.Shut id → after.Shut id

theorem Provided.follows (provided : service.Provided) : Follows service service :=
  ⟨provided, fun _ => id⟩

/-- The snapshots in hand come to be held by the service. -/
theorem Exchange.follows (exchange : Exchange given [] moment after)
    (backs : moment.store.Backs (given ++ moment.holdings)) (flown : moment.Flown)
    (housed : ∀ settings ∈ moment.originSettings, settings.dispatcher ∈ moment.poolIds)
    (shut : ∀ id, before.Shut id → moment.Shut id) : Follows before after where
  provided := by
    refine ⟨exchange.backs [] backs, exchange.flown flown, ?_⟩
    rw [exchange.originSettings, exchange.poolIds]
    exact housed
  shut id := exchange.shut id ∘ shut id

theorem Follows.exchange (follows : Follows before moment)
    (exchange : Exchange [] [] moment after) : Follows before after :=
  exchange.follows follows.provided.backs follows.provided.flown follows.provided.housed
    follows.shut

theorem Follows.updateDispatcher (follows : Follows before service) {pool : DispatcherId}
    {change : Dispatcher → Dispatcher} (ids : ∀ pool, (change pool).id = pool.id)
    (inFlight : ∀ pool, (change pool).inFlight = pool.inFlight)
    (closed : ∀ pool, (change pool).closed = pool.closed) :
    Follows before (service.updateDispatcher pool change) where
  provided := by
    refine ⟨follows.provided.backs, follows.provided.flown.updateDispatcher ids inFlight, ?_⟩
    rw [service.poolIds_updateDispatcher ids]
    exact follows.provided.housed
  shut id earlier :=
    service.shut_updateDispatcher ids (fun pool => (closed pool).trans) (follows.shut id earlier)

theorem Follows.freeWorker (follows : Follows before service) (attempt : Attempt) :
    Follows before (service.freeWorker attempt) := by
  apply follows.updateDispatcher <;> exact fun _ => rfl

section Mailboxes

theorem holdings_leaveMessages (contexts : service.contextIds.Nodup)
    (found : service.origin? id = some owner) (oldest : owner.mailbox = message :: rest) :
    service.holdings.Perm
      (message.snapshot?.toList ++ (service.leaveMessages id rest).holdings) := by
  obtain ⟨front, back, split, changed⟩ := origins_split contexts found
  have left := changed fun origin => { origin with mailbox := rest }
  have own : owner.snapshots =
      message.snapshot?.toList ++ Origin.snapshots { owner with mailbox := rest } := by
    simp only [Origin.snapshots, oldest]
    cases given : message.snapshot? <;> simp [given]
  refine List.perm_iff_count.mpr fun snapshot => ?_
  have counted := congrArg (List.count snapshot) own
  simp only [holdings, leaveMessages, left, split, List.flatMap_append, List.flatMap_cons,
    List.count_append] at counted ⊢
  simp only [updateOrigin]
  omega

theorem holdings_post (contexts : service.contextIds.Nodup)
    (found : service.origin? id = some owner) :
    (service.post id message).holdings.Perm (message.snapshot?.toList ++ service.holdings) := by
  obtain ⟨front, back, split, changed⟩ := origins_split contexts found
  have posted := changed fun origin => { origin with mailbox := origin.mailbox ++ [message] }
  have own : Origin.snapshots { owner with mailbox := owner.mailbox ++ [message] } =
      owner.snapshots ++ message.snapshot?.toList := by
    simp only [Origin.snapshots, List.filterMap_append]
    cases given : message.snapshot? <;> simp [given]
  refine List.perm_iff_count.mpr fun snapshot => ?_
  have counted := congrArg (List.count snapshot) own
  simp only [holdings, post, posted, split, List.flatMap_append, List.flatMap_cons,
    List.count_append] at counted ⊢
  simp only [updateOrigin]
  omega

/-- The snapshot of the oldest message is in hand while the message is handled. -/
theorem exchange_leaveMessages (contexts : service.contextIds.Nodup)
    (found : service.origin? id = some owner) (oldest : owner.mailbox = message :: rest) :
    Exchange [] message.snapshot?.toList service (service.leaveMessages id rest) := by
  have split := holdings_leaveMessages contexts found oldest
  refine exchange_of_counts rfl (service.originSettings_updateOrigin id fun _ => rfl) rfl ?_
  exact split.count_eq

/-- An origin that is there gets what is posted. -/
theorem exchange_post_found (contexts : service.contextIds.Nodup)
    (found : service.origin? id = some owner) :
    Exchange message.snapshot?.toList [] service (service.post id message) := by
  have split : (service.post id message).holdings.Perm _ := holdings_post contexts found
  refine exchange_of_counts rfl (service.originSettings_updateOrigin id fun _ => rfl) rfl ?_
  exact fun snapshot => (split.count_eq snapshot).symm

theorem holdings_withoutOrigin (contexts : service.contextIds.Nodup)
    (found : service.origin? id = some owner) :
    service.holdings.Perm (owner.snapshots ++ (service.withoutOrigin id).holdings) := by
  obtain rfl := origin?_id found
  obtain ⟨front, back, split, _⟩ := origins_split contexts found
  simp only [contextIds, split, List.map_append, List.map_cons] at contexts
  obtain ⟨_, behind, apart⟩ := List.nodup_append.mp contexts
  have before : ∀ origin ∈ front, origin.settings.id ≠ owner.settings.id := by
    intro origin member
    exact apart _ (List.mem_map_of_mem member) _ List.mem_cons_self
  have beyond : ∀ origin ∈ back, origin.settings.id ≠ owner.settings.id := by
    intro origin member same
    exact (List.nodup_cons.mp behind).1 (same ▸ List.mem_map_of_mem member)
  have left : (service.withoutOrigin owner.settings.id).origins = front ++ back := by
    simp only [withoutOrigin, split, List.filter_append, List.filter_cons]
    rw [List.filter_eq_self.mpr fun origin member => decide_eq_true (before origin member),
      List.filter_eq_self.mpr fun origin member => decide_eq_true (beyond origin member)]
    simp
  refine List.perm_iff_count.mpr fun snapshot => ?_
  simp only [holdings, left, split, List.flatMap_append, List.flatMap_cons, List.count_append]
  simp only [withoutOrigin]
  omega

end Mailboxes

section Attempts

/-- One attempt stands for itself among the others when each request has one at most. -/
theorem attempts_split (distinct : (service.attempts.map fun attempt => attempt.request).Nodup)
    (member : attempt ∈ service.attempts) :
    ∃ front back, service.attempts = front ++ attempt :: back ∧
      (∀ other ∈ front ++ back, other.request ≠ attempt.request) ∧
      (∀ phase, (service.setPhase attempt.request phase).attempts =
        front ++ { attempt with phase } :: back) ∧
      (service.dropAttempt attempt.request).attempts = front ++ back := by
  obtain ⟨front, back, split⟩ := List.append_of_mem member
  rw [split, List.map_append, List.map_cons] at distinct
  have apart : ∀ other ∈ front ++ back, other.request ≠ attempt.request := by
    obtain ⟨fresh, _⟩ := List.nodup_cons.mp (List.perm_middle.nodup_iff.mp distinct)
    intro other among same
    rw [← List.map_append] at fresh
    exact fresh (same ▸ List.mem_map_of_mem among)
  have unchanged : ∀ phase, ∀ others ⊆ front ++ back,
      others.map (fun other => if other.request = attempt.request then { other with phase }
        else other) = others := by
    intro phase others inside
    rw [List.map_congr_left fun other among => if_neg (apart other (inside among))]
    exact List.map_id' others
  have kept : ∀ others ⊆ front ++ back,
      others.filter (fun other => decide (other.request ≠ attempt.request)) = others :=
    fun others inside => List.filter_eq_self.mpr fun other among =>
      decide_eq_true (apart other (inside among))
  have fronts := List.subset_append_left front back
  have backs := List.subset_append_right front back
  refine ⟨front, back, split, apart, ?_, ?_⟩
  · intro phase
    simp only [setPhase, split, List.map_append, List.map_cons, unchanged phase front fronts,
      unchanged phase back backs, if_true]
  · simp only [dropAttempt, split, List.filter_append, List.filter_cons, kept front fronts,
      kept back backs]
    simp

theorem holdings_setPhase (distinct : (service.attempts.map fun attempt => attempt.request).Nodup)
    (member : attempt ∈ service.attempts) (phase : Phase) :
    (phase.snapshots ++ service.holdings).Perm
      (attempt.phase.snapshots ++ (service.setPhase attempt.request phase).holdings) := by
  obtain ⟨front, back, split, _, changed, _⟩ := attempts_split distinct member
  refine List.perm_iff_count.mpr fun snapshot => ?_
  simp only [holdings, changed, split, List.flatMap_append, List.flatMap_cons, List.count_append]
  simp only [setPhase]
  omega

theorem holdings_dropAttempt
    (distinct : (service.attempts.map fun attempt => attempt.request).Nodup)
    (member : attempt ∈ service.attempts) :
    service.holdings.Perm
      (attempt.phase.snapshots ++ (service.dropAttempt attempt.request).holdings) := by
  obtain ⟨front, back, split, _, _, dropped⟩ := attempts_split distinct member
  refine List.perm_iff_count.mpr fun snapshot => ?_
  simp only [holdings, dropped, split, List.flatMap_append, List.flatMap_cons, List.count_append]
  simp only [dropAttempt]
  omega

theorem flown_setPhase (flown : service.Flown)
    (distinct : (service.attempts.map fun attempt => attempt.request).Nodup)
    (member : attempt ∈ service.attempts) {phase : Phase}
    (same : phase.isFlying = attempt.phase.isFlying) :
    (service.setPhase attempt.request phase).Flown := by
  obtain ⟨front, back, split, _, changed, _⟩ := attempts_split distinct member
  refine ⟨?_, ?_, flown.made⟩
  · intro pool poolMember
    refine (flown.inFlight pool poolMember).trans (List.Perm.of_eq ?_)
    simp [changed, split, same]
  · intro other otherMember
    obtain ⟨old, oldMember, rfl⟩ := List.mem_map.mp otherMember
    split <;> exact flown.known old oldMember

/-- An attempt that keeps its snapshots passes to a phase in which it still flies, or still does
not. -/
theorem Follows.setPhase (follows : Follows before service)
    (distinct : (service.attempts.map fun attempt => attempt.request).Nodup)
    (member : attempt ∈ service.attempts) {phase : Phase}
    (snapshots : phase.snapshots = attempt.phase.snapshots)
    (same : phase.isFlying = attempt.phase.isFlying) :
    Follows before (service.setPhase attempt.request phase) where
  provided := by
    have held := holdings_setPhase distinct member phase
    rw [snapshots] at held
    exact ⟨follows.provided.backs.perm ((List.perm_append_left_iff _).mp held),
      flown_setPhase follows.provided.flown distinct member same, follows.provided.housed⟩
  shut := follows.shut

theorem poolIds_leaveFlight (service : Service) (attempt : Attempt) :
    (service.leaveFlight attempt).poolIds = service.poolIds := by
  apply service.poolIds_updateDispatcher
  exact fun _ => rfl

/-- A dispatcher lets go of an attempt, which is forgotten or flies no more. -/
theorem Flown.land (flown : service.Flown) {front back : List Attempt} (landed : List Attempt)
    (split : service.attempts = front ++ attempt :: back)
    (apart : ∀ other ∈ front ++ back, other.request ≠ attempt.request)
    (attempts : after.attempts = front ++ (landed ++ back))
    (down : ∀ other ∈ landed, other.dispatcher = attempt.dispatcher ∧
      other.phase.isFlying = false)
    (dispatchers : after.dispatchers = (service.leaveFlight attempt).dispatchers)
    (made : after.dispatchersMade = service.dispatchersMade) : after.Flown := by
  have poolIds : after.poolIds = service.poolIds := by
    rw [Service.poolIds, dispatchers]
    exact service.poolIds_leaveFlight attempt
  have aside : ∀ others ⊆ front ++ back, ∀ id,
      (flyingAmong others id).filter (fun request => decide (request ≠ attempt.request)) =
        flyingAmong others id := by
    intro others inside id
    apply List.filter_eq_self.mpr
    intro request flies
    obtain ⟨other, member, rfl, _⟩ := exists_of_mem_flyingAmong flies
    exact decide_eq_true (apart other (inside member))
  have gone : ∀ id, flyingAmong landed id = [] := by
    intro id
    apply List.eq_nil_iff_forall_not_mem.mpr
    intro request flies
    obtain ⟨other, member, _, _, flies⟩ := exists_of_mem_flyingAmong flies
    exact absurd flies (by simp [(down other member).2])
  have others : ∀ id, (flyingAmong service.attempts id).filter
      (fun request => decide (request ≠ attempt.request)) = flyingAmong after.attempts id := by
    intro id
    rw [split, attempts]
    simp only [flyingAmong_append, flyingAmong_cons, List.filter_append, gone, List.nil_append,
      aside front (List.subset_append_left _ _), aside back (List.subset_append_right _ _)]
    split <;> simp
  refine ⟨?_, ?_, ?_⟩
  · intro pool member
    rw [dispatchers] at member
    obtain ⟨old, oldMember, rfl⟩ := List.mem_map.mp member
    have before := flown.inFlight old oldMember
    by_cases here : old.id = attempt.dispatcher
    · rw [if_pos here, ← others]
      exact before.filter _
    · have elsewhere : flyingAmong after.attempts old.id =
          flyingAmong service.attempts old.id := by
        simp [attempts, split, gone, Ne.symm here]
      rw [if_neg here, elsewhere]
      exact before
  · rw [attempts, poolIds]
    intro other member
    have known := flown.known
    rw [split] at known
    rcases List.mem_append.mp member with first | later
    · exact known other (List.mem_append_left _ first)
    · rcases List.mem_append.mp later with new | last
      · rw [(down other new).1]
        exact known attempt (List.mem_append_right _ List.mem_cons_self)
      · exact known other (List.mem_append_right _ (List.mem_cons_of_mem _ last))
  · rw [made, poolIds]
    exact flown.made

theorem Follows.land (follows : Follows before service)
    (backs : after.store.Backs after.holdings) (flown : after.Flown)
    (dispatchers : after.dispatchers = (service.leaveFlight attempt).dispatchers)
    (settings : after.originSettings = service.originSettings) : Follows before after := by
  have poolIds : after.poolIds = service.poolIds := by
    rw [Service.poolIds, dispatchers]
    exact service.poolIds_leaveFlight attempt
  refine ⟨⟨backs, flown, ?_⟩, ?_⟩
  · rw [settings, poolIds]
    exact follows.provided.housed
  · intro id earlier
    have shut : (service.leaveFlight attempt).Shut id := by
      apply service.shut_updateDispatcher _ _ (follows.shut id earlier)
      · exact fun _ => rfl
      · exact fun _ closed => closed
    rwa [Shut, ← dispatchers] at shut

theorem Follows.release (follows : Follows before service)
    (distinct : (service.attempts.map fun attempt => attempt.request).Nodup)
    (member : attempt ∈ service.attempts) {outcome : Outcome}
    (finished : attempt.phase = .finished outcome) :
    Follows before
      ((service.leaveFlight attempt).setPhase attempt.request (.released outcome)) := by
  obtain ⟨front, back, split, apart, changed, _⟩ := attempts_split distinct member
  have held := holdings_setPhase distinct member (.released outcome)
  rw [finished] at held
  have backs := follows.provided.backs.perm
    ((List.perm_append_left_iff (Phase.finished outcome).snapshots).mp held)
  refine follows.land backs ?_ rfl rfl
  exact follows.provided.flown.land [{ attempt with phase := .released outcome }] split apart
    (changed _) (by simp [Phase.isFlying]) rfl rfl

theorem Follows.abandon (follows : Follows before service)
    (distinct : (service.attempts.map fun attempt => attempt.request).Nodup)
    (member : attempt ∈ service.attempts) (abandoned : attempt.phase = .abandoned) :
    Follows before ((service.leaveFlight attempt).dropAttempt attempt.request) := by
  obtain ⟨front, back, split, apart, _, dropped⟩ := attempts_split distinct member
  have held := holdings_dropAttempt distinct member
  rw [abandoned] at held
  refine follows.land (follows.provided.backs.perm held) ?_ rfl rfl
  exact follows.provided.flown.land [] split apart dropped (by simp) rfl rfl

/-- An attempt that flies no more is forgotten; its snapshots go elsewhere. -/
theorem Follows.drop (follows : Follows before service)
    (distinct : (service.attempts.map fun attempt => attempt.request).Nodup)
    (member : attempt ∈ service.attempts) (down : attempt.phase.isFlying = false)
    (exchange : Exchange attempt.phase.snapshots [] (service.dropAttempt attempt.request) after) :
    Follows before after := by
  obtain ⟨front, back, split, _, _, dropped⟩ := attempts_split distinct member
  have flown := follows.provided.flown
  refine exchange.follows (follows.provided.backs.perm (holdings_dropAttempt distinct member))
    ⟨?_, ?_, flown.made⟩ follows.provided.housed follows.shut
  · intro pool poolMember
    refine (flown.inFlight pool poolMember).trans (List.Perm.of_eq ?_)
    simp [dropped, split, down]
  · exact fun other among => flown.known other (List.mem_filter.mp among).1

theorem Follows.giveWorker (follows : Follows before service)
    (distinct : (service.attempts.map fun attempt => attempt.request).Nodup)
    (member : attempt ∈ service.attempts) (queued : attempt.phase = .queued) :
    Follows before (service.giveWorker attempt) := by
  unfold Service.giveWorker
  cases service.dispatcher? attempt.dispatcher with
  | none => exact follows
  | some pool =>
      simp only
      split
      · exact follows.setPhase distinct member (queued ▸ rfl) (queued ▸ rfl)
      · split
        · exact follows
        · have taken : Follows before (service.updateDispatcher pool.id fun pool =>
              { pool with idle := pool.idle - 1 }) := by
            apply follows.updateDispatcher <;> exact fun _ => rfl
          exact taken.setPhase distinct member (queued ▸ rfl) (queued ▸ rfl)

theorem dropAttempt_releaseAll (service : Service) (snapshots : List Snapshot)
    (request : RequestId) : (service.releaseAll snapshots).dropAttempt request =
      (service.dropAttempt request).releaseAll snapshots := by
  induction snapshots generalizing service with
  | nil => rfl
  | cons snapshot rest inductionHypothesis => exact inductionHypothesis _

theorem Follows.skipOutcome (follows : Follows before service)
    (distinct : (service.attempts.map fun attempt => attempt.request).Nodup)
    (member : attempt ∈ service.attempts) {outcome : Outcome}
    (released : attempt.phase = .released outcome) :
    Follows before (service.skipOutcome attempt outcome) := by
  have freed : ∃ moment, Follows before moment ∧ moment.attempts = service.attempts ∧
      service.skipOutcome attempt outcome =
        (moment.releaseAll outcome.snapshot.toList).dropAttempt attempt.request := by
    unfold Service.skipOutcome
    split
    · exact ⟨_, (follows.exchange (exchange_report _ _)).freeWorker attempt, rfl, rfl⟩
    · exact ⟨service, follows, rfl, rfl⟩
  obtain ⟨moment, follows, attempts, same⟩ := freed
  rw [← attempts] at distinct member
  rw [same, dropAttempt_releaseAll]
  refine follows.drop distinct member (released ▸ rfl) ?_
  rw [released]
  exact exchange_releaseAll _ outcome.snapshot.toList

theorem Follows.postOutcome (follows : Follows before service)
    (contexts : service.contextIds.Nodup)
    (distinct : (service.attempts.map fun attempt => attempt.request).Nodup)
    (member : attempt ∈ service.attempts) {outcome : Outcome}
    (checked : attempt.phase = .checked outcome) :
    Follows before (service.postOutcome attempt outcome) := by
  have freed : ∃ moment, Follows before moment ∧ moment.attempts = service.attempts ∧
      moment.origins = service.origins ∧
      (if outcome.evaluated then service.freeWorker attempt else service) = moment := by
    split
    · exact ⟨_, follows.freeWorker attempt, rfl, rfl, rfl⟩
    · exact ⟨service, follows, rfl, rfl, rfl⟩
  obtain ⟨moment, follows, attempts, origins, same⟩ := freed
  have contexts : (moment.dropAttempt attempt.request).contextIds.Nodup := by
    show (moment.origins.map _).Nodup
    rw [origins]
    exact contexts
  rw [← attempts] at distinct member
  simp only [Service.postOutcome, same]
  cases found : moment.origin? attempt.origin with
  | some owner =>
      refine follows.drop distinct member (checked ▸ rfl) ?_
      let posted : Message := .completed (attempt.completion outcome)
      have exchange : Exchange posted.snapshot?.toList [] (moment.dropAttempt attempt.request)
          ((moment.dropAttempt attempt.request).post attempt.origin posted) :=
        exchange_post_found contexts found
      rw [checked]
      exact exchange
  | none =>
      have reported := follows.exchange (moment.exchange_report
        (.originGone attempt.request attempt.origin))
      simp only [dropAttempt_releaseAll]
      refine reported.drop distinct member (checked ▸ rfl) ?_
      rw [checked]
      exact exchange_releaseAll _ outcome.snapshot.toList

/-- The snapshot an attempt was evaluated on stays with the attempt. -/
theorem Follows.evaluate (follows : Follows before service)
    (distinct : (service.attempts.map fun attempt => attempt.request).Nodup)
    (member : attempt ∈ service.attempts) (cleared : attempt.phase = .cleared) :
    Follows before ((service.evaluateAttempt attempt).1.setPhase attempt.request
      (.finished (service.evaluateAttempt attempt).2)) := by
  have exchange := service.exchange_evaluateAttempt attempt
  have interlude := service.interlude_evaluateAttempt attempt
  generalize service.evaluateAttempt attempt = result at exchange interlude ⊢
  obtain ⟨moment, outcome⟩ := result
  have provided := follows.provided
  rw [← interlude.attempts] at distinct member
  have held := holdings_setPhase distinct member (.finished outcome)
  rw [cleared] at held
  have flown := exchange.flown provided.flown
  refine ⟨⟨(exchange.backs [] provided.backs).perm held, ?_, ?_⟩, ?_⟩
  · exact flown_setPhase flown distinct member (cleared ▸ rfl)
  · show ∀ settings ∈ moment.originSettings, settings.dispatcher ∈ moment.poolIds
    rw [exchange.originSettings, exchange.poolIds]
    exact provided.housed
  · exact fun id earlier => exchange.shut id (follows.shut id earlier)

theorem Follows.advance (follows : Follows before service) (contexts : service.contextIds.Nodup)
    (distinct : (service.attempts.map fun attempt => attempt.request).Nodup)
    (request : RequestId) : Follows before (service.advance request) := by
  unfold Service.advance
  cases found : service.attempts.find? fun attempt => attempt.request = request with
  | none => exact follows
  | some attempt =>
      have member := List.mem_of_find?_eq_some found
      simp only [advanceAttempt]
      cases phase : attempt.phase with
      | queued => exact follows.giveWorker distinct member phase
      | admitted =>
          simp only
          split <;> exact follows.setPhase distinct member (phase ▸ rfl) (phase ▸ rfl)
      | cleared => exact follows.evaluate distinct member phase
      | abandoned =>
          have dropped := follows.abandon distinct member phase
          exact (dropped.exchange (exchange_report _ _)).freeWorker attempt
      | finished outcome => exact follows.release distinct member phase
      | released outcome =>
          simp only
          split
          · exact follows.skipOutcome distinct member phase
          · split
            · exact (follows.exchange (exchange_report _ _)).setPhase distinct member
                (phase ▸ rfl) (phase ▸ rfl)
            · exact follows.setPhase distinct member (phase ▸ rfl) (phase ▸ rfl)
      | checked outcome => exact follows.postOutcome contexts distinct member phase

end Attempts

section Moves

theorem Follows.process (follows : Follows before service) (contexts : service.contextIds.Nodup)
    (processed : service.process? id = some after) : Follows before after := by
  unfold process? at processed
  cases found : service.origin? id with
  | none =>
      rw [found] at processed
      exact absurd processed nofun
  | some owner =>
      cases oldest : owner.mailbox with
      | nil =>
          simp only [found, oldest] at processed
          exact absurd processed nofun
      | cons message rest =>
          simp only [found, oldest] at processed
          obtain rfl := Option.some.inj processed
          exact follows.exchange ((exchange_leaveMessages contexts found oldest).trans
            (exchange_handle _ owner.settings message))

theorem Follows.addDispatcher (follows : Follows before service) (name : String) (workers : Nat)
    (shared : Option RegistryId) :
    Follows before (service.addDispatcher name workers shared).1 := by
  obtain ⟨backs, ⟨inFlight, known, made⟩, housed⟩ := follows.provided
  have ids : (service.addDispatcher name workers shared).1.poolIds =
      service.poolIds ++ [⟨service.dispatchersMade + 1⟩] := by
    simp [Service.addDispatcher, poolIds]
  refine ⟨⟨backs, ⟨?_, ?_, ?_⟩, ?_⟩, ?_⟩
  · intro pool member
    rcases List.mem_append.mp member with old | new
    · exact inFlight pool old
    · -- No attempt has a dispatcher with a number that was not given out.
      rw [List.mem_singleton.mp new]
      refine List.Perm.of_eq (List.eq_nil_iff_forall_not_mem.mpr ?_).symm
      intro request flies
      obtain ⟨attempt, among, _, same, _⟩ := exists_of_mem_flyingAmong flies
      have given := made _ (known attempt among)
      rw [same] at given
      exact Nat.not_succ_le_self _ given
  · rw [ids]
    exact fun attempt member => List.mem_append_left _ (known attempt member)
  · rw [ids]
    intro id member
    rcases List.mem_append.mp member with old | new
    · exact Nat.le_succ_of_le (made id old)
    · rw [List.mem_singleton.mp new]
      exact Nat.le_refl _
  · rw [ids]
    exact fun settings member => List.mem_append_left _ (housed settings member)
  · intro id earlier
    obtain ⟨pool, member, same, closed⟩ := follows.shut id earlier
    exact ⟨pool, List.mem_append_left _ member, same, closed⟩

theorem Follows.addOrigin (follows : Follows before service) {pool : Dispatcher}
    (found : service.dispatcher? pool.id = some pool) (config : Config) :
    Follows before (service.addOrigin pool config).1 where
  provided := by
    obtain ⟨backs, flown, housed⟩ := follows.provided
    refine ⟨?_, ⟨flown.inFlight, flown.known, flown.made⟩, ?_⟩
    · refine backs.perm (List.Perm.of_eq ?_)
      simp [holdings, Service.addOrigin, Origin.snapshots]
    · have settings : (service.addOrigin pool config).1.originSettings = service.originSettings ++
          [⟨⟨service.contextsMade + 1⟩, pool.id, pool.registry, config⟩] := by
        simp [Service.addOrigin, originSettings]
      rw [settings]
      intro other member
      rcases List.mem_append.mp member with old | new
      · exact housed other old
      · rw [List.mem_singleton.mp new]
        exact List.mem_map_of_mem (List.mem_of_find?_eq_some found)
  shut := follows.shut

theorem Follows.dropOrigin (follows : Follows before service) (contexts : service.contextIds.Nodup)
    (id : ContextId) : Follows before (service.dropOrigin id) := by
  obtain ⟨backs, flown, housed⟩ := follows.provided
  have fewer : ∀ settings ∈ (service.withoutOrigin id).originSettings,
      settings.dispatcher ∈ service.poolIds := by
    intro settings member
    obtain ⟨origin, among, rfl⟩ := List.mem_map.mp member
    exact housed _ (List.mem_map_of_mem (List.mem_filter.mp among).1)
  have left : (service.withoutOrigin id).store.Backs
      ((((service.origin? id).map fun origin => origin.mailbox).getD []).filterMap
        Message.snapshot? ++ (service.withoutOrigin id).holdings) := by
    cases found : service.origin? id with
    | some owner => exact backs.perm (holdings_withoutOrigin contexts found)
    | none =>
        have same : (service.withoutOrigin id).origins = service.origins :=
          List.filter_eq_self.mpr fun origin member => by
            simpa using List.find?_eq_none.mp found origin member
        have held : (service.withoutOrigin id).holdings = service.holdings := by
          simp only [holdings, same]
          rfl
        rw [held]
        exact backs
  exact (exchange_releaseAll (service.withoutOrigin id) _).follows left
    ⟨flown.inFlight, flown.known, flown.made⟩ fewer follows.shut

theorem Follows.openSnapshot (follows : Follows before service) {name : String}
    {version : Option VersionStamp}
    (moved : service.after? (.openSnapshot name version) = some after) : Follows before after := by
  have opened := service.exchange_openSnapshot version
  simp only [after?] at moved
  generalize service.openSnapshot version = result at opened moved
  obtain ⟨moment, snapshot⟩ := result
  cases snapshot with
  | error refusal =>
      obtain rfl := Option.some.inj moved
      exact follows.exchange opened
  | ok snapshot =>
      obtain rfl := Option.some.inj moved
      exact follows.exchange (opened.trans (moment.exchange_keepSnapshot name snapshot))

/-- Every move leaves all that is under way provided for. -/
theorem Follows.moved (follows : Follows before service) (orderly : service.Orderly)
    (tracked : service.Tracked) {move : Move} (moved : service.after? move = some after) :
    Follows before after := by
  have contexts := orderly.contexts
  cases move with
  | act action =>
      obtain rfl := Option.some.inj moved
      exact follows.exchange (service.exchange_act action)
  | wake handle =>
      simp only [after?] at moved
      split at moved
      · obtain rfl := Option.some.inj moved
        exact follows.exchange (service.exchange_wake handle)
      · cases moved
  | advance request =>
      obtain rfl := Option.some.inj moved
      exact follows.advance contexts tracked.distinct request
  | process origin => exact follows.process contexts moved
  | submit origin query =>
      obtain ⟨owner, _, rfl⟩ := Option.map_eq_some_iff.mp moved
      exact follows.exchange (service.exchange_submit owner.settings query)
  | addDispatcher name workers shared =>
      obtain rfl := Option.some.inj moved
      exact follows.addDispatcher name workers shared
  | addOrigin dispatcher config =>
      obtain ⟨pool, found, rfl⟩ := Option.map_eq_some_iff.mp moved
      obtain rfl : pool.id = dispatcher := dispatcher?_id found
      exact follows.addOrigin found config
  | dropOrigin origin =>
      obtain rfl := Option.some.inj moved
      exact follows.dropOrigin contexts origin
  | openSnapshot name version => exact follows.openSnapshot moved
  | copySnapshot source name =>
      obtain ⟨snapshot, found, rfl⟩ := Option.map_eq_some_iff.mp moved
      exact follows.exchange (service.exchange_copySnapshot found name)
  | dropSnapshot name =>
      obtain rfl := Option.some.inj moved
      exact follows.exchange (service.exchange_dropSnapshot name)
  | dropView name =>
      obtain rfl := Option.some.inj moved
      exact follows.exchange (service.exchange_dropView name)
  | interpose faults =>
      obtain rfl := Option.some.inj moved
      exact follows.exchange (exchange_of_custody rfl fun _ => id)

theorem provided_of_reaches {permitted : Service → Move → Prop} {schema : TableSchema}
    (run : (Service.new schema).Reaches permitted service) : service.Provided := by
  induction run with
  | start => exact provided_new schema
  | move move earlier _ moved inductionHypothesis =>
      exact (inductionHypothesis.follows.moved (orderly_of_reaches earlier)
        (tracked_of_reaches earlier) moved).provided

end Moves

end SnapshotQuery.Service
