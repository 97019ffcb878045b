import Mathlib.Data.List.Range
import Mathlib.Data.List.Sort
import SnapshotQuery.Proofs.Store.Client
import SnapshotQuery.Simulation

/-!
# Row ids

Inserts take ids from a counter that only commits move, and they take each once.
So what is inserted is in order of its ids, and whatever a reader sees under an
id is the row that was inserted under it.
-/

namespace SnapshotQuery

/-- The row an insert answered with. -/
def Answer.row? : Answer → Option RowId
  | .row id => some id
  | .done | .flag _ | .version _ => none

namespace Transaction

/-- The rows that inserts have answered with, in order. -/
def rowsOf (answers : List (Except StoreError Answer)) : List RowId :=
  answers.filterMap fun answer => answer.toOption.bind Answer.row?

variable {transaction next : Transaction} {call : Call} {result : CallResult}

/-- A call takes the next id and answers with it, or takes none. -/
theorem Called.allocates (called : transaction.Called call next result) :
    (result = .answered (.row transaction.nextRow) ∧ next.nextRow = transaction.nextRow + 1) ∨
      next.nextRow = transaction.nextRow ∧
        ∀ answer, result = .answered answer → answer.row? = none := by
  cases called with
  | inserted _ => exact .inl ⟨rfl, rfl⟩
  | cleared =>
      refine .inr ⟨nextRow_clear transaction, ?_⟩
      intro answer same
      obtain rfl := CallResult.answered.inj same
      rfl
  | insertRefused _ => exact .inr ⟨rfl, nofun⟩
  | updateRefused _ => exact .inr ⟨rfl, nofun⟩
  | updateMissed _ _ => exact .inr ⟨rfl, nofun⟩
  | deleteMissed _ => exact .inr ⟨rfl, nofun⟩
  | panicked => exact .inr ⟨rfl, nofun⟩
  | updated _ _ | unstaged _ _ | deleted _ _ | looked | told =>
      refine .inr ⟨rfl, ?_⟩
      intro answer same
      obtain rfl := CallResult.answered.inj same
      rfl

/-- The ids that inserts answer with are all those between the counter before and after. -/
theorem rowsOf_run (keepGoing : Bool) (calls : List Call) (transaction : Transaction) :
    transaction.nextRow ≤ (run keepGoing calls transaction).1.nextRow ∧
      rowsOf (run keepGoing calls transaction).2.1 =
        List.range' transaction.nextRow
          ((run keepGoing calls transaction).1.nextRow - transaction.nextRow) := by
  induction calls generalizing transaction with
  | nil => simp [run, rowsOf]
  | cons call rest inductionHypothesis =>
      have allocates := (transaction.called_call call).allocates
      unfold run
      generalize transaction.call call = called at allocates
      obtain ⟨next, result⟩ := called
      obtain ⟨grown, given⟩ := inductionHypothesis next
      have unlisted : ∀ answer : Except StoreError Answer, answer.toOption.bind Answer.row? = none →
          next.nextRow = transaction.nextRow →
          transaction.nextRow ≤ (run keepGoing rest next).1.nextRow ∧
            rowsOf (answer :: (run keepGoing rest next).2.1) =
              List.range' transaction.nextRow
                ((run keepGoing rest next).1.nextRow - transaction.nextRow) := by
        intro answer none same
        rw [← same]
        refine ⟨grown, ?_⟩
        rw [← given, rowsOf, List.filterMap_cons, none]
        rfl
      cases result with
      | answered answer =>
          rcases allocates with ⟨taken, moved⟩ | ⟨same, other⟩
          · obtain rfl := CallResult.answered.inj taken
            have further : rowsOf (.ok (.row transaction.nextRow) ::
                (run keepGoing rest next).2.1) =
                transaction.nextRow :: rowsOf (run keepGoing rest next).2.1 := rfl
            simp only at moved
            obtain ⟨more, last⟩ := Nat.exists_eq_add_of_le (moved ▸ grown)
            have counted : transaction.nextRow + 1 + more - transaction.nextRow = more + 1 := by
              rw [Nat.add_assoc, Nat.add_sub_cancel_left, Nat.add_comm]
            have kept : transaction.nextRow ≤ (run keepGoing rest next).1.nextRow :=
              Nat.le_of_succ_le (Nat.le_trans (Nat.le_of_eq moved.symm) grown)
            refine ⟨kept, ?_⟩
            simp only
            rw [further, given, moved, last, counted, List.range'_succ, Nat.add_sub_cancel_left]
          · exact unlisted (.ok answer) (other answer rfl) same
      | panicked message =>
          rcases allocates with ⟨taken, _⟩ | ⟨same, _⟩
          · cases taken
          · simp only at same
            simp [rowsOf, same]
      | failed error =>
          rcases allocates with ⟨taken, _⟩ | ⟨same, _⟩
          · cases taken
          · cases keepGoing with
            | true => exact unlisted (.error error) rfl same
            | false =>
                simp only at same
                simp [rowsOf, same, Except.toOption]

end Transaction

namespace ClientAnswer

/-- The ids that the inserts of a transaction have answered with, whatever became of it. -/
def returned : ClientAnswer → List RowId
  | wrote report => Transaction.rowsOf report.answers
  | _ => []

/-- The rows that were inserted by a transaction that has committed, with its version. -/
def insertions : ClientAnswer → List (RowId × VersionStamp)
  | wrote ⟨answers, .committed committed _⟩ =>
      (Transaction.rowsOf answers).map fun row => (row, committed)
  | _ => []

end ClientAnswer

namespace VersionChain

variable {chain : VersionChain} {current seen stamp : VersionStamp}

/-- A row that exists at a version exists from each of its entries up to the version. -/
theorem Ordered.documentAt?_isSome (ordered : chain.Ordered current)
    (living : (chain.documentAt? stamp).isSome = true) {entry : RowVersion}
    (member : entry ∈ chain.versions) (begun : entry.committedAt ≤ seen) (before : seen ≤ stamp) :
    (chain.documentAt? seen).isSome = true := by
  obtain ⟨found, shown⟩ : ∃ found, chain.resolve? seen = some found := by
    apply Option.isSome_iff_exists.mp
    apply List.find?_isSome.mpr
    exact ⟨entry, List.mem_reverse.mpr member, decide_eq_true begun⟩
  have among : found ∈ chain.versions := List.mem_reverse.mp (List.mem_of_find?_eq_some shown)
  have below : found.committedAt ≤ seen := by simpa using List.find?_some shown
  have alive : found.isTombstone = false := by
    by_contra buried
    -- Nothing follows a tombstone, so the later reader would see it as well.
    obtain ⟨earlier, last, split⟩ :=
      (List.eq_nil_or_concat chain.versions).resolve_left ordered.nonempty
    obtain rfl : found = last := by
      rw [split, List.concat_eq_append] at among
      rcases List.mem_append.mp among with old | final
      · have living := ordered.buried found (by simpa [split] using old)
        exact absurd living buried
      · exact List.mem_singleton.mp final
    have latest : chain.resolve? stamp = some found := by
      simp [resolve?, split, Nat.le_trans below before]
    have hidden : found.isTombstone = true := by simpa using buried
    simp [documentAt?, visible?, latest, Option.filter, hidden] at living
  exact documentAt?_isSome_of_resolve? shown alive

/-- A reader sees nothing of a row before its first entry. -/
theorem exists_entry_of_documentAt? (living : (chain.documentAt? stamp).isSome = true) :
    ∃ entry ∈ chain.versions, entry.committedAt ≤ stamp := by
  cases shown : chain.resolve? stamp with
  | none => simp [documentAt?, visible?, shown] at living
  | some entry =>
      exact ⟨entry, List.mem_reverse.mp (List.mem_of_find?_eq_some shown),
        by simpa using List.find?_some shown⟩

end VersionChain

namespace Store

/-- The history goes back to the version at which the row was inserted, or to the horizon. -/
structure Since (store : Store) (chain : VersionChain) (inserted : VersionStamp) : Prop where
  later : ∀ entry ∈ chain.versions, inserted ≤ entry.committedAt
  early : ∃ entry ∈ chain.versions, entry.committedAt ≤ max inserted store.horizon

/-- The rows that were inserted, in order, account for all rows there are. -/
structure Enrolled (store : Store) (insertions : List (RowId × VersionStamp)) : Prop where
  increasing : (insertions.map Prod.fst).Pairwise fun earlier later => earlier < later
  given : ∀ entry ∈ insertions, entry.1 < store.nextRow
  listed : ∀ row chain, store.rows.find? row = some chain →
    ∃ inserted, (row, inserted) ∈ insertions ∧ store.Since chain inserted

variable {store after : Store} {insertions : List (RowId × VersionStamp)}

theorem enrolled_new (schema : TableSchema) : (Store.new schema).Enrolled [] where
  increasing := .nil
  given _ member := by simp at member
  listed row chain found := by simp [Store.new] at found

theorem Enrolled.poisoned (enrolled : store.Enrolled insertions) (poisoned : Bool) :
    Enrolled { store with poisoned } insertions :=
  ⟨enrolled.increasing, enrolled.given, fun row chain found =>
    let ⟨inserted, member, since⟩ := enrolled.listed row chain found
    ⟨inserted, member, since.later, since.early⟩⟩

theorem Enrolled.retention (enrolled : store.Enrolled insertions) (retention : Retention) :
    Enrolled { store with retention } insertions :=
  ⟨enrolled.increasing, enrolled.given, fun row chain found =>
    let ⟨inserted, member, since⟩ := enrolled.listed row chain found
    ⟨inserted, member, since.later, since.early⟩⟩

theorem Enrolled.afterCommit (enrolled : store.Enrolled insertions) (wellFormed : store.WellFormed)
    {transaction : Transaction} (base : transaction.store = store)
    (staging : transaction.Staging) :
    (store.afterCommit transaction).Enrolled (insertions ++
      (List.range' store.nextRow (transaction.nextRow - store.nextRow)).map fun row =>
        (row, store.authority.nextVersion)) := by
  have grown : store.nextRow ≤ transaction.nextRow := base ▸ staging.nextRow_le
  have new : ∀ row, store.nextRow ≤ row → row < transaction.nextRow →
      row ∈ List.range' store.nextRow (transaction.nextRow - store.nextRow) := by
    intro row own below
    exact List.mem_range'_1.mpr ⟨own, by rwa [Nat.add_sub_cancel' grown]⟩
  refine ⟨?_, ?_, ?_⟩
  · rw [List.map_append, List.map_map]
    have fresh : (List.range' store.nextRow (transaction.nextRow - store.nextRow)).map
        (Prod.fst ∘ fun row => (row, store.authority.nextVersion)) =
        List.range' store.nextRow (transaction.nextRow - store.nextRow) := List.map_id _
    rw [fresh]
    refine List.pairwise_append.mpr ⟨enrolled.increasing, List.pairwise_lt_range', ?_⟩
    intro old oldMember row member
    obtain ⟨entry, among, rfl⟩ := List.mem_map.mp oldMember
    exact Nat.lt_of_lt_of_le (enrolled.given entry among) (List.mem_range'_1.mp member).1
  · intro entry member
    rcases List.mem_append.mp member with old | new
    · exact Nat.lt_of_lt_of_le (enrolled.given entry old) grown
    · obtain ⟨row, among, rfl⟩ := List.mem_map.mp new
      rw [List.mem_range'_1, Nat.add_sub_cancel' grown] at among
      exact among.2
  · intro row chain found
    rw [find?_rows_afterCommit] at found
    cases staged : transaction.staged.find? row with
    | none =>
        rw [staged] at found
        obtain ⟨inserted, member, since⟩ := enrolled.listed row chain found
        exact ⟨inserted, List.mem_append_left _ member, since.later, since.early⟩
    | some change =>
        rw [staged] at found
        obtain rfl := Option.some.inj found
        cases held : store.rows.find? row with
        | none =>
            have own : store.nextRow ≤ row := by
              by_contra known
              have there := staging.replaced row change staged (base ▸ Nat.lt_of_not_le known)
              simp [base, documentAt?, held] at there
            have below := (staging.added row change staged (base ▸ own)).1
            refine ⟨store.authority.nextVersion, ?_, ?_, ?_⟩
            · exact List.mem_append_right _ (List.mem_map.mpr ⟨row, new row own below, rfl⟩)
            · intro entry member
              obtain rfl : entry = _ := by
                simpa [VersionChain.push, VersionChain.empty] using member
              exact Nat.le_of_eq (committedAt_versionOf _ _).symm
            · refine ⟨versionOf store.authority.nextVersion change, ?_, ?_⟩
              · simp [VersionChain.push, VersionChain.empty]
              · rw [committedAt_versionOf]
                exact Nat.le_max_left _ _
        | some old =>
            obtain ⟨inserted, member, since⟩ := enrolled.listed row old held
            obtain ⟨entry, among, early⟩ := since.early
            have known := (wellFormed.ordered row old held).committed entry among
            refine ⟨inserted, List.mem_append_left _ member, ?_, ?_⟩
            · intro other otherMember
              rcases List.mem_append.mp otherMember with earlier | last
              · exact since.later other earlier
              · rw [List.mem_singleton.mp last, committedAt_versionOf]
                exact Nat.le_succ_of_le (Nat.le_trans (since.later entry among) known)
            · exact ⟨entry, List.mem_append_left _ among, early⟩

theorem Enrolled.reclaim (enrolled : store.Enrolled insertions) (floor : VersionStamp) :
    (store.reclaim floor).1.Enrolled insertions where
  increasing := enrolled.increasing
  given := enrolled.given
  listed row chain found := by
    obtain ⟨old, held, rfl, _⟩ := exists_of_find?_reclaim found
    obtain ⟨inserted, member, since⟩ := enrolled.listed row old held
    have kept : (old.pruneBelow floor).versions.Sublist old.versions := List.drop_sublist _ _
    refine ⟨inserted, member, fun entry among => since.later entry (kept.mem among), ?_⟩
    obtain ⟨entry, among, early⟩ := since.early
    rcases VersionChain.head_pruneBelow old floor with whole | below
    · refine ⟨entry, whole.symm ▸ among, Nat.le_trans early ?_⟩
      exact max_le_max (Nat.le_refl inserted) (Nat.le_max_left store.horizon floor)
    · have left : (old.pruneBelow floor).versions ≠ [] := by
        simpa [VersionChain.pruneBelow] using
          VersionChain.superseded_lt floor (List.ne_nil_of_mem among)
      refine ⟨_, List.head_mem left, ?_⟩
      have first := below _ (List.head?_eq_some_head left)
      exact Nat.le_trans first (Nat.le_trans (Nat.le_max_right store.horizon floor)
        (Nat.le_max_right inserted _))

theorem Enrolled.collect (enrolled : store.Enrolled insertions) {report : GcReport}
    (collecting : store.collect = .ok (after, report)) : after.Enrolled insertions := by
  obtain ⟨_, reclaimed⟩ := (store.collect_eq_ok_iff after report).mp collecting
  obtain ⟨rfl, rfl⟩ := Prod.mk.inj reclaimed
  exact enrolled.reclaim _

/-- The inserts of a transaction take ids the store has not given out. -/
theorem Wrote.allocates {script : Script} {report : WriteReport}
    (wrote : store.Wrote script after report) :
    ∃ count, Transaction.rowsOf report.answers = List.range' store.nextRow count := by
  have given := (Transaction.rowsOf_run script.keepGoing script.calls (.start store)).2
  cases wrote with
  | refused _ => exact ⟨0, rfl⟩
  | panicked _ ran | failed _ ran | aborted _ ran _ | unchanged _ ran _ _ | committed _ ran _ _ =>
      rw [ran] at given
      exact ⟨_, given⟩

theorem Enrolled.wrote (enrolled : store.Enrolled insertions) (wellFormed : store.WellFormed)
    {script : Script} {report : WriteReport} (wrote : store.Wrote script after report) :
    after.Enrolled (insertions ++ (ClientAnswer.wrote report).insertions) := by
  cases wrote with
  | committed _ ran _ _ =>
      have given := (Transaction.rowsOf_run script.keepGoing script.calls (.start store)).2
      have staged := Transaction.staging_run wellFormed script.keepGoing script.calls
      rw [ran] at given staged
      have enrolled := enrolled.afterCommit wellFormed staged.1 staged.2
      simp only at given
      rwa [ClientAnswer.insertions, given]
  | panicked _ _ =>
      rw [ClientAnswer.insertions, List.append_nil]
      · exact enrolled.poisoned true
      · exact nofun
  | refused _ | failed _ _ | aborted _ _ _ | unchanged _ _ _ _ =>
      rw [ClientAnswer.insertions, List.append_nil]
      · exact enrolled
      · exact nofun

theorem Wrote.nextRow_le {script : Script} {report : WriteReport}
    (wrote : store.Wrote script after report) : store.nextRow ≤ after.nextRow := by
  have grown := (Transaction.rowsOf_run script.keepGoing script.calls (.start store)).1
  cases wrote with
  | committed _ ran _ _ =>
      rw [ran] at grown
      exact grown
  | _ => exact Nat.le_refl _

/-- A row that is seen at a version was inserted by then, and is there ever since. -/
theorem Enrolled.accounted (enrolled : store.Enrolled insertions) (wellFormed : store.WellFormed)
    {row : RowId} {version : VersionStamp}
    (living : (store.documentAt? row version).isSome = true) :
    ∃ inserted, (row, inserted) ∈ insertions ∧ inserted ≤ version ∧
      ∀ seen, max inserted store.horizon ≤ seen → seen ≤ version →
        (store.documentAt? row seen).isSome = true := by
  simp only [Store.documentAt?] at living ⊢
  cases held : store.rows.find? row with
  | none => simp [held] at living
  | some chain =>
      rw [held, Option.bind_some] at living
      obtain ⟨inserted, member, since⟩ := enrolled.listed row chain held
      obtain ⟨entry, among, below⟩ := VersionChain.exists_entry_of_documentAt? living
      obtain ⟨first, firstMember, early⟩ := since.early
      refine ⟨inserted, member, Nat.le_trans (since.later entry among) below, ?_⟩
      intro seen above before
      rw [Option.bind_some]
      exact (wellFormed.ordered row chain held).documentAt?_isSome living firstMember
        (Nat.le_trans early above) before

/-- Results list rows in the order of their inserts. -/
theorem Enrolled.sublist_of_evaluate (enrolled : store.Enrolled insertions)
    (wellFormed : store.WellFormed) {snapshot : Snapshot} {predicate : Predicate} {rows : RowSet}
    (evaluated : store.evaluate snapshot predicate = .ok rows) :
    rows.rows.Sublist (insertions.map Prod.fst) := by
  obtain ⟨_, _, _, rfl⟩ := (store.evaluate_eq_ok_iff snapshot predicate rows).mp evaluated
  have sorted := store.rowsMatching_sorted predicate snapshot.version
  refine List.sublist_of_subperm_of_pairwise ?_ sorted enrolled.increasing
  refine List.subperm_of_subset (sorted.imp fun less => Nat.ne_of_lt less) ?_
  intro row member
  obtain ⟨⟨held, document⟩, found, rfl⟩ := List.mem_map.mp member
  have shown := (store.mem_rowsAt held document _).mp (List.mem_filter.mp found).1
  obtain ⟨inserted, enlisted, _⟩ :=
    enrolled.accounted wellFormed (Option.isSome_iff_exists.mpr ⟨_, shown⟩)
  exact List.mem_map.mpr ⟨_, enlisted, rfl⟩

end Store

namespace Client

variable {client : Client} {insertions : List (RowId × VersionStamp)}

theorem enrolled_call (sound : client.Sound) (enrolled : client.store.Enrolled insertions)
    (call : ClientCall) : (client.call call).1.store.Enrolled
      (insertions ++ (client.call call).2.insertions) := by
  have called := client.called_call call
  generalize client.call call = made at called
  obtain ⟨next, answer⟩ := made
  cases called with
  | wrote wrote => exact enrolled.wrote sound.wellFormed wrote
  | collected collecting =>
      simpa [ClientAnswer.insertions] using enrolled.collect collecting
  | pinned quiet _ =>
      have none : answer.insertions = [] := by
        cases answer with
        | wrote report =>
            obtain ⟨answers, commit⟩ := report
            cases commit <;> first | rfl | simp [ClientAnswer.isCommit] at quiet
        | _ => rfl
      rw [none, List.append_nil]
      exact enrolled.retention _

theorem enrolled_run (calls : List ClientCall) (sound : client.Sound)
    (enrolled : client.store.Enrolled insertions) : (run calls client).1.store.Enrolled
      (insertions ++ (run calls client).2.flatMap ClientAnswer.insertions) := by
  induction calls generalizing client insertions with
  | nil => simpa [run] using enrolled
  | cons call rest inductionHypothesis =>
      have further := inductionHypothesis (sound.call call) (enrolled_call sound enrolled call)
      simpa [run, List.append_assoc] using further

theorem nextRow_call (client : Client) (call : ClientCall) :
    client.store.nextRow ≤ (client.call call).1.store.nextRow := by
  have called := client.called_call call
  generalize client.call call = made at called
  obtain ⟨next, answer⟩ := made
  cases called with
  | wrote wrote => exact wrote.nextRow_le
  | collected collecting =>
      obtain ⟨_, reclaimed⟩ := (client.store.collect_eq_ok_iff _ _).mp collecting
      obtain ⟨rfl, _⟩ := Prod.mk.inj reclaimed
      exact Nat.le_refl _
  | pinned _ _ => exact Nat.le_refl _

/-- A call of a client answers with fresh ids only. -/
theorem returned_call (client : Client) (call : ClientCall) :
    ∃ count, (client.call call).2.returned = List.range' client.store.nextRow count := by
  cases call with
  | write script => exact (client.store.wrote_write script).allocates
  | collect | openSnapshot _ | copy _ | drop _ | evaluate _ _ | readRow _ _ =>
      refine ⟨0, ?_⟩
      simp only [Client.call, Client.collect, Client.openSnapshot]
      split <;> rfl
  | unpinned _ | importRows _ _ _ | liveRows | currentVersion => exact ⟨0, rfl⟩

theorem returned_run (calls : List ClientCall) (client : Client) :
    ∀ answer ∈ (run calls client).2, answer.returned.Pairwise (fun older newer => older < newer) ∧
      ∀ row ∈ answer.returned, client.store.nextRow ≤ row := by
  induction calls generalizing client with
  | nil => simp [run]
  | cons call rest inductionHypothesis =>
      intro answer member
      rw [run_cons] at member
      rcases List.mem_cons.mp member with rfl | later
      · obtain ⟨count, given⟩ := client.returned_call call
        rw [given]
        exact ⟨List.pairwise_lt_range', fun row among => (List.mem_range'_1.mp among).1⟩
      · obtain ⟨ordered, fresh⟩ := inductionHypothesis _ answer later
        exact ⟨ordered, fun row among => Nat.le_trans (client.nextRow_call call) (fresh row among)⟩

/-- Row ids are never given out twice.  In any run the ids inserted by committed transactions
increase in the order of the inserts, and whatever is inserted later, also in a transaction that
fails, has a greater id.  So a row that is seen at a version was inserted under its id once, at that
version or before, and it was there all the time since, as far as history is retained; and results
list rows in the order of their inserts. -/
theorem row_ids_never_reused (schema : TableSchema) (earlier later : List ClientCall) :
    let store := (run earlier (new schema)).1.store
    let before := (run earlier (new schema)).2.flatMap ClientAnswer.insertions
    let whole := (run (earlier ++ later) (new schema)).2.flatMap ClientAnswer.insertions
    (whole.map Prod.fst).Pairwise (fun older newer => older < newer) ∧
      (∀ answer ∈ (run later (run earlier (new schema)).1).2,
        answer.returned.Pairwise (fun older newer => older < newer) ∧
          ∀ old ∈ before, ∀ row ∈ answer.returned, old.1 < row) ∧
      (∀ row version, (store.documentAt? row version).isSome = true →
        ∃ inserted, (row, inserted) ∈ before ∧ inserted ≤ version ∧
          (∀ other, (row, other) ∈ whole → other = inserted) ∧
          ∀ seen, max inserted store.horizon ≤ seen → seen ≤ version →
            (store.documentAt? row seen).isSome = true) ∧
      ∀ snapshot predicate rows, store.evaluate snapshot predicate = .ok rows →
        rows.rows.Sublist (before.map Prod.fst) := by
  intro store before whole
  have sound : (run earlier (new schema)).1.Sound := sound_after schema earlier
  have enrolled : store.Enrolled before :=
    enrolled_run earlier (.new schema) (Store.enrolled_new schema)
  have increasing := (enrolled_run (earlier ++ later) (.new schema)
    (Store.enrolled_new schema)).increasing
  rw [List.nil_append] at increasing
  have extended : before ⊆ whole := by
    intro entry member
    simp only [whole, run_append, List.flatMap_append]
    exact List.mem_append_left _ member
  refine ⟨increasing, ?_, ?_, fun _ _ _ => enrolled.sublist_of_evaluate sound.wellFormed⟩
  · intro answer member
    obtain ⟨ordered, fresh⟩ := returned_run later _ answer member
    refine ⟨ordered, ?_⟩
    intro old oldMember row among
    exact Nat.lt_of_lt_of_le (enrolled.given old oldMember) (fresh row among)
  · intro row version living
    obtain ⟨inserted, member, below, there⟩ := enrolled.accounted sound.wellFormed living
    refine ⟨inserted, member, below, ?_, there⟩
    intro other otherMember
    have distinct : (whole.map Prod.fst).Nodup := increasing.imp fun less => Nat.ne_of_lt less
    exact congrArg Prod.snd
      (List.inj_on_of_nodup_map distinct otherMember (extended member) rfl)

/-- Nothing is left of two rows that were deleted and collected, and still the next row does not
get the id of one of them. -/
theorem row_ids_never_reused_after_collect :
    let cleared : List ClientCall :=
      [.write (Simulation.refill 2), .write (Simulation.refill 0), .collect]
    let refilled : List ClientCall := [.write (Simulation.refill 1)]
    let whole := (run (cleared ++ refilled) (new Simulation.schema)).2.flatMap
      ClientAnswer.insertions
    (after Simulation.schema cleared).store.rows.isEmpty = true ∧
      whole = [(1, 1), (2, 1), (3, 3)] ∧
      (whole.map Prod.fst).Pairwise fun older newer => older < newer := by
  intro cleared refilled whole
  exact ⟨rfl, rfl, (row_ids_never_reused Simulation.schema cleared refilled).1⟩

end Client

end SnapshotQuery
