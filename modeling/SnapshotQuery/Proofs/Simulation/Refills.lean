import SnapshotQuery.Proofs.Predicate.Numbers
import SnapshotQuery.Proofs.Store.Table
import SnapshotQuery.Simulation

/-!
# Refilled tables

A refill replaces the rows of the table by fresh ones numbered from zero, in one
commit if there is anything to replace or to insert.  The query of a simulation
finds those of them that are numbered below ten.
-/

namespace SnapshotQuery

namespace OrderedMap

variable {Key Item : Type} [LT Key]

theorem values_eq_nil_iff (map : OrderedMap Key Item) : map.values = [] ↔ map.keys = [] := by
  simp [values, keys]

variable [DecidableEq Key] [Std.Irrefl fun left right : Key => left < right]

theorem mem_keys_iff (map : OrderedMap Key Item) (key : Key) :
    key ∈ map.keys ↔ (map.find? key).isSome = true := by
  simp [keys, Option.isSome_iff_exists, ← mem_entries_iff]

theorem insertEntry_last [DecidableLT Key] [Std.Asymm fun left right : Key => left < right]
    {key : Key} (item : Item) {entries : List (Key × Item)}
    (last : ∀ entry ∈ entries, entry.1 < key) :
    insertEntry key item entries = entries ++ [(key, item)] := by
  induction entries with
  | nil => rfl
  | cons head rest inductionHypothesis =>
      obtain ⟨first, others⟩ := List.forall_mem_cons.mp last
      have above : ¬ key < head.1 := Std.Asymm.asymm _ _ first
      have differs : key ≠ head.1 := by
        rintro rfl
        exact Std.Irrefl.irrefl _ first
      rw [insertEntry, if_neg above, if_neg differs, inductionHypothesis others, List.cons_append]

end OrderedMap

/-- The documents were inserted into the table one after the other. -/
structure Table.Extends (table last : Table) (documents : List Value) : Prop where
  base : last.base = table.base
  values : last.rows.values = table.rows.values ++ documents
  keys : ∀ row ∈ last.rows.keys,
    row ∈ table.rows.keys ∨ table.nextRow ≤ row ∧ row ∈ last.inserted
  inserted : table.inserted ⊆ last.inserted
  changed : last.changed = table.changed
  nextRow : table.nextRow ≤ last.nextRow

namespace Table

variable {table middle last : Table} {earlier later : List Value}

theorem Extends.refl (table : Table) : table.Extends table [] :=
  ⟨rfl, (List.append_nil _).symm, fun _ => .inl, fun _ => id, rfl, Nat.le_refl _⟩

theorem Extends.trans (first : table.Extends middle earlier) (second : middle.Extends last later) :
    table.Extends last (earlier ++ later) where
  base := second.base.trans first.base
  values := by rw [second.values, first.values, List.append_assoc]
  keys row member := by
    rcases second.keys row member with old | ⟨new, held⟩
    · exact (first.keys row old).imp_right fun ⟨new, held⟩ => ⟨new, second.inserted held⟩
    · exact .inr ⟨Nat.le_trans first.nextRow new, held⟩
  inserted := fun _ held => second.inserted (first.inserted held)
  changed := second.changed.trans first.changed
  nextRow := Nat.le_trans first.nextRow second.nextRow

theorem entries_insert (table : Table) (document : Value) :
    (table.insert document).rows.entries = table.rows.entries ++ [(table.nextRow, document)] := by
  refine OrderedMap.insertEntry_last document fun entry member => ?_
  exact table.fresh entry.1 entry.2 ((table.rows.mem_entries_iff entry.1 entry.2).mp member)

theorem extends_insert (table : Table) (document : Value) :
    table.Extends (table.insert document) [document] where
  base := rfl
  values := by simp [OrderedMap.values, entries_insert]
  keys row member := by
    simp only [OrderedMap.keys, entries_insert, List.map_append, List.mem_append] at member
    refine member.imp_right fun new => ?_
    obtain rfl := List.mem_singleton.mp new
    exact ⟨Nat.le_refl _, List.mem_cons_self⟩
  inserted := fun _ => List.mem_cons_of_mem _
  changed := rfl
  nextRow := Nat.le_succ _

theorem run_inserts (documents : List Value) :
    ∀ {table : Table},
      (∀ document ∈ documents, table.schema.checkDocument document = .ok ()) →
      ∃ last answers, run false (documents.map .insert) table = (last, answers, .finished) ∧
        table.Extends last documents := by
  induction documents with
  | nil => exact fun _ => ⟨_, _, rfl, .refl _⟩
  | cons document rest inductionHypothesis =>
      intro table valid
      obtain ⟨fits, others⟩ := List.forall_mem_cons.mp valid
      obtain ⟨last, answers, ran, further⟩ := @inductionHypothesis (table.insert document) others
      refine ⟨last, .ok (.row table.nextRow) :: answers, ?_,
        (table.extends_insert document).trans further⟩
      simp [run, call, checkDocument, fits, ran]

end Table

namespace Simulation

section Documents

theorem document_eq (index : Nat) :
    document index = .object [("column_long", .nat index),
      ("column_string", .string ("test data " ++ toString index))] := by
  have ordered : ¬ "column_string" < "column_long" := by decide
  have different : "column_string" ≠ "column_long" := by decide
  simp only [document, Value.ofFields, OrderedMap.ofList, OrderedMap.insert, OrderedMap.empty,
    List.foldl_cons, List.foldl_nil, OrderedMap.insertEntry, if_neg ordered, if_neg different]

theorem checkDocument_document (index : Nat) : schema.checkDocument (document index) = .ok () := by
  have long : schema.fieldType? "column_long" = some .int := by
    simp [schema, TableSchema.declare, TableSchema.fieldType?]
  have text : schema.fieldType? "column_string" = some .string := by
    simp [schema, TableSchema.declare, TableSchema.fieldType?]
  simp only [document_eq, TableSchema.checkDocument, TableSchema.checkFields,
    TableSchema.checkField, long, text]
  rfl

theorem check_predicate : predicate.check schema = .ok () := by
  have long : schema.fieldType? "column_long" = some .int := by
    simp [schema, TableSchema.declare, TableSchema.fieldType?]
  simp only [predicate, Predicate.and, Predicate.all, List.nil_append, Predicate.check,
    Predicate.checkConditions, Condition.check, long]
  rfl

theorem holds_document_iff {index : Nat} (small : index < UInt32.size) :
    predicate.holds (document index) = true ↔ index < 10 := by
  have found : (document index).field? "column_long" = some (.number (.integer index)) := by
    rw [document_eq]
    rfl
  have within : (UInt32.size : Int) < Number.signedLimit := by decide
  have signed : (Number.integer index).IsSigned :=
    (Number.isSigned_integer_iff index).mpr (by omega)
  have low : (Number.integer 0).IsSigned := by decide
  have high : (Number.integer 9).IsSigned := by decide
  have met : predicate.holds (document index) = true ↔
      (Number.integer index).AtLeast (.integer 0) ∧ (Number.integer 9).AtLeast (.integer index) :=
    meets_between_iff found
  rw [Number.atLeast_iff_of_signed signed low, Number.atLeast_iff_of_signed high signed,
    Number.units_integer_le, Number.units_integer_le] at met
  rw [met]
  omega

/-- So many rows meet the predicate. -/
theorem length_filter_documents {count : Nat} (small : count ≤ UInt32.size) :
    (((List.range count).map document).filter predicate.holds).length = min count 10 := by
  induction count with
  | zero => rfl
  | succ count inductionHypothesis =>
      rw [List.range_succ, List.map_append, List.filter_append, List.length_append,
        inductionHypothesis (Nat.le_of_succ_le small)]
      have last := holds_document_iff small
      by_cases shown : count < 10
      · simp [last.mpr shown]
        omega
      · have hidden : predicate.holds (document count) = false :=
          Bool.eq_false_iff.mpr (mt last.mp shown)
        simp [hidden]
        omega

end Documents

end Simulation

/-- The table holds so many rows, numbered from zero, and nothing was ever reclaimed. -/
structure Store.Filled (store : Store) (count : Nat) : Prop where
  wellFormed : store.WellFormed
  sound : store.poisoned = false
  schema : store.schema = Simulation.schema
  horizon : store.horizon = VersionStamp.initial
  documents : (store.rowsAt store.authority.current).map (·.2) =
    (List.range count).map Simulation.document

/-- The table holds so many rows afterwards.  If it was changed, these are new ones under the next
version, and else the version stays. -/
structure Store.Turns (before after : Store) (rows : Nat) (changed : Prop) : Prop where
  filled : after.Filled rows
  next : changed → after.authority.current = before.authority.current + 1
  same : ¬ changed → after.authority.current = before.authority.current
  replaced : changed → ∀ row < before.nextRow,
    after.documentAt? row after.authority.current = none

namespace Store

open Simulation

variable {store : Store} {count rows : Nat}

theorem filled_new : (Store.new Simulation.schema).Filled 0 :=
  ⟨wellFormed_new _, rfl, rfl, rfl, rfl⟩

theorem Filled.retention (filled : store.Filled count) (retention : Retention) :
    ({ store with retention } : Store).Filled count :=
  ⟨filled.wellFormed.retention retention, filled.sound, filled.schema, filled.horizon,
    filled.documents⟩

theorem Filled.retained (filled : store.Filled count) {version : VersionStamp}
    (known : version ≤ store.authority.current) : store.Retained version :=
  ⟨filled.horizon ▸ Nat.zero_le version, known⟩

theorem Filled.length_rowsAt (filled : store.Filled count) :
    (store.rowsAt store.authority.current).length = count := by
  have counted := congrArg List.length filled.documents
  simpa using counted

/-- The query finds the first ten rows. -/
theorem Filled.length_rowsMatching (filled : store.Filled count) (small : count ≤ UInt32.size) :
    (store.rowsMatching Simulation.predicate store.authority.current).length = min count 10 := by
  have found := length_filter_documents small
  rw [← filled.documents, List.filter_map, List.length_map] at found
  rw [rowsMatching, List.length_map]
  exact found

theorem Wrote.horizon_eq {after : Store} {script : Script} {report : WriteReport}
    (wrote : store.Wrote script after report) : after.horizon = store.horizon := by
  cases wrote <;> rfl

theorem Wrote.poisoned_eq {after : Store} {script : Script} {report : WriteReport}
    (wrote : store.Wrote script after report)
    (calm : ∀ message, report.commit ≠ .panicked message) : after.poisoned = store.poisoned := by
  cases wrote with
  | @panicked _ _ message => exact absurd rfl (calm message)
  | _ => rfl

theorem Filled.exists_row_iff (filled : store.Filled count) :
    (∃ row, (store.documentAt? row store.authority.current).isSome = true) ↔ 0 < count := by
  rw [← filled.length_rowsAt, List.length_pos_iff_exists_mem]
  constructor
  · rintro ⟨row, visible⟩
    obtain ⟨document, found⟩ := Option.isSome_iff_exists.mp visible
    exact ⟨_, (store.mem_rowsAt row document _).mpr found⟩
  · rintro ⟨⟨row, document⟩, member⟩
    exact ⟨row, Option.isSome_of_eq_some ((store.mem_rowsAt row document _).mp member)⟩

/-- There is something to commit unless the table was empty and stays so. -/
theorem Filled.run_refill (filled : store.Filled count) (rows : Nat) :
    ∃ last answers, Table.run (refill rows).keepGoing (refill rows).calls
        (Table.ofStore store filled.wellFormed) = (last, answers, .finished) ∧
      last.rows.values = (List.range rows).map document ∧
      (∀ row ∈ last.rows.keys, store.nextRow ≤ row) ∧
      (last.Dirty store ↔ 0 < count ∨ 0 < rows) := by
  have valid : ∀ given ∈ (List.range rows).map document,
      (Table.ofStore store filled.wellFormed).clear.schema.checkDocument given = .ok () := by
    intro given member
    obtain ⟨index, _, rfl⟩ := List.mem_map.mp member
    have fits := checkDocument_document index
    rw [← filled.schema] at fits
    exact fits
  obtain ⟨last, answers, ran, longer⟩ := Table.run_inserts _ valid
  have values : last.rows.values = (List.range rows).map document := longer.values
  have fresh : ∀ row ∈ last.rows.keys, store.nextRow ≤ row ∧ row ∈ last.inserted :=
    fun row member => (longer.keys row member).resolve_left List.not_mem_nil
  refine ⟨last, .ok .done :: answers, ?_, values, fun row member => (fresh row member).1, ?_⟩
  · have calls : (refill rows).calls = .clear :: ((List.range rows).map document).map .insert := by
      simp [refill]
    have stops : (refill rows).keepGoing = false := rfl
    rw [calls, stops]
    simp only [Table.run, Table.call, ran]
  · have base : last.base = store.authority.current := longer.base
    have changed : ∀ row, row ∈ last.changed ↔
        (store.documentAt? row store.authority.current).isSome = true := by
      intro row
      have old : last.changed = (store.tableAt store.authority.current).keys :=
        longer.changed.trans (List.append_nil _)
      rw [old, OrderedMap.mem_keys_iff, Store.find?_tableAt]
    have listed : (∃ row ∈ last.inserted, (last.rows.find? row).isSome = true) ↔ 0 < rows := by
      have nonempty : 0 < rows ↔ last.rows.keys ≠ [] := by
        rw [ne_eq, ← OrderedMap.values_eq_nil_iff, values]
        simp [Nat.pos_iff_ne_zero]
      rw [nonempty]
      constructor
      · rintro ⟨row, _, there⟩
        exact List.ne_nil_of_mem ((last.rows.mem_keys_iff row).mpr there)
      · intro some
        obtain ⟨row, member⟩ := List.exists_mem_of_ne_nil _ some
        exact ⟨row, (fresh row member).2, (last.rows.mem_keys_iff row).mp member⟩
    rw [Table.Dirty, base, listed, ← filled.exists_row_iff]
    simp [changed]

theorem Filled.refill (filled : store.Filled count) (rows : Nat) :
    store.Turns (store.write (Simulation.refill rows)).1 rows (0 < count ∨ 0 < rows) ∧
      ((∃ version changes,
          (store.write (Simulation.refill rows)).2.commit = .committed version changes) ∨
        ∃ version, (store.write (Simulation.refill rows)).2.commit = .unchanged version) := by
  have wrote := store.wrote_write (Simulation.refill rows)
  have explained := filled.wellFormed.explains wrote
  obtain ⟨last, answers, ran, values, fresh, dirty⟩ := filled.run_refill rows
  generalize (store.write (Simulation.refill rows)).1 = after at *
  generalize (store.write (Simulation.refill rows)).2 = report at *
  have finishes : (Simulation.refill rows).abort = none := rfl
  simp only [Table.Explains, ran, filled.sound, Bool.false_eq_true, if_false, finishes] at explained
  obtain ⟨-, committed, clean, dirtied⟩ := explained
  by_cases changes : 0 < count ∨ 0 < rows
  · obtain ⟨version, table, nextRow, -⟩ := dirtied (dirty.mpr changes)
    obtain ⟨number, commit⟩ := committed.mpr (dirty.mpr changes)
    refine ⟨⟨⟨filled.wellFormed.wrote wrote, ?_, ?_, ?_, ?_⟩, fun _ => version,
      absurd changes, ?_⟩, .inl ⟨_, number, commit⟩⟩
    · rw [wrote.poisoned_eq fun message => by rw [commit]; exact nofun]
      exact filled.sound
    · exact wrote.precedes.schema.trans filled.schema
    · exact wrote.horizon_eq.trans filled.horizon
    · rw [version, table]
      exact values
    · intro _ row known
      rw [version]
      by_contra visible
      obtain ⟨document, found⟩ := Option.ne_none_iff_exists'.mp visible
      have entry := (after.mem_rowsAt row document _).mpr found
      rw [table] at entry
      exact absurd (fresh row (List.mem_map_of_mem entry)) (Nat.not_le.mpr known)
  · obtain ⟨commit, rfl⟩ := clean (mt dirty.mp changes)
    obtain ⟨rfl, rfl⟩ : count = 0 ∧ rows = 0 := by omega
    exact ⟨⟨filled, fun some => absurd some changes, fun _ => rfl, fun some => absurd some changes⟩,
      .inr ⟨_, commit⟩⟩

end Store

end SnapshotQuery
