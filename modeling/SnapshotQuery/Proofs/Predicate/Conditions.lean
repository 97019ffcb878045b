import SnapshotQuery.Predicate
import SnapshotQuery.Proofs.OrderedMap

/-!
# How conditions are decided

A document that fits its schema holds values of the declared types, and a
predicate that is accepted compares a field with operands of its type only.
Between two such values the order is always defined, so that no condition is
lost: it holds or its opposite does.
-/

namespace SnapshotQuery

/-- The document meets a single condition on a field. -/
def Value.meets (document : Value) (field : String) (op : FilterOp) : Bool :=
  (Predicate.all.and field op).holds document

/-- A single condition on a field is accepted. -/
def TableSchema.Admits (schema : TableSchema) (field : String) (op : FilterOp) : Prop :=
  (Predicate.all.and field op).check schema = .ok ()

variable {schema : TableSchema} {document value operand : Value} {field : String} {op : FilterOp}
  {type : FieldType}

section Acceptance

theorem Condition.check_eq_ok_iff (condition : Condition) (schema : TableSchema) :
    condition.check schema = .ok () ↔
      ∃ type, schema.fieldType? condition.field = some type ∧
        (∀ operand ∈ condition.op.operands, type.accepts operand = true) ∧
          (condition.op.isRange = true → type ≠ .bool) := by
  unfold Condition.check
  cases schema.fieldType? condition.field with
  | none => simp
  | some type =>
      cases refused : condition.op.operands.find? fun operand => !type.accepts operand with
      | some operand =>
          have unfit := List.find?_some refused
          simp only [refused, reduceCtorEq, Option.some.injEq, exists_eq_left', false_iff, not_and]
          intro fit
          rw [fit operand (List.mem_of_find?_eq_some refused)] at unfit
          exact absurd unfit Bool.false_ne_true
      | none =>
          have fit := List.find?_eq_none.mp refused
          simp only [refused, Option.some.injEq, exists_eq_left']
          by_cases barred : condition.op.isRange = true ∧ type = .bool
          · simp [barred]
          · have allowed : (condition.op.isRange && type == .bool) = false := by simpa using barred
            simp only [allowed, Bool.false_eq_true, if_false, true_iff]
            exact ⟨by simpa using fit, not_and.mp barred⟩

theorem Predicate.check_eq_ok_iff (predicate : Predicate) (schema : TableSchema) :
    predicate.check schema = .ok () ↔
      ∀ condition ∈ predicate.conditions, condition.check schema = .ok () := by
  obtain ⟨conditions⟩ := predicate
  simp only [Predicate.check]
  induction conditions with
  | nil => simp [Predicate.checkConditions]
  | cons condition rest inductionHypothesis =>
      rw [List.forall_mem_cons, ← inductionHypothesis, Predicate.checkConditions]
      cases condition.check schema <;> simp

theorem admits_iff_check : schema.Admits field op ↔
    (⟨field, op⟩ : Condition).check schema = .ok () := by
  simp [TableSchema.Admits, Predicate.check_eq_ok_iff, Predicate.and, Predicate.all]

theorem admits_iff (declared : schema.fieldType? field = some type) :
    schema.Admits field op ↔
      (∀ operand ∈ op.operands, type.accepts operand = true) ∧
        (op.isRange = true → type ≠ .bool) := by
  rw [admits_iff_check, Condition.check_eq_ok_iff]
  simp [declared]

/-- The value of a field of a document that fits is null or of the declared type. -/
theorem accepts_of_checkDocument (fits : schema.checkDocument document = .ok ())
    (found : document.field? field = some value) (present : value.isNull = false)
    (declared : schema.fieldType? field = some type) : type.accepts value = true := by
  cases document with
  | object fields =>
      simp only [TableSchema.checkDocument] at fits
      simp only [Value.field?] at found
      induction fields with
      | nil => cases found
      | cons entry rest inductionHypothesis =>
          obtain ⟨key, held⟩ := entry
          rw [OrderedMap.lookup_cons] at found
          rw [TableSchema.checkFields] at fits
          cases checked : schema.checkField key held with
          | error fault => simp [checked] at fits
          | ok =>
              simp only [checked] at fits
              split_ifs at found with here
              · obtain rfl := Option.some.inj found
                obtain rfl : field = key := here
                simpa [TableSchema.checkField, declared, present] using checked
              · exact inductionHypothesis fits found
  | _ => cases found

end Acceptance

section Decision

theorem meets_eq_holds : document.meets field op = (⟨field, op⟩ : Condition).holds document := by
  simp [Value.meets, Predicate.holds, Predicate.and, Predicate.all]

theorem meets_of_missing (missing : ∀ value ∈ document.field? field, value.isNull = true) :
    document.meets field op = false := by
  rw [meets_eq_holds, Condition.holds]
  cases found : document.field? field with
  | none => rfl
  | some value => simp [missing value found]

theorem meets_of_found (found : document.field? field = some value)
    (present : value.isNull = false) : document.meets field op = op.holds value := by
  rw [meets_eq_holds, Condition.holds]
  simp [found, present]

/-- Values of one type that is not bool are ordered, and equal where the order says so. -/
theorem exists_order (accepts : type.accepts value = true) (accepts' : type.accepts operand = true)
    (ordered : type ≠ .bool) :
    ∃ order, value.compare? operand = some order ∧
      value.matchesExactly operand = (order == .eq) := by
  cases type with
  | bool => exact absurd rfl ordered
  | string =>
      cases value <;> simp only [FieldType.accepts, Bool.false_eq_true] at accepts
      cases operand <;> simp only [FieldType.accepts, Bool.false_eq_true] at accepts'
      rename_i left right
      refine ⟨_, rfl, ?_⟩
      simp only [Value.matchesExactly, Value.same, compareOfLessAndEq]
      split_ifs with less same
      · exact beq_eq_false_iff_ne.mpr fun same => String.lt_irrefl right (same ▸ less)
      · simp [same]
      · simp [same]
  | int | float =>
      cases value <;> simp only [FieldType.accepts, Bool.false_eq_true] at accepts
      cases operand <;> simp only [FieldType.accepts, Bool.false_eq_true] at accepts'
      exact ⟨_, rfl, rfl⟩

/-- A field that is not bool is compared with an operand, and the tests of the order agree. -/
structure Compared (document : Value) (field : String) (operand : Value) : Prop where
  comparable : ∃ value order,
    document.field? field = some value ∧ value.compare? operand = some order
  exactly_one : [document.meets field (.lt operand), document.meets field (.eq operand),
    document.meets field (.gt operand)].count true = 1
  gte_eq_not_lt : document.meets field (.gte operand) = !document.meets field (.lt operand)
  lte_eq_not_gt : document.meets field (.lte operand) = !document.meets field (.gt operand)

/-- How a document answers the conditions on a field of a type. -/
structure Decided (schema : TableSchema) (document : Value) (field : String)
    (type : FieldType) : Prop where
  absent : (∀ value ∈ document.field? field, value.isNull = true) →
    ∀ op, document.meets field op = false
  admits_ordered_iff : type ≠ .bool →
    ∀ op, schema.Admits field op ↔ ∀ operand ∈ op.operands, type.accepts operand = true
  compared : type ≠ .bool → ∀ value, document.field? field = some value → value.isNull = false →
    ∀ operand, type.accepts operand = true → Compared document field operand
  between_eq : ∀ low high, document.meets field (.between low high) =
    (document.meets field (.gte low) && document.meets field (.lte high))
  admits_flag_iff : type = .bool → ∀ op, schema.Admits field op ↔ ∃ flag, op = .eq (.bool flag)
  meets_flag_iff : type = .bool → ∀ flag, document.meets field (.eq (.bool flag)) = true ↔
    document.field? field = some (.bool flag)

theorem compared_of_accepts (accepts : type.accepts value = true)
    (accepts' : type.accepts operand = true) (ordered : type ≠ .bool)
    (found : document.field? field = some value) (present : value.isNull = false) :
    Compared document field operand := by
  obtain ⟨order, compared, matched⟩ := exists_order accepts accepts' ordered
  have met : ∀ op, document.meets field op = op.holds value := fun _ =>
    meets_of_found found present
  refine ⟨⟨value, order, found, compared⟩, ?_, ?_, ?_⟩
  all_goals
    simp only [met, FilterOp.holds, FilterOp.ordered, compared, matched, Option.map_some,
      Option.getD_some]
    cases order <;> rfl

theorem meets_between (low high : Value) : document.meets field (.between low high) =
    (document.meets field (.gte low) && document.meets field (.lte high)) := by
  simp only [meets_eq_holds, Condition.holds]
  cases document.field? field with
  | none => rfl
  | some value => cases present : value.isNull <;> simp [present, FilterOp.holds]

theorem admits_flag_iff (declared : schema.fieldType? field = some .bool) :
    schema.Admits field op ↔ ∃ flag, op = .eq (.bool flag) := by
  rw [admits_iff declared]
  constructor
  · rintro ⟨accepts, notRange⟩
    cases op with
    | eq operand =>
        have accepted := accepts operand List.mem_cons_self
        cases operand with
        | bool flag => exact ⟨flag, rfl⟩
        | _ => exact absurd accepted Bool.false_ne_true
    | _ => exact absurd rfl (notRange rfl)
  · rintro ⟨flag, rfl⟩
    exact ⟨by simp [FilterOp.operands, FieldType.accepts], nofun⟩

theorem meets_flag_iff (fits : schema.checkDocument document = .ok ())
    (declared : schema.fieldType? field = some .bool) (flag : Bool) :
    document.meets field (.eq (.bool flag)) = true ↔
      document.field? field = some (.bool flag) := by
  by_cases missing : ∀ value ∈ document.field? field, value.isNull = true
  · rw [meets_of_missing missing]
    exact iff_of_false Bool.false_ne_true fun found => absurd (missing _ found) Bool.false_ne_true
  · obtain ⟨value, found, notNull⟩ : ∃ value, document.field? field = some value ∧
        ¬value.isNull = true := by simpa using missing
    have present := Bool.eq_false_of_not_eq_true notNull
    have held := accepts_of_checkDocument fits found present declared
    rw [meets_of_found found present, found]
    cases value with
    | bool held => simp [FilterOp.holds, Value.matchesExactly, Value.same]
    | _ => exact absurd held Bool.false_ne_true

/-- Every declared field of a document that fits is decided. -/
theorem decided_of_declared (fits : schema.checkDocument document = .ok ())
    (declared : schema.fieldType? field = some type) : Decided schema document field type where
  absent missing _ := meets_of_missing missing
  admits_ordered_iff ordered op := by rw [admits_iff declared]; simp [ordered]
  compared ordered _ found present _ accepts :=
    compared_of_accepts (accepts_of_checkDocument fits found present declared) accepts ordered
      found present
  between_eq := meets_between
  admits_flag_iff flag _ := admits_flag_iff (flag ▸ declared)
  meets_flag_iff flag := meets_flag_iff fits (flag ▸ declared)

variable {predicate : Predicate}

/-- Where a document fits and a predicate is accepted, every condition is decided, and the
predicate holds exactly if every condition is met. -/
theorem conditions_decided (fits : schema.checkDocument document = .ok ())
    (accepted : predicate.check schema = .ok ()) :
    predicate.holds document =
        (predicate.conditions.all fun condition => document.meets condition.field condition.op) ∧
      ∀ condition ∈ predicate.conditions, ∃ type,
        schema.fieldType? condition.field = some type ∧
          schema.Admits condition.field condition.op ∧
            Decided schema document condition.field type := by
  refine ⟨by simp only [meets_eq_holds]; rfl, fun condition among => ?_⟩
  have checked := (Predicate.check_eq_ok_iff predicate schema).mp accepted condition among
  obtain ⟨type, declared, -⟩ := (Condition.check_eq_ok_iff condition schema).mp checked
  exact ⟨type, declared, admits_iff_check.mpr checked, decided_of_declared fits declared⟩

theorem conditions_decided_of_order :
    let schema := ((TableSchema.new "orders").declare "amount" .float).declare "paid" .bool
    let document := Value.object [("amount", .integer 3), ("paid", .bool true)]
    let predicate := (Predicate.all.and "amount"
      (.between (.integer 3) (.number (.float (Binary64.ofInt 4))))).and "paid" (.eq (.bool true))
    schema.checkDocument document = .ok () ∧ predicate.check schema = .ok () ∧
      predicate.holds document = true ∧
      Compared document "amount" (.number (.float (Binary64.ofInt 4))) := by
  intro schema document predicate
  have decided := @conditions_decided schema document predicate rfl rfl
  obtain ⟨type, declared, -, amount⟩ := decided.2 _ (List.mem_cons_self ..)
  obtain rfl : FieldType.float = type := Option.some.inj declared
  exact ⟨rfl, rfl, by decide +kernel, amount.compared (by decide) _ rfl rfl _ rfl⟩

end Decision

end SnapshotQuery
