import SnapshotQuery.Proofs.Number.Order
import SnapshotQuery.Proofs.Predicate.Conditions

/-!
# Conditions on numbers

A condition on a number asks for the order of two numbers, and that order is the
one of the values wherever the two are told apart.  Integers beyond the signed
64-bit range may be taken for one of their neighbours, and a float may be taken
for several signed integers at once, which no order of the values allows.
-/

namespace SnapshotQuery

open Number

variable {schema : TableSchema} {document : Value} {field : String} {op : FilterOp}
  {number operand low high : Number}

section Tests

theorem meets_of_number (found : document.field? field = some (.number number)) :
    document.meets field op = op.holds (.number number) :=
  meets_of_found found rfl

theorem meets_eq_iff (found : document.field? field = some (.number number)) :
    document.meets field (.eq (.number operand)) = true ↔
      number.AtLeast operand ∧ operand.AtLeast number := by
  rw [meets_of_number found, ← compare_eq_iff]
  exact beq_iff_eq

theorem meets_gte_iff (found : document.field? field = some (.number number)) :
    document.meets field (.gte (.number operand)) = true ↔ number.AtLeast operand := by
  rw [meets_of_number found]
  rfl

theorem meets_lt_iff (found : document.field? field = some (.number number)) :
    document.meets field (.lt (.number operand)) = true ↔ ¬number.AtLeast operand := by
  rw [meets_of_number found, AtLeast]
  change (number.compare operand).isLT = true ↔ _
  cases number.compare operand <;> decide

theorem meets_lte_iff (found : document.field? field = some (.number number)) :
    document.meets field (.lte (.number operand)) = true ↔ operand.AtLeast number := by
  rw [meets_of_number found, AtLeast, ← compare_swap]
  change (number.compare operand).isLE = true ↔ _
  cases number.compare operand <;> decide

theorem meets_gt_iff (found : document.field? field = some (.number number)) :
    document.meets field (.gt (.number operand)) = true ↔ ¬operand.AtLeast number := by
  rw [meets_of_number found, AtLeast, ← compare_swap]
  change (number.compare operand).isGT = true ↔ _
  cases number.compare operand <;> decide

theorem meets_between_iff (found : document.field? field = some (.number number)) :
    document.meets field (.between (.number low) (.number high)) = true ↔
      number.AtLeast low ∧ high.AtLeast number := by
  rw [meets_between, Bool.and_eq_true, meets_gte_iff found, meets_lte_iff found]

end Tests

section Integers

/-- What an operation with integer operands asks of an integer. -/
def FilterOp.Asks (value : Int) : FilterOp → Prop
  | .eq (.number (.integer operand)) => value = operand
  | .gte (.number (.integer bound)) => bound ≤ value
  | .gt (.number (.integer bound)) => bound < value
  | .lte (.number (.integer bound)) => value ≤ bound
  | .lt (.number (.integer bound)) => value < bound
  | .between (.number (.integer low)) (.number (.integer high)) => low ≤ value ∧ value ≤ high
  | _ => False

theorem exists_integer_of_accepts {operand : Value}
    (accepts : FieldType.int.accepts operand = true) : ∃ bound, operand = .integer bound := by
  cases operand with
  | number number =>
      cases number with
      | integer bound => exact ⟨bound, rfl⟩
      | float bound => exact absurd accepts Bool.false_ne_true
  | _ => exact absurd accepts Bool.false_ne_true

variable {value : Int}

theorem meets_iff_asks (found : document.field? field = some (.integer value))
    (range : InRange value)
    (accepts : ∀ operand ∈ op.operands, FieldType.int.accepts operand = true)
    (told : ∀ bound, Value.integer bound ∈ op.operands →
      InRange bound ∧ (Number.integer value).Told (.integer bound)) :
    document.meets field op = true ↔ op.Asks value := by
  have exact : ∀ operand ∈ op.operands, ∃ bound, operand = .number (.integer bound) ∧
      ((Number.integer value).AtLeast (.integer bound) ↔ bound ≤ value) ∧
        ((Number.integer bound).AtLeast (.integer value) ↔ value ≤ bound) := fun operand among => by
    obtain ⟨bound, rfl⟩ := exists_integer_of_accepts (accepts operand among)
    obtain ⟨inside, apart⟩ := told bound among
    have valid : (Number.integer value).Valid := range
    have valid' : (Number.integer bound).Valid := inside
    refine ⟨bound, rfl, ?_, ?_⟩
    · rw [atLeast_iff_of_told valid valid' apart, units_integer_le]
    · rw [atLeast_iff_of_told valid' valid apart.symm, units_integer_le]
  cases op with
  | eq operand =>
      obtain ⟨bound, rfl, above, below⟩ := exact operand List.mem_cons_self
      rw [meets_eq_iff found, above, below, FilterOp.Asks]
      omega
  | gte bound =>
      obtain ⟨bound, rfl, above, -⟩ := exact bound List.mem_cons_self
      rw [meets_gte_iff found, above, FilterOp.Asks]
  | gt bound =>
      obtain ⟨bound, rfl, -, below⟩ := exact bound List.mem_cons_self
      rw [meets_gt_iff found, below, FilterOp.Asks, Int.not_le]
  | lte bound =>
      obtain ⟨bound, rfl, -, below⟩ := exact bound List.mem_cons_self
      rw [meets_lte_iff found, below, FilterOp.Asks]
  | lt bound =>
      obtain ⟨bound, rfl, above, -⟩ := exact bound List.mem_cons_self
      rw [meets_lt_iff found, above, FilterOp.Asks, Int.not_le]
  | between low high =>
      obtain ⟨low, rfl, above, -⟩ := exact low List.mem_cons_self
      obtain ⟨high, rfl, -, below⟩ := exact high (List.mem_cons_of_mem _ List.mem_cons_self)
      rw [meets_between_iff found, above, below, FilterOp.Asks]

/-- Conditions on an int field compare integers by value where the two are told apart, and
only there: an integer is taken to equal every one that it is not told apart from. -/
theorem integer_conditions_exact (declared : schema.fieldType? field = some .int)
    (found : document.field? field = some (.integer value)) (range : InRange value) :
    (∀ op, schema.Admits field op →
        (∀ bound, Value.integer bound ∈ op.operands →
          InRange bound ∧ (Number.integer value).Told (.integer bound)) →
        (document.meets field op = true ↔ op.Asks value)) ∧
      ∀ bound, ¬(Number.integer value).Told (.integer bound) →
        value ≠ bound ∧ document.meets field (.eq (.integer bound)) = true := by
  refine ⟨fun op admitted told => ?_, fun bound confused => ⟨?_, ?_⟩⟩
  · exact meets_iff_asks found range ((admits_iff declared).mp admitted).1 told
  · rintro rfl
    exact confused (.inr (.inl rfl))
  · exact (meets_of_number found).trans (beq_iff_eq.mpr (compare_of_not_told confused))

theorem integer_conditions_exact_of_unsigned :
    let schema := (TableSchema.new "t").declare "n" .int
    let document := Value.object [("n", .integer (2 ^ 63))]
    let range := FilterOp.between (.integer (-5)) (.integer (2 ^ 64 - 1))
    schema.fieldType? "n" = some .int ∧ InRange (2 ^ 63) ∧ schema.Admits "n" range ∧
      (document.meets "n" range = true ↔ range.Asks (2 ^ 63)) ∧ range.Asks (2 ^ 63) := by
  intro schema document range
  have exact := @integer_conditions_exact schema document "n" (2 ^ 63) rfl rfl (by decide)
  have admitted : schema.Admits "n" range := rfl
  have asked : (-5 : Int) ≤ 2 ^ 63 ∧ (2 : Int) ^ 63 ≤ 2 ^ 64 - 1 := by decide
  refine ⟨rfl, by decide, admitted, exact.1 range admitted fun bound among => ?_, asked⟩
  have either : bound = -5 ∨ bound = 2 ^ 64 - 1 := by
    simpa [range, FilterOp.operands, Value.integer] using among
  obtain rfl | rfl := either
  · exact ⟨by decide, .inr (.inr (by decide +kernel))⟩
  · exact ⟨by decide, .inr (.inr (by decide +kernel))⟩

/-- Above the signed range an integer equals its neighbour, and lies between bounds of
which the low one is above the high one. -/
theorem neighbours_not_told_apart :
    let schema := (TableSchema.new "t").declare "n" .int
    let document := Value.object [("n", .integer (2 ^ 63 + 1))]
    let same := FilterOp.eq (.integer (2 ^ 63))
    let range := FilterOp.between (.integer (2 ^ 63 + 2)) (.integer (2 ^ 63))
    schema.checkDocument document = .ok () ∧ schema.Admits "n" same ∧ schema.Admits "n" range ∧
      InRange (2 ^ 63) ∧ InRange (2 ^ 63 + 1) ∧ InRange (2 ^ 63 + 2) ∧
      ¬(document.meets "n" same = true ↔ same.Asks (2 ^ 63 + 1)) ∧
        ¬(document.meets "n" range = true ↔ range.Asks (2 ^ 63 + 1)) := by
  intro schema document same range
  have equal : document.meets "n" same = true := by decide +kernel
  have inside : document.meets "n" range = true := by decide +kernel
  exact ⟨rfl, rfl, rfl, by decide, by decide, by decide,
    fun exact => absurd (exact.mp equal) (show ¬(2 : Int) ^ 63 + 1 = 2 ^ 63 by decide),
    fun exact => absurd (exact.mp inside).1 (by decide)⟩

end Integers

section Coherence

/-- The order that conditions on a field find among numbers is one of their values: a total
preorder that takes a number for every other of its value.  `document` holds each number
in the field. -/
structure CoherentOrder (document : Number → Value) (field : String) (numbers : Number → Prop) :
    Prop where
  refl : ∀ number, numbers number → (document number).meets field (.gte (.number number)) = true
  total : ∀ left right, numbers left → numbers right →
    (document left).meets field (.gte (.number right)) = true ∨
      (document right).meets field (.gte (.number left)) = true
  trans : ∀ left middle right, numbers left → numbers middle → numbers right →
    (document left).meets field (.gte (.number middle)) = true →
      (document middle).meets field (.gte (.number right)) = true →
        (document left).meets field (.gte (.number right)) = true
  eq_iff : ∀ left right, numbers left → numbers right →
    ((document left).meets field (.eq (.number right)) = true ↔
      (document left).meets field (.gte (.number right)) = true ∧
        (document right).meets field (.gte (.number left)) = true)
  replace : ∀ left left' right right', numbers left → numbers left' → numbers right →
    numbers right' → left.units = left'.units → right.units = right'.units →
      ∀ op ∈ ([.eq, .gte, .gt, .lte, .lt] : List (Value → FilterOp)),
        (document left).meets field (op (.number right)) =
          (document left').meets field (op (.number right'))
  replace_between : ∀ number low low' high high', numbers number → numbers low → numbers low' →
    numbers high → numbers high' → low.units = low'.units → high.units = high'.units →
      (document number).meets field (.between (.number low) (.number high)) =
        (document number).meets field (.between (.number low') (.number high'))
  widen : ∀ number low low' high high', numbers number → numbers low → numbers low' →
    numbers high → numbers high' →
      (document low).meets field (.gte (.number low')) = true →
        (document high').meets field (.gte (.number high)) = true →
          (document number).meets field (.between (.number low) (.number high)) = true →
            (document number).meets field (.between (.number low') (.number high')) = true
  reversed : ∀ number low high, numbers number → numbers low → numbers high →
    (document low).meets field (.gt (.number high)) = true →
      (document number).meets field (.between (.number low) (.number high)) = false

theorem accepts_float_iff {operand : Value} :
    FieldType.float.accepts operand = true ↔ ∃ number, operand = .number number := by
  cases operand <;> simp [FieldType.accepts]

variable {numbers : Number → Prop} {left right left' right' middle : Number}

/-- Where the comparison is transitive, it does not tell numbers of one value apart. -/
theorem atLeast_congr (valid : ∀ number, numbers number → number.Valid)
    (unmixed : Unmixed numbers) (amongLeft : numbers left) (amongLeft' : numbers left')
    (amongRight : numbers right) (amongRight' : numbers right') (same : left.units = left'.units)
    (same' : right.units = right'.units) : left.AtLeast right ↔ left'.AtLeast right' := by
  have exchange : ∀ {upper upper' lower lower' : Number}, numbers upper → numbers upper' →
      numbers lower → numbers lower' → upper.units = upper'.units →
        lower.units = lower'.units → upper.AtLeast lower → upper'.AtLeast lower' := by
    intro upper upper' lower lower' amongUpper amongUpper' amongLower amongLower' same same' atLeast
    have up : upper'.AtLeast upper :=
      atLeast_of_units_le (valid _ amongUpper') (valid _ amongUpper) (by omega)
    have down : lower.AtLeast lower' :=
      atLeast_of_units_le (valid _ amongLower) (valid _ amongLower') (by omega)
    exact (up.trans valid unmixed amongUpper' amongUpper amongLower atLeast).trans valid unmixed
      amongUpper' amongLower amongLower' down
  exact ⟨exchange amongLeft amongLeft' amongRight amongRight' same same',
    exchange amongLeft' amongLeft amongRight' amongRight same.symm same'.symm⟩

theorem coherent_of_unmixed {document : Number → Value}
    (found : ∀ number, (document number).field? field = some (.number number))
    (valid : ∀ number, numbers number → number.Valid) (unmixed : Unmixed numbers) :
    CoherentOrder document field numbers where
  refl number _ := (meets_gte_iff (found number)).mpr (AtLeast.refl number)
  total left right _ _ := by
    rw [meets_gte_iff (found left), meets_gte_iff (found right)]
    exact AtLeast.total left right
  trans left middle right amongLeft amongMiddle amongRight first second := by
    rw [meets_gte_iff (found _)] at first second ⊢
    exact first.trans valid unmixed amongLeft amongMiddle amongRight second
  eq_iff left right _ _ := by
    rw [meets_eq_iff (found left), meets_gte_iff (found left), meets_gte_iff (found right)]
  replace left left' right right' amongLeft amongLeft' amongRight amongRight' same same' op
      among := by
    have above := atLeast_congr valid unmixed amongLeft amongLeft' amongRight amongRight' same same'
    have below := atLeast_congr valid unmixed amongRight amongRight' amongLeft amongLeft' same' same
    simp only [List.mem_cons, List.not_mem_nil, or_false] at among
    rw [Bool.eq_iff_iff]
    obtain rfl | rfl | rfl | rfl | rfl := among
    · rw [meets_eq_iff (found left), meets_eq_iff (found left'), above, below]
    · rw [meets_gte_iff (found left), meets_gte_iff (found left'), above]
    · rw [meets_gt_iff (found left), meets_gt_iff (found left'), below]
    · rw [meets_lte_iff (found left), meets_lte_iff (found left'), below]
    · rw [meets_lt_iff (found left), meets_lt_iff (found left'), above]
  replace_between number low low' high high' among amongLow amongLow' amongHigh amongHigh'
      same same' := by
    rw [Bool.eq_iff_iff, meets_between_iff (found number), meets_between_iff (found number),
      atLeast_congr valid unmixed among among amongLow amongLow' rfl same,
      atLeast_congr valid unmixed amongHigh amongHigh' among among same' rfl]
  widen number low low' high high' among amongLow amongLow' amongHigh amongHigh' down up
      inside := by
    rw [meets_gte_iff (found _)] at down up
    rw [meets_between_iff (found number)] at inside ⊢
    exact ⟨inside.1.trans valid unmixed among amongLow amongLow' down,
      up.trans valid unmixed amongHigh' amongHigh among inside.2⟩
  reversed number low high among amongLow amongHigh above := by
    rw [meets_gt_iff (found low)] at above
    rw [Bool.eq_false_iff, Ne, meets_between_iff (found number)]
    exact fun inside => above (inside.2.trans valid unmixed amongHigh among amongLow inside.1)

theorem unmixed_of_coherent {document : Number → Value}
    (found : ∀ number, (document number).field? field = some (.number number))
    (coherent : CoherentOrder document field numbers) : Unmixed numbers := by
  intro first second other among among' among'' signed signed' notSigned same same'
  -- the number that is not signed is at both ends of either step
  have step : ∀ upper lower, numbers upper → numbers lower → upper.rounded = other.rounded →
      lower.rounded = other.rounded → upper.AtLeast lower := by
    intro upper lower amongUpper amongLower sameUpper sameLower
    have trans := coherent.trans upper other lower amongUpper among'' amongLower
    rw [meets_gte_iff (found _), meets_gte_iff (found _), meets_gte_iff (found _)] at trans
    refine trans ((atLeast_iff_of_not_signed (notSigned ·.2)).mpr (by omega))
      ((atLeast_iff_of_not_signed (notSigned ·.1)).mpr (by omega))
  have above := step first second among among' same same'
  have below := step second first among' among same' same
  rw [atLeast_iff_of_signed signed signed'] at above
  rw [atLeast_iff_of_signed signed' signed] at below
  omega

/-- A float field admits every condition on numbers and never reverses the order of their
values.  The order its conditions find among some numbers is coherent exactly if these are
not mixed. -/
theorem number_order_coherent_iff {document : Number → Value}
    (declared : schema.fieldType? field = some .float)
    (found : ∀ number, (document number).field? field = some (.number number))
    (valid : ∀ number, numbers number → number.Valid) :
    (∀ op, schema.Admits field op ↔ ∀ operand ∈ op.operands, ∃ number, operand = .number number) ∧
      (∀ left right, numbers left → numbers right → right.units ≤ left.units →
        (document left).meets field (.gte (.number right)) = true) ∧
      (CoherentOrder document field numbers ↔ Unmixed numbers) := by
  refine ⟨fun op => ?_, fun left right among among' le => ?_,
    unmixed_of_coherent found, coherent_of_unmixed found valid⟩
  · rw [admits_iff declared]
    simp [accepts_float_iff]
  · exact (meets_gte_iff (found left)).mpr (atLeast_of_units_le (valid _ among) (valid _ among') le)

theorem number_order_coherent_iff_of_one_signed :
    let schema := (TableSchema.new "t").declare "f" .float
    let document := fun number : Number => Value.object [("f", .number number)]
    let numbers := fun number : Number => number = .integer (2 ^ 53) ∨
      number = .float (Binary64.ofInt (2 ^ 53)) ∨ number = .integer (2 ^ 63 + 1)
    schema.fieldType? "f" = some .float ∧ (∀ number, numbers number → number.Valid) ∧
      CoherentOrder document "f" numbers := by
  intro schema document numbers
  have valid : ∀ number, numbers number → number.Valid := by
    rintro number (rfl | rfl | rfl) <;> decide +kernel
  have one : ∀ number, numbers number → number.IsSigned → number = .integer (2 ^ 53) := by
    rintro number (rfl | rfl | rfl) signed
    · rfl
    · exact absurd signed (by decide)
    · exact absurd signed (by decide)
  refine ⟨rfl, valid, (@number_order_coherent_iff schema "f" numbers document rfl
    (fun _ => rfl) valid).2.2.mpr ?_⟩
  intro first second _ among among' _ signed signed' _ _ _
  rw [one first among signed, one second among' signed']

/-- A float equals two integers of which the greater bounds a range from below. -/
theorem reversed_range_met :
    let schema := (TableSchema.new "t").declare "f" .float
    let document := fun number : Number => Value.object [("f", .number number)]
    let low := Number.integer (2 ^ 53 + 1)
    let high := Number.integer (2 ^ 53)
    let number := Number.float (Binary64.ofInt (2 ^ 53))
    low.Valid ∧ high.Valid ∧ number.Valid ∧ schema.checkDocument (document number) = .ok () ∧
      schema.Admits "f" (.between (.number low) (.number high)) ∧
      (document low).meets "f" (.gt (.number high)) = true ∧
      (document number).meets "f" (.between (.number low) (.number high)) = true ∧
      ¬CoherentOrder document "f" Valid := by
  intro schema document low high number
  have lowValid : low.Valid := by decide
  have highValid : high.Valid := by decide
  have valid : number.Valid := by decide +kernel
  have above : (document low).meets "f" (.gt (.number high)) = true := by decide +kernel
  have inside : (document number).meets "f" (.between (.number low) (.number high)) = true := by
    decide +kernel
  refine ⟨lowValid, highValid, valid, rfl, rfl, above, inside, fun coherent => ?_⟩
  exact Bool.false_ne_true
    ((coherent.reversed number low high valid lowValid highValid above).symm.trans inside)

end Coherence

end SnapshotQuery
