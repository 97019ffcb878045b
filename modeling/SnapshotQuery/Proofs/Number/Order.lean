import SnapshotQuery.Proofs.Number.Rounding

/-!
# The order of numbers

Signed 64-bit integers are compared exactly and all other numbers after
rounding.  The comparison never reverses the order of the values, but numbers
of different values may come out as equal.
-/

namespace SnapshotQuery.Number

/-- The exact value, as a multiple of the least positive binary64 number. -/
def units : Number → Int
  | integer value => value * Binary64.unitsOfOne
  | float value => value.units

/-- The value of the nearest binary64 number, in the same units. -/
def rounded (number : Number) : Int := number.toBinary64.units

/-- What a document can hold: an integer of 64 bits or a finite binary64 number. -/
def Valid : Number → Prop
  | integer value => InRange value
  | float value => value.Canonical

instance (value : Binary64) : Decidable value.Canonical :=
  inferInstanceAs (Decidable (_ ∧ _ ∧ _ ∧ _))

instance : (number : Number) → Decidable number.Valid
  | integer value => inferInstanceAs (Decidable (InRange value))
  | float value => inferInstanceAs (Decidable value.Canonical)

/-- The number is a signed 64-bit integer. -/
def IsSigned (number : Number) : Prop := number.signed?.isSome = true

instance (number : Number) : Decidable number.IsSigned := inferInstanceAs (Decidable (_ = true))

variable {left right middle : Number}

theorem isSigned_integer_iff (value : Int) :
    (integer value).IsSigned ↔ -signedLimit ≤ value ∧ value < signedLimit := by
  simp only [IsSigned, signed?]
  split_ifs with inside <;> simp [inside]

theorem exists_of_isSigned (signed : left.IsSigned) :
    ∃ value, left = integer value ∧ left.signed? = some value := by
  cases left with
  | integer value =>
      have inside := (isSigned_integer_iff value).mp signed
      exact ⟨value, rfl, by rw [signed?, if_pos inside]⟩
  | float value => exact absurd signed Bool.false_ne_true

theorem units_integer_le {value other : Int} :
    (integer value).units ≤ (integer other).units ↔ value ≤ other :=
  Int.mul_le_mul_right (Int.natCast_pos.mpr Binary64.unitsOfOne_pos)

theorem moderate_of_valid {value : Int} (valid : (integer value).Valid) :
    Binary64.Moderate value := by
  obtain ⟨above, below⟩ := valid
  have lowest : signedLimit = 2 ^ 63 := rfl
  have highest : UInt64.size = 2 ^ 64 := rfl
  rw [Binary64.Moderate]
  omega

/-- Rounding keeps the order of the values. -/
theorem rounded_mono (valid : left.Valid) (valid' : right.Valid) (le : left.units ≤ right.units) :
    left.rounded ≤ right.rounded := by
  cases left with
  | integer value =>
      have moderate := moderate_of_valid valid
      cases right with
      | integer other =>
          exact Binary64.ofInt_mono moderate (moderate_of_valid valid') (units_integer_le.mp le)
      | float bound => exact (Binary64.ofInt_crosses_nothing moderate valid'.1).1 le
  | float bound =>
      cases right with
      | integer other =>
          exact (Binary64.ofInt_crosses_nothing (moderate_of_valid valid') valid.1).2 le
      | float other => exact le

section Compare

theorem compare_units_integer (value other : Int) :
    Ord.compare (integer value).units (integer other).units = Ord.compare value other := by
  have below : ∀ first second : Int,
      (integer first).units < (integer second).units ↔ first < second := fun first second => by
    rw [← Int.not_le, ← Int.not_le, units_integer_le]
  rcases Int.lt_trichotomy value other with less | rfl | greater
  · rw [Int.compare_eq_lt.mpr less, Int.compare_eq_lt.mpr ((below ..).mpr less)]
  · rw [Int.compare_eq_eq.mpr rfl, Int.compare_eq_eq.mpr rfl]
  · rw [Int.compare_eq_gt.mpr greater, Int.compare_eq_gt.mpr ((below ..).mpr greater)]

theorem compare_of_signed (signed : left.IsSigned) (signed' : right.IsSigned) :
    left.compare right = Ord.compare left.units right.units := by
  obtain ⟨value, rfl, found⟩ := exists_of_isSigned signed
  obtain ⟨other, rfl, found'⟩ := exists_of_isSigned signed'
  simp only [compare, found, found', compare_units_integer]

theorem compare_of_not_signed (mixed : ¬(left.IsSigned ∧ right.IsSigned)) :
    left.compare right = Ord.compare left.rounded right.rounded := by
  unfold compare
  split
  · rename_i value other found found'
    exact absurd ⟨by rw [IsSigned, found]; rfl, by rw [IsSigned, found']; rfl⟩ mixed
  · rfl

theorem compare_swap (left right : Number) : (left.compare right).swap = right.compare left := by
  by_cases signed : left.IsSigned ∧ right.IsSigned
  · rw [compare_of_signed signed.1 signed.2, compare_of_signed signed.2 signed.1,
      Int.compare_swap]
  · rw [compare_of_not_signed signed, compare_of_not_signed (signed ∘ And.symm),
      Int.compare_swap]

/-- The comparison puts the first number at or above the second. -/
def AtLeast (left right : Number) : Prop := (left.compare right).isGE = true

theorem atLeast_iff_of_signed (signed : left.IsSigned) (signed' : right.IsSigned) :
    left.AtLeast right ↔ right.units ≤ left.units := by
  rw [AtLeast, compare_of_signed signed signed', Int.isGE_compare]

theorem atLeast_iff_of_not_signed (mixed : ¬(left.IsSigned ∧ right.IsSigned)) :
    left.AtLeast right ↔ right.rounded ≤ left.rounded := by
  rw [AtLeast, compare_of_not_signed mixed, Int.isGE_compare]

/-- The comparison never reverses the order of the values. -/
theorem atLeast_of_units_le (valid : left.Valid) (valid' : right.Valid)
    (le : right.units ≤ left.units) : left.AtLeast right := by
  by_cases signed : left.IsSigned ∧ right.IsSigned
  · exact (atLeast_iff_of_signed signed.1 signed.2).mpr le
  · exact (atLeast_iff_of_not_signed signed).mpr (rounded_mono valid' valid le)

theorem AtLeast.rounded_le (valid : left.Valid) (valid' : right.Valid)
    (atLeast : left.AtLeast right) : right.rounded ≤ left.rounded := by
  by_cases signed : left.IsSigned ∧ right.IsSigned
  · exact rounded_mono valid' valid ((atLeast_iff_of_signed signed.1 signed.2).mp atLeast)
  · exact (atLeast_iff_of_not_signed signed).mp atLeast

theorem AtLeast.refl (number : Number) : number.AtLeast number := by
  by_cases signed : number.IsSigned ∧ number.IsSigned
  · exact (atLeast_iff_of_signed signed.1 signed.2).mpr (Int.le_refl _)
  · exact (atLeast_iff_of_not_signed signed).mpr (Int.le_refl _)

theorem AtLeast.total (left right : Number) : left.AtLeast right ∨ right.AtLeast left := by
  rw [AtLeast, AtLeast, ← compare_swap left right]
  cases left.compare right <;> decide

theorem compare_eq_iff : left.compare right = .eq ↔ left.AtLeast right ∧ right.AtLeast left := by
  rw [AtLeast, AtLeast, ← compare_swap left right]
  cases left.compare right <;> decide

end Compare

section Told

/-- The comparison tells the two numbers apart, unless they have one value. -/
def Told (left right : Number) : Prop :=
  (left.IsSigned ∧ right.IsSigned) ∨ left.units = right.units ∨ left.rounded ≠ right.rounded

theorem Told.symm (told : left.Told right) : right.Told left :=
  told.imp And.symm (Or.imp Eq.symm Ne.symm)

/-- Numbers that are told apart are compared by value. -/
theorem compare_of_told (valid : left.Valid) (valid' : right.Valid) (told : left.Told right) :
    left.compare right = Ord.compare left.units right.units := by
  by_cases signed : left.IsSigned ∧ right.IsSigned
  · exact compare_of_signed signed.1 signed.2
  rw [compare_of_not_signed signed]
  have mono := rounded_mono valid valid'
  have mono' := rounded_mono valid' valid
  rcases Int.lt_trichotomy left.units right.units with less | same | greater
  · have apart : left.rounded ≠ right.rounded :=
      (told.resolve_left signed).resolve_left (Int.ne_of_lt less)
    rw [Int.compare_eq_lt.mpr less, Int.compare_eq_lt.mpr (by omega)]
  · rw [Int.compare_eq_eq.mpr same, Int.compare_eq_eq.mpr (by omega)]
  · have apart : left.rounded ≠ right.rounded :=
      (told.resolve_left signed).resolve_left (Int.ne_of_gt greater)
    rw [Int.compare_eq_gt.mpr greater, Int.compare_eq_gt.mpr (by omega)]

theorem atLeast_iff_of_told (valid : left.Valid) (valid' : right.Valid) (told : left.Told right) :
    left.AtLeast right ↔ right.units ≤ left.units := by
  rw [AtLeast, compare_of_told valid valid' told, Int.isGE_compare]

/-- Numbers that are not told apart are equal to the comparison. -/
theorem compare_of_not_told (confused : ¬left.Told right) : left.compare right = .eq := by
  rw [Told, not_or, not_or, not_not] at confused
  rw [compare_of_not_signed confused.1, confused.2.2, Int.compare_eq_eq.mpr rfl]

end Told

section Unmixed

/-- No number that is not a signed integer lies where two different signed ones are rounded to. -/
def Unmixed (numbers : Number → Prop) : Prop :=
  ∀ first second other, numbers first → numbers second → numbers other →
    first.IsSigned → second.IsSigned → ¬other.IsSigned →
      first.rounded = other.rounded → second.rounded = other.rounded → first.units = second.units

variable {numbers : Number → Prop}

/-- The comparison is transitive among numbers that are not mixed.  Both steps go down after
rounding; when neither does, the ends are compared exactly only if they are one number. -/
theorem AtLeast.trans (valid : ∀ number, numbers number → number.Valid) (unmixed : Unmixed numbers)
    (among : numbers left) (among' : numbers middle) (among'' : numbers right)
    (first : left.AtLeast middle) (second : middle.AtLeast right) : left.AtLeast right := by
  have down := first.rounded_le (valid _ among) (valid _ among')
  have down' := second.rounded_le (valid _ among') (valid _ among'')
  by_cases signed : left.IsSigned ∧ right.IsSigned
  · rw [atLeast_iff_of_signed signed.1 signed.2]
    by_cases between : middle.IsSigned
    · rw [atLeast_iff_of_signed signed.1 between] at first
      rw [atLeast_iff_of_signed between signed.2] at second
      omega
    · by_contra above
      have up := rounded_mono (valid _ among) (valid _ among'') (by omega)
      have same := unmixed left right middle among among'' among' signed.1 signed.2 between
        (by omega) (by omega)
      omega
  · exact (atLeast_iff_of_not_signed signed).mpr (by omega)

end Unmixed

end SnapshotQuery.Number
