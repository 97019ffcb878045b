import SnapshotQuery.Number.Basic
import Mathlib.Tactic.Ring

/-!
# Rounding of integers

The binary64 number nearest to an integer keeps its leading 53 bits.  Rounding
never crosses a binary64 number, so it keeps the order of integers and their
order against binary64 numbers, though it may make different integers equal.
-/

namespace SnapshotQuery.Binary64

section HalfEven

variable {numerator other denominator bound : Nat}

theorem le_roundHalfEven (positive : 0 < denominator) (le : bound * denominator ≤ numerator) :
    bound ≤ roundHalfEven numerator denominator := by
  have quotient : bound ≤ numerator / denominator := (Nat.le_div_iff_mul_le positive).mpr le
  simp only [roundHalfEven]
  split_ifs <;> omega

theorem roundHalfEven_le (positive : 0 < denominator) (le : numerator ≤ bound * denominator) :
    roundHalfEven numerator denominator ≤ bound := by
  have division := Nat.div_add_mod numerator denominator
  rcases Nat.lt_or_ge (numerator / denominator) bound with below | reached
  · simp only [roundHalfEven]
    split_ifs <;> omega
  · have product : bound * denominator ≤ denominator * (numerator / denominator) := by
      rw [Nat.mul_comm]
      exact Nat.mul_le_mul_left denominator reached
    have exact : numerator % denominator = 0 := by omega
    have quotient : numerator / denominator ≤ bound :=
      Nat.div_le_of_le_mul (by rwa [Nat.mul_comm])
    simp only [roundHalfEven, exact, Nat.mul_zero, if_pos positive]
    exact quotient

theorem roundHalfEven_mono (le : numerator ≤ other) :
    roundHalfEven numerator denominator ≤ roundHalfEven other denominator := by
  have quotients : numerator / denominator ≤ other / denominator := Nat.div_le_div_right le
  have division := Nat.div_add_mod numerator denominator
  have division' := Nat.div_add_mod other denominator
  rcases Nat.lt_or_eq_of_le quotients with apart | same
  · simp only [roundHalfEven]
    split_ifs <;> omega
  · simp only [roundHalfEven]
    rw [same] at division ⊢
    split_ifs <;> omega

theorem roundHalfEven_one (numerator : Nat) : roundHalfEven numerator 1 = numerator := by
  simp [roundHalfEven, Nat.mod_one]

end HalfEven

section Nearest

variable {value other : Nat}

/-- The weight of the last of the 53 leading bits of a natural number. -/
def lastBit (value : Nat) : Nat := 2 ^ (value.log2 - 52)

/-- The natural number rounded to its 53 leading bits. -/
def nearest (value : Nat) : Nat := roundHalfEven value (lastBit value) * lastBit value

theorem lastBit_pos (value : Nat) : 0 < lastBit value := Nat.two_pow_pos _

theorem lastBit_of_small (small : value.log2 ≤ 52) : lastBit value = 1 := by
  rw [lastBit, Nat.sub_eq_zero_of_le small, Nat.pow_zero]

theorem nearest_of_small (small : value.log2 ≤ 52) : nearest value = value := by
  rw [nearest, lastBit_of_small small, roundHalfEven_one, Nat.mul_one]

/-- A natural number of at least 53 bits lies between two powers of two that are multiples of
the weight of its last bit. -/
theorem leading_bits (large : 52 ≤ value.log2) :
    2 ^ 52 * lastBit value = 2 ^ value.log2 ∧ 2 ^ 53 * lastBit value = 2 ^ (value.log2 + 1) := by
  constructor <;> rw [lastBit, ← Nat.pow_add] <;> congr 1 <;> omega

theorem two_pow_log2_le_nearest (nonzero : value ≠ 0) : 2 ^ value.log2 ≤ nearest value := by
  have below := Nat.log2_self_le nonzero
  rcases Nat.lt_or_ge value.log2 52 with small | large
  · rwa [nearest_of_small (Nat.le_of_lt small)]
  · rw [← (leading_bits large).1] at below ⊢
    exact Nat.mul_le_mul_right _ (le_roundHalfEven (lastBit_pos value) below)

theorem nearest_le_two_pow (value : Nat) : nearest value ≤ 2 ^ (value.log2 + 1) := by
  have above : value ≤ 2 ^ (value.log2 + 1) := Nat.le_of_lt Nat.lt_log2_self
  rcases Nat.lt_or_ge value.log2 52 with small | large
  · rwa [nearest_of_small (Nat.le_of_lt small)]
  · rw [← (leading_bits large).2] at above ⊢
    exact Nat.mul_le_mul_right _ (roundHalfEven_le (lastBit_pos value) above)

/-- Rounding keeps the order: within a power of two the quotients do, and a power of two is
not crossed. -/
theorem nearest_mono (le : value ≤ other) : nearest value ≤ nearest other := by
  rcases Nat.eq_zero_or_pos value with rfl | positive
  · exact Nat.zero_le _
  · have nonzero : other ≠ 0 := Nat.ne_of_gt (Nat.lt_of_lt_of_le positive le)
    have logs : value.log2 ≤ other.log2 :=
      (Nat.le_log2 nonzero).mpr ((Nat.log2_self_le (Nat.ne_of_gt positive)).trans le)
    rcases Nat.lt_or_eq_of_le logs with apart | same
    · calc
        nearest value ≤ 2 ^ (value.log2 + 1) := nearest_le_two_pow value
        _ ≤ 2 ^ other.log2 := Nat.pow_le_pow_right (by decide) apart
        _ ≤ nearest other := two_pow_log2_le_nearest nonzero
    · have weights : lastBit value = lastBit other := by rw [lastBit, lastBit, same]
      rw [nearest, nearest, weights]
      exact Nat.mul_le_mul_right _ (roundHalfEven_mono le)

end Nearest

section Grid

variable {value significand power shift : Nat}

/-- The powers of two of a magnitude with at most 53 significant bits and of the last bit of a
number of at least as many bits: the magnitude is a multiple of the last bit, or it is below all
such numbers. -/
theorem grid_cases (power shift : Nat) (bits : significand < 2 ^ 53) (large : 52 ≤ value.log2) :
    (∃ count, significand * 2 ^ power = count * lastBit value * 2 ^ shift) ∨
      significand * 2 ^ power < 2 ^ value.log2 * 2 ^ shift := by
  rcases Nat.lt_or_ge power (value.log2 - 52 + shift) with fine | coarse
  · refine .inr ?_
    calc
      significand * 2 ^ power < 2 ^ 53 * 2 ^ power :=
        Nat.mul_lt_mul_of_pos_right bits (Nat.two_pow_pos power)
      _ = 2 ^ (power + 1 + 52) := by rw [← Nat.pow_add]; congr 1; omega
      _ ≤ 2 ^ (value.log2 + shift) := Nat.pow_le_pow_right (by decide) (by omega)
      _ = 2 ^ value.log2 * 2 ^ shift := Nat.pow_add ..
  · refine .inl ⟨significand * 2 ^ (power - (value.log2 - 52 + shift)), ?_⟩
    rw [lastBit, Nat.mul_assoc, Nat.mul_assoc, ← Nat.pow_add, ← Nat.pow_add]
    congr 2
    omega

/-- A magnitude with at most 53 significant bits is not crossed from below. -/
theorem nearest_le_of_significand (bits : significand < 2 ^ 53)
    (le : value * 2 ^ shift ≤ significand * 2 ^ power) :
    nearest value * 2 ^ shift ≤ significand * 2 ^ power := by
  rcases Nat.lt_or_ge value.log2 52 with small | large
  · rwa [nearest_of_small (Nat.le_of_lt small)]
  · have nonzero : value ≠ 0 := by
      rintro rfl
      exact absurd large (by decide)
    rcases grid_cases power shift bits large with ⟨count, exact⟩ | below
    · rw [exact] at le ⊢
      have reached : value ≤ count * lastBit value :=
        Nat.le_of_mul_le_mul_right le (Nat.two_pow_pos shift)
      exact Nat.mul_le_mul_right _
        (Nat.mul_le_mul_right _ (roundHalfEven_le (lastBit_pos value) reached))
    · have leading := Nat.mul_le_mul_right (2 ^ shift) (Nat.log2_self_le nonzero)
      omega

/-- A magnitude with at most 53 significant bits is not crossed from above. -/
theorem le_nearest_of_significand (bits : significand < 2 ^ 53)
    (le : significand * 2 ^ power ≤ value * 2 ^ shift) :
    significand * 2 ^ power ≤ nearest value * 2 ^ shift := by
  rcases Nat.lt_or_ge value.log2 52 with small | large
  · rwa [nearest_of_small (Nat.le_of_lt small)]
  · have nonzero : value ≠ 0 := by
      rintro rfl
      exact absurd large (by decide)
    rcases grid_cases power shift bits large with ⟨count, exact⟩ | below
    · rw [exact] at le ⊢
      have reached : count * lastBit value ≤ value :=
        Nat.le_of_mul_le_mul_right le (Nat.two_pow_pos shift)
      exact Nat.mul_le_mul_right _
        (Nat.mul_le_mul_right _ (le_roundHalfEven (lastBit_pos value) reached))
    · exact Nat.le_of_lt (Nat.lt_of_lt_of_le below
        (Nat.mul_le_mul_right _ (two_pow_log2_le_nearest nonzero)))

end Grid

section Integers

/-- One, as a multiple of the least positive number. -/
def unitsOfOne : Nat := 2 ^ (-minExponent).toNat

theorem unitsOfOne_pos : 0 < unitsOfOne := Nat.two_pow_pos _

theorem scaleDown_natCast (numerator denominator exponent : Nat) :
    scaleDown numerator denominator exponent = (numerator, denominator * 2 ^ exponent) := by
  simp [scaleDown, Nat.shiftLeft_eq]

theorem scaleDown_neg_natCast (numerator denominator exponent : Nat) :
    scaleDown numerator denominator (-exponent) = (numerator * 2 ^ exponent, denominator) := by
  simp [scaleDown, Nat.shiftLeft_eq]

/-- A natural number is rounded at the last of its 53 leading bits. -/
theorem roundingExponent_natural {value : Nat} (nonzero : value ≠ 0) :
    roundingExponent value 1 = value.log2 - 52 := by
  have leading := Nat.log2_self_le nonzero
  have reached : 1 <<< 52 ≤ (scaleDown value 1 (value.log2 - 52)).1 /
      (scaleDown value 1 (value.log2 - 52)).2 := by
    rcases Nat.le_total value.log2 52 with small | large
    · obtain ⟨missing, split⟩ := Nat.exists_eq_add_of_le small
      have exponent : (value.log2 - 52 : Int) = -missing := by omega
      rw [exponent, scaleDown_neg_natCast, Nat.div_one]
      calc
        1 <<< 52 = 2 ^ (value.log2 + missing) := by rw [← split]; rfl
        _ = 2 ^ value.log2 * 2 ^ missing := Nat.pow_add ..
        _ ≤ value * 2 ^ missing := Nat.mul_le_mul_right _ leading
    · obtain ⟨dropped, split⟩ := Nat.exists_eq_add_of_le large
      have exponent : (value.log2 - 52 : Int) = dropped := by omega
      rw [exponent, scaleDown_natCast, Nat.one_mul, Nat.le_div_iff_mul_le (Nat.two_pow_pos _)]
      calc
        1 <<< 52 * 2 ^ dropped = 2 ^ value.log2 := by rw [split, Nat.pow_add]; rfl
        _ ≤ value := leading
  have least : minExponent ≤ value.log2 - 52 := by
    have lowest : minExponent ≤ -52 := by decide
    omega
  simp only [roundingExponent, show Nat.log2 1 = 0 from rfl, Int.natCast_zero, Int.sub_zero,
    if_neg (Nat.not_lt.mpr reached), max_eq_right least]

/-- A number is so many multiples of the least positive number. -/
theorem magnitudeUnits_mk (negative : Bool) (significand exponent : Nat) :
    (⟨negative, significand, exponent⟩ : Binary64).magnitudeUnits =
      significand * 2 ^ exponent * unitsOfOne := by
  have shift : ((exponent : Int) - minExponent).toNat = exponent + (-minExponent).toNat := by
    have lowest : minExponent ≤ 0 := by decide
    omega
  rw [magnitudeUnits, shift, Nat.shiftLeft_eq, Nat.pow_add, unitsOfOne, Nat.mul_assoc]

/-- A natural number of at most 53 bits is a binary64 number. -/
theorem ofRatio?_small (negative : Bool) {value missing : Nat} (nonzero : value ≠ 0)
    (small : 52 = value.log2 + missing) :
    ofRatio? negative value 1 = some ⟨negative, value * 2 ^ missing, -missing⟩ := by
  have exponent : (value.log2 - 52 : Int) = -missing := by omega
  have kept : value * 2 ^ missing ≠ 1 <<< 53 := by
    refine Nat.ne_of_lt ?_
    calc
      value * 2 ^ missing < 2 ^ (value.log2 + 1) * 2 ^ missing :=
        Nat.mul_lt_mul_of_pos_right Nat.lt_log2_self (Nat.two_pow_pos missing)
      _ = 2 ^ 53 := by rw [← Nat.pow_add]; congr 1; omega
  have finite : -(missing : Int) ≤ maxExponent := by
    have highest : 0 ≤ maxExponent := by decide
    omega
  simp only [ofRatio?, if_neg nonzero, roundingExponent_natural nonzero, exponent,
    scaleDown_neg_natCast, roundHalfEven_one, if_neg kept, if_pos finite]

/-- A longer natural number is rounded to its leading bits. -/
theorem ofRatio?_large (negative : Bool) {value dropped : Nat}
    (large : value.log2 = 52 + dropped) (bounded : dropped ≤ 64) :
    ofRatio? negative value 1 = some (if roundHalfEven value (lastBit value) = 1 <<< 53 then
      ⟨negative, 1 <<< 52, (dropped + 1 : Nat)⟩
    else ⟨negative, roundHalfEven value (lastBit value), dropped⟩) := by
  have nonzero : value ≠ 0 := by
    rintro rfl
    have none : Nat.log2 0 = 0 := rfl
    omega
  have exponent : (value.log2 - 52 : Int) = dropped := by omega
  have weight : 1 * 2 ^ dropped = lastBit value := by
    rw [Nat.one_mul, lastBit, large, Nat.add_sub_cancel_left]
  have highest : 65 ≤ maxExponent := by decide
  simp only [ofRatio?, if_neg nonzero, roundingExponent_natural nonzero, exponent,
    scaleDown_natCast, weight]
  split_ifs with carried high high
  · rfl
  · exact absurd (show (dropped + 1 : Int) ≤ maxExponent by omega) high
  · rfl
  · exact absurd (show (dropped : Int) ≤ maxExponent by omega) high

/-- The number nearest to a natural number is that number rounded to its leading bits. -/
theorem ofRatio?_natural (negative : Bool) {value : Nat} (bounded : value.log2 ≤ 64) :
    ∃ number, ofRatio? negative value 1 = some number ∧ number.negative = negative ∧
      number.magnitudeUnits = nearest value * unitsOfOne := by
  by_cases nonzero : value = 0
  · subst nonzero
    exact ⟨zero negative, rfl, rfl, by simp [zero, magnitudeUnits, nearest, roundHalfEven]⟩
  rcases Nat.le_total value.log2 52 with small | large
  · obtain ⟨missing, split⟩ := Nat.exists_eq_add_of_le small
    refine ⟨_, ofRatio?_small negative nonzero split, rfl, ?_⟩
    have lowest : minExponent ≤ -52 := by decide
    have shift : missing + (-(missing : Int) - minExponent).toNat = (-minExponent).toNat := by
      omega
    rw [nearest_of_small small, magnitudeUnits, Nat.shiftLeft_eq, Nat.mul_assoc, ← Nat.pow_add,
      shift, unitsOfOne]
  · obtain ⟨dropped, split⟩ := Nat.exists_eq_add_of_le large
    refine ⟨_, ofRatio?_large negative split (by omega), by split_ifs <;> rfl, ?_⟩
    have weight : lastBit value = 2 ^ dropped := by
      rw [lastBit, split, Nat.add_sub_cancel_left]
    split_ifs with carried
    · have double : 1 <<< 53 = 1 <<< 52 * 2 := rfl
      rw [magnitudeUnits_mk, nearest, carried, weight, double]
      ring
    · rw [magnitudeUnits_mk, nearest, weight]

variable {value other : Int} {number : Binary64}

/-- The integers of 64 bits, of either sign. -/
def Moderate (value : Int) : Prop := value.natAbs ≤ 2 ^ 64

/-- An integer is rounded to its leading bits and keeps its sign. -/
theorem units_ofInt (moderate : Moderate value) :
    (ofInt value).units = if value < 0 then -((nearest value.natAbs * unitsOfOne : Nat) : Int)
      else ((nearest value.natAbs * unitsOfOne : Nat) : Int) := by
  have bounded : value.natAbs.log2 ≤ 64 := by
    by_cases nonzero : value.natAbs = 0
    · rw [nonzero]
      exact Nat.zero_le 64
    · refine Nat.lt_succ_iff.mp ((Nat.log2_lt nonzero).mpr ?_)
      exact Nat.lt_of_le_of_lt moderate (by decide)
  obtain ⟨number, found, sign, magnitude⟩ := ofRatio?_natural (decide (value < 0)) bounded
  have rounded : ofInt value = number := by rw [ofInt, found, Option.getD_some]
  simp only [rounded, units, sign, magnitude, decide_eq_true_eq]

theorem mul_unitsOfOne (value : Int) :
    value * unitsOfOne = if value < 0 then -((value.natAbs * unitsOfOne : Nat) : Int)
      else ((value.natAbs * unitsOfOne : Nat) : Int) := by
  rw [Int.natCast_mul]
  split_ifs with below
  · rw [Int.ofNat_natAbs_of_nonpos (Int.le_of_lt below)]
    ring
  · rw [Int.natAbs_of_nonneg (Int.not_lt.mp below)]

theorem ofInt_mono (moderate : Moderate value) (moderate' : Moderate other) (le : value ≤ other) :
    (ofInt value).units ≤ (ofInt other).units := by
  have magnitudes : value.natAbs ≤ other.natAbs →
      nearest value.natAbs * unitsOfOne ≤ nearest other.natAbs * unitsOfOne :=
    fun le => Nat.mul_le_mul_right _ (nearest_mono le)
  have reversed : other.natAbs ≤ value.natAbs →
      nearest other.natAbs * unitsOfOne ≤ nearest value.natAbs * unitsOfOne :=
    fun le => Nat.mul_le_mul_right _ (nearest_mono le)
  rw [units_ofInt moderate, units_ofInt moderate']
  split_ifs <;> omega

/-- Rounding an integer does not take it across a binary64 number. -/
theorem ofInt_crosses_nothing (moderate : Moderate value) (bits : number.significand < 2 ^ 53) :
    (value * unitsOfOne ≤ number.units → (ofInt value).units ≤ number.units) ∧
      (number.units ≤ value * unitsOfOne → number.units ≤ (ofInt value).units) := by
  have magnitude : number.magnitudeUnits =
      number.significand * 2 ^ (number.exponent - minExponent).toNat := Nat.shiftLeft_eq ..
  have below : value.natAbs * unitsOfOne ≤ number.magnitudeUnits →
      nearest value.natAbs * unitsOfOne ≤ number.magnitudeUnits := by
    rw [magnitude]
    exact nearest_le_of_significand bits
  have above : number.magnitudeUnits ≤ value.natAbs * unitsOfOne →
      number.magnitudeUnits ≤ nearest value.natAbs * unitsOfOne := by
    rw [magnitude]
    exact le_nearest_of_significand bits
  rw [units_ofInt moderate, mul_unitsOfOne, units]
  split_ifs <;> omega

end Integers

end SnapshotQuery.Binary64
