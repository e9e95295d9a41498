import Tabular.Proofs.Number.Counts
import Tabular.Proofs.Number.Range

namespace Tabular

/-!
# Results that stay finite

A sum, a product or a quotient of finite numbers is finite when the exact result lies below the
limit, and then it is off by no more than half of its size. That settles which roundings of finite
numbers can fail: only those to decimals, and only of numbers that overflow when they are scaled.
-/

namespace Binary64

variable {number left right : Binary64} {value leftValue rightValue rounded : ℚ}

/-! ## Finite numbers -/

theorem isFinite_iff_exists_value :
    number.isFinite = true ↔ ∃ value, number.value? = some value := by
  cases number <;> simp [isFinite, value?]

theorem isFinite_iff_of_value?_eq
    (same : left.value? = right.value?) :
    left.isFinite = true ↔ right.isFinite = true := by
  rw [isFinite_iff_exists_value, isFinite_iff_exists_value, same]

theorem isZero_iff_of_value
    (isValue : number.value? = some value) :
    number.isZero = true ↔ value = 0 := by
  obtain ⟨negative, significand, exponent, _, rfl, rfl⟩ := exists_of_value isValue
  have unitPositive : (2 : ℚ) ^ exponent ≠ 0 := by positivity
  rw [isZero, beq_iff_eq, mul_eq_zero, or_iff_left unitPositive]
  cases negative <;> simp [signedSignificand]

theorem abs_signedSignificand
    (negative : Bool)
    (significand : Nat) :
    |(signedSignificand negative significand : ℚ)| = significand := by
  cases negative <;> simp [signedSignificand]

theorem mul_add_one_lt
    {significand most greatestUnit limit : Nat}
    {unit : ℚ}
    (below : most * greatestUnit + 1 < limit)
    (significandSmall : significand ≤ most)
    (unitPositive : 0 < unit)
    (unitSmall : unit ≤ greatestUnit) :
    (significand * unit + 1 : ℚ) < limit := by
  calc
    (significand * unit + 1 : ℚ) ≤ most * greatestUnit + 1 := by gcongr
    _ < limit := by exact_mod_cast below

/-- The size of a finite number is so far below the limit that one more can be added. -/
theorem abs_value_add_one_lt
    (isValue : number.value? = some value) :
    |value| + 1 < intLimit := by
  obtain ⟨negative, significand, exponent, canonical, rfl, rfl⟩ := exists_of_value isValue
  obtain ⟨small, -, high, -⟩ := canonical
  have unitPositive : (0 : ℚ) < 2 ^ exponent := by positivity
  have unitSmall : (2 : ℚ) ^ exponent ≤ 2 ^ ((971 : Nat) : Int) :=
    zpow_le_zpow_right₀ (by norm_num) high
  rw [← cast_pow_two] at unitSmall
  rw [abs_mul, abs_signedSignificand, abs_of_pos unitPositive]
  exact mul_add_one_lt (by decide +kernel) (Nat.le_sub_one_of_lt small) unitPositive unitSmall

/-! ## Rounding to the nearest number -/

/-- The nearest integer is at most a half away. -/
theorem nearestEven_close
    {numerator denominator : Nat}
    (positive : 0 < denominator) :
    |(nearestEven numerator denominator : ℚ) - numerator / denominator| ≤ 1 / 2 := by
  have positiveValue : (0 : ℚ) < denominator := by exact_mod_cast positive
  have bounds :
      2 * numerator ≤ 2 * (nearestEven numerator denominator * denominator) + denominator ∧
        2 * (nearestEven numerator denominator * denominator) ≤ 2 * numerator + denominator := by
    have division := Nat.div_add_mod' numerator denominator
    have rest := Nat.mod_lt numerator positive
    have next :
        (numerator / denominator + 1) * denominator =
          numerator / denominator * denominator + denominator :=
      Nat.succ_mul _ _
    unfold nearestEven
    dsimp only
    generalize numerator / denominator = quotient at division next ⊢
    generalize numerator % denominator = remainder at division rest ⊢
    split_ifs <;> omega
  have low : (2 * numerator : ℚ) ≤
      2 * (nearestEven numerator denominator * denominator) + denominator := by
    exact_mod_cast bounds.1
  have high : (2 * (nearestEven numerator denominator * denominator) : ℚ) ≤
      2 * numerator + denominator := by
    exact_mod_cast bounds.2
  have isQuotient : (numerator : ℚ) = numerator / denominator * denominator :=
    (div_mul_cancel₀ _ positiveValue.ne').symm
  rw [abs_le]
  constructor <;> nlinarith

/-- The value of a rounded ratio counts its units. -/
theorem value_of_ofRatio
    {negative : Bool}
    {numerator denominator : Nat}
    (numeratorPositive : 0 < numerator)
    (isValue : (ofRatio negative numerator denominator).value? = some rounded) :
    let exponent := unitExponent numerator denominator
    let scaled := scaleDown numerator denominator exponent
    rounded = signedSignificand negative (nearestEven scaled.1 scaled.2) * 2 ^ exponent := by
  intro exponent scaled
  have value_of_ofParts {significand : Nat} {power : Int}
      (found : (ofParts negative significand power).value? = some rounded) :
      rounded = signedSignificand negative significand * 2 ^ power := by
    unfold ofParts at found
    split_ifs at found
    · exact (Option.some.inj found).symm
    · cases found
  rw [ofRatio, if_neg numeratorPositive.ne'] at isValue
  dsimp only at isValue
  split_ifs at isValue with carried
  · have halved := value_of_ofParts isValue
    have double :
        (signedSignificand negative (Nat.pow 2 53) : ℚ) =
          signedSignificand negative (Nat.pow 2 52) * 2 := by
      cases negative <;> norm_num [signedSignificand]
    rw [show nearestEven scaled.1 scaled.2 = Nat.pow 2 53 from carried, halved, double,
      zpow_add_one₀ (by norm_num)]
    ring
  · exact value_of_ofParts isValue

/-- A nonzero rational is the quotient of its sign and size. -/
theorem natAbs_num_pos
    (nonzero : value ≠ 0) :
    0 < value.num.natAbs :=
  Int.natAbs_pos.mpr (Rat.num_ne_zero.mpr nonzero)

theorem abs_eq_natAbs_num_div_den
    (value : ℚ) :
    |value| = value.num.natAbs / value.den := by
  conv_lhs => rw [← Rat.num_div_den value]
  rw [abs_div, Nat.abs_cast, Nat.cast_natAbs, Int.cast_abs]

/-- A rational number has a nearest finite number exactly when it lies below the limit. -/
theorem isFinite_nearest_iff
    (value : ℚ) :
    (nearest value).isFinite = true ↔ |value| < intLimit := by
  rcases eq_or_ne value 0 with rfl | nonzero
  · have limitPositive : (0 : ℚ) < intLimit := by
      exact_mod_cast (by decide +kernel : 0 < intLimit)
    rw [nearest_zero, abs_zero]
    exact iff_of_true rfl limitPositive
  have denominatorPositive : (0 : ℚ) < value.den := by exact_mod_cast value.den_pos
  have infinite :=
    ofRatio_eq_infinite_iff (decide (value < 0)) (natAbs_num_pos nonzero) value.den_pos
  have reached : intLimit * value.den ≤ value.num.natAbs ↔ (intLimit : ℚ) ≤ |value| := by
    rw [abs_eq_natAbs_num_div_den, le_div_iff₀ denominatorPositive]
    exact_mod_cast Iff.rfl
  rw [reached] at infinite
  rw [← not_le, ← infinite, nearest]
  obtain ⟨significand, exponent, canonical, finite⟩ | beyond :=
    ofRatio_cases (decide (value < 0)) value.num.natAbs value.den
  · simp [finite, isFinite]
  · simp [beyond, isFinite]

/--
A number that is nearest to a rational counts units, one of which is within half a unit; unless the
unit is the least one, the rational has 53 bits in it.
-/
theorem exists_units
    (isValue : (nearest value).value? = some rounded)
    (nonzero : value ≠ 0) :
    ∃ units exponent : Int,
      rounded = units * 2 ^ exponent ∧ |(units : ℚ) - value / 2 ^ exponent| ≤ 1 / 2 ∧
        (exponent = -1074 ∨ (2 : ℚ) ^ (exponent + 52) ≤ |value|) := by
  have numeratorPositive := natAbs_num_pos nonzero
  set exponent := unitExponent value.num.natAbs value.den
  set scaled := scaleDown value.num.natAbs value.den exponent
  have isRounded :
      rounded =
        signedSignificand (decide (value < 0)) (nearestEven scaled.1 scaled.2) * 2 ^ exponent :=
    value_of_ofRatio numeratorPositive isValue
  have close :
      |(nearestEven scaled.1 scaled.2 : ℚ) - scaled.1 / scaled.2| ≤ 1 / 2 :=
    nearestEven_close (scaleDown_pos value.den_pos exponent)
  have ratio : (scaled.1 / scaled.2 : ℚ) = |value| / 2 ^ exponent := by
    rw [abs_eq_natAbs_num_div_den]
    exact ratio_scaleDown _ _ _
  have bits := (unitExponent_bounds numeratorPositive value.den_pos).2
  rw [← abs_eq_natAbs_num_div_den] at bits
  refine ⟨_, exponent, isRounded, ?_, bits⟩
  rw [ratio] at close
  by_cases below : value < 0
  · rw [abs_of_neg below, neg_div, sub_neg_eq_add, ← abs_neg, neg_add'] at close
    rw [decide_eq_true below, signedSignificand, if_pos rfl]
    exact_mod_cast close
  · rw [abs_of_nonneg (not_lt.mp below)] at close
    rw [decide_eq_false below, signedSignificand, if_neg (by decide)]
    exact_mod_cast close

/-- A number is off by at most half of its size from what it is nearest to, unless it is zero. -/
theorem nearest_close
    (isValue : (nearest value).value? = some rounded) :
    rounded = 0 ∨ |rounded - value| ≤ |rounded| / 2 := by
  rcases eq_or_ne value 0 with rfl | nonzero
  · rw [nearest_zero, value?_zero] at isValue
    exact .inl (Option.some.inj isValue).symm
  obtain ⟨units, exponent, isRounded, close, -⟩ := exists_units isValue nonzero
  rcases eq_or_ne units 0 with rfl | counted
  · exact .inl (by rw [isRounded, Int.cast_zero, zero_mul])
  have unitPositive : (0 : ℚ) < 2 ^ exponent := by positivity
  have apart : rounded - value = (units - value / 2 ^ exponent) * 2 ^ exponent := by
    rw [isRounded]
    field_simp
  have atLeastOne : (1 : ℚ) ≤ |(units : ℚ)| := by
    exact_mod_cast Int.one_le_abs counted
  right
  calc
    |rounded - value| = |(units : ℚ) - value / 2 ^ exponent| * 2 ^ exponent := by
      rw [apart, abs_mul, abs_of_pos unitPositive]
    _ ≤ 1 / 2 * 2 ^ exponent := by gcongr
    _ ≤ |(units : ℚ)| * 2 ^ exponent / 2 := by nlinarith
    _ = |rounded| / 2 := by rw [isRounded, abs_mul, abs_of_pos unitPositive]


/-- The number nearest to a rational is at most twice as large. -/
theorem abs_nearest_le
    (isValue : (nearest value).value? = some rounded) :
    |rounded| ≤ 2 * |value| := by
  rcases nearest_close isValue with isZero | close
  · rw [isZero, abs_zero]
    positivity
  · have apart : |rounded| ≤ |rounded - value| + |value| := by
      have sum := abs_add_le (rounded - value) value
      rwa [sub_add_cancel] at sum
    linarith

/-- The number nearest to a rational is at least half as large, unless it is zero. -/
theorem le_abs_nearest
    (isValue : (nearest value).value? = some rounded)
    (nonzero : rounded ≠ 0) :
    |value| ≤ 2 * |rounded| := by
  have close := (nearest_close isValue).resolve_left nonzero
  have apart : |value| ≤ |rounded - value| + |rounded| := by
    have difference := abs_sub (rounded - value) rounded
    rw [sub_sub_cancel_left, abs_neg] at difference
    exact difference
  linarith [abs_nonneg rounded]

/--
A number with the value that is nearest to an exact one in range has a value of about that size,
unless it has been rounded to zero.
-/
theorem exists_value_near
    {exact : ℚ}
    (rounds : number.value? = (nearest exact).value?)
    (inRange : |exact| < intLimit) :
    ∃ rounded, number.value? = some rounded ∧ |rounded| ≤ 2 * |exact| ∧
      (rounded ≠ 0 → |exact| ≤ 2 * |rounded|) := by
  obtain ⟨rounded, isRounded⟩ :=
    isFinite_iff_exists_value.mp ((isFinite_nearest_iff exact).mpr inRange)
  exact ⟨rounded, rounds.trans isRounded, abs_nearest_le isRounded, le_abs_nearest isRounded⟩

/-- The number nearest to a rational of one or more is not zero. -/
theorem nearest_ne_zero
    (isValue : (nearest value).value? = some rounded)
    (atLeast : 1 ≤ |value|) :
    rounded ≠ 0 := by
  have nonzero : value ≠ 0 := by
    rintro rfl
    norm_num at atLeast
  have numeratorPositive := natAbs_num_pos nonzero
  have isRounded := value_of_ofRatio numeratorPositive isValue
  have unit := (unitExponent_bounds numeratorPositive value.den_pos).2
  rw [← abs_eq_natAbs_num_div_den] at unit
  set exponent := unitExponent value.num.natAbs value.den
  have unitPositive : (0 : ℚ) < 2 ^ exponent := by positivity
  have unitBelow : (2 : ℚ) ^ exponent ≤ |value| := by
    rcases unit with least | reached
    · rw [least]
      exact (zpow_le_one_of_nonpos₀ (by norm_num) (by decide)).trans atLeast
    · exact (zpow_le_zpow_right₀ (by norm_num) (by omega)).trans reached
  have scaledPositive : 0 < (scaleDown value.num.natAbs value.den exponent).2 :=
    scaleDown_pos value.den_pos exponent
  have counted :
      (scaleDown value.num.natAbs value.den exponent).2 ≤
        (scaleDown value.num.natAbs value.den exponent).1 := by
    have ratio := ratio_scaleDown value.num.natAbs value.den exponent
    have positive : (0 : ℚ) < (scaleDown value.num.natAbs value.den exponent).2 := by
      exact_mod_cast scaledPositive
    rw [← abs_eq_natAbs_num_div_den, div_eq_iff positive.ne'] at ratio
    have atLeastOne : 1 ≤ |value| / 2 ^ exponent := (one_le_div unitPositive).mpr unitBelow
    have scaled : ((scaleDown value.num.natAbs value.den exponent).2 : ℚ) ≤
        (scaleDown value.num.natAbs value.den exponent).1 := by
      rw [ratio]
      exact le_mul_of_one_le_left positive.le atLeastOne
    exact_mod_cast scaled
  have significand :
      1 ≤ nearestEven (scaleDown value.num.natAbs value.den exponent).1
        (scaleDown value.num.natAbs value.den exponent).2 :=
    le_nearestEven scaledPositive (by rwa [Nat.one_mul])
  intro isZero
  have size := congrArg abs isRounded
  rw [isZero, abs_zero, abs_mul, abs_signedSignificand, abs_of_pos unitPositive, eq_comm,
    mul_eq_zero, Nat.cast_eq_zero] at size
  rcases size with none | none
  · omega
  · exact unitPositive.ne' none

/-! ## Operations -/

theorem value?_add
    (isLeft : left.value? = some leftValue)
    (isRight : right.value? = some rightValue) :
    (left.add right).value? = (nearest (leftValue + rightValue)).value? := by
  rcases eq_or_ne (leftValue + rightValue) 0 with isZero | nonzero
  · obtain ⟨leftNegative, leftSignificand, leftExponent, _, rfl, rfl⟩ := exists_of_value isLeft
    obtain ⟨rightNegative, rightSignificand, rightExponent, _, rfl, rfl⟩ :=
      exists_of_value isRight
    rw [isZero, nearest_zero, value?_zero]
    obtain ⟨leftAligned, rightAligned⟩ :=
      align_spec (signedSignificand leftNegative leftSignificand)
        (signedSignificand rightNegative rightSignificand) leftExponent rightExponent
    rw [← leftAligned, ← rightAligned, ← add_mul, ← Int.cast_add, mul_eq_zero,
      Int.cast_eq_zero] at isZero
    rw [add]
    simp only [if_pos (isZero.resolve_right (by positivity)), value?_zero]
  · rw [add_of_value isLeft isRight nonzero]

theorem value?_sub
    (isLeft : left.value? = some leftValue)
    (isRight : right.value? = some rightValue) :
    (left.sub right).value? = (nearest (leftValue - rightValue)).value? := by
  rw [sub, value?_add isLeft (value?_neg isRight), sub_eq_add_neg]

theorem ofScaled_zero
    (negative : Bool)
    (exponent : Int) :
    ofScaled negative 0 exponent = zero negative := by
  have isZero : (scaleDown 0 1 (-exponent)).1 = 0 := by
    unfold scaleDown
    split
    · rfl
    · exact Nat.zero_mul _
  rw [ofScaled, isZero, ofRatio, if_pos rfl]

theorem value?_mul
    (isLeft : left.value? = some leftValue)
    (isRight : right.value? = some rightValue) :
    (left.mul right).value? = (nearest (leftValue * rightValue)).value? := by
  rcases eq_or_ne (leftValue * rightValue) 0 with isZero | nonzero
  · rw [isZero, nearest_zero, value?_zero]
    obtain ⟨leftNegative, leftSignificand, leftExponent, _, rfl, rfl⟩ := exists_of_value isLeft
    obtain ⟨rightNegative, rightSignificand, rightExponent, _, rfl, rfl⟩ :=
      exists_of_value isRight
    have sizes := congrArg abs isZero
    simp only [abs_mul, abs_signedSignificand, abs_zero] at sizes
    have noSignificand : leftSignificand * rightSignificand = 0 := by
      have unitsPositive : (0 : ℚ) < |2 ^ leftExponent| ∧ (0 : ℚ) < |2 ^ rightExponent| :=
        ⟨by positivity, by positivity⟩
      rw [mul_mul_mul_comm, mul_eq_zero] at sizes
      have counted := sizes.resolve_right (mul_pos unitsPositive.1 unitsPositive.2).ne'
      exact_mod_cast counted
    rw [mul, noSignificand, ofScaled_zero, value?_zero]
  · rw [mul_of_value isLeft isRight nonzero]

theorem value?_div
    (isLeft : left.value? = some leftValue)
    (isRight : right.value? = some rightValue)
    (nonzero : rightValue ≠ 0) :
    (left.div right).value? = (nearest (leftValue / rightValue)).value? := by
  obtain ⟨leftNegative, leftSignificand, leftExponent, _, rfl, rfl⟩ := exists_of_value isLeft
  obtain ⟨rightNegative, rightSignificand, rightExponent, _, rfl, rfl⟩ := exists_of_value isRight
  have rightPositive : 0 < rightSignificand := by
    refine Nat.pos_of_ne_zero fun isZero => nonzero ?_
    simp [isZero, signedSignificand]
  have ratio := ratio_scaleDown leftSignificand rightSignificand (rightExponent - leftExponent)
  have isQuotient :
      (signedSignificand (leftNegative != rightNegative)
          (scaleDown leftSignificand rightSignificand (rightExponent - leftExponent)).1 : ℚ) /
        (scaleDown leftSignificand rightSignificand (rightExponent - leftExponent)).2 =
      signedSignificand leftNegative leftSignificand * 2 ^ leftExponent /
        (signedSignificand rightNegative rightSignificand * 2 ^ rightExponent) := by
    have unsigned :
        (leftSignificand / rightSignificand / 2 ^ (rightExponent - leftExponent) : ℚ) =
          leftSignificand * 2 ^ leftExponent / (rightSignificand * 2 ^ rightExponent) := by
      rw [zpow_sub₀ (by norm_num)]
      field_simp
    rw [unsigned] at ratio
    cases leftNegative <;> cases rightNegative <;>
      simp [signedSignificand, neg_div, div_neg, ratio]
  rw [div, if_neg rightPositive.ne', ← isQuotient]
  generalize scaledBy :
    scaleDown leftSignificand rightSignificand (rightExponent - leftExponent) = scaled
  have positive : 0 < scaled.2 := scaledBy ▸ scaleDown_pos rightPositive _
  rcases Nat.eq_zero_or_pos scaled.1 with isZero | numeratorPositive
  · rw [ofRatio, if_pos isZero, isZero, value?_zero]
    simp [signedSignificand]
  · rw [ofRatio_eq_nearest positive rfl fun isZero => absurd isZero numeratorPositive.ne']

theorem isFinite_add_iff
    (isLeft : left.value? = some leftValue)
    (isRight : right.value? = some rightValue) :
    (left.add right).isFinite = true ↔ |leftValue + rightValue| < intLimit := by
  rw [isFinite_iff_of_value?_eq (value?_add isLeft isRight), isFinite_nearest_iff]

theorem isFinite_mul_iff
    (isLeft : left.value? = some leftValue)
    (isRight : right.value? = some rightValue) :
    (left.mul right).isFinite = true ↔ |leftValue * rightValue| < intLimit := by
  rw [isFinite_iff_of_value?_eq (value?_mul isLeft isRight), isFinite_nearest_iff]

/-- A part of a count is finite and small. -/
theorem exists_share
    {part total : Nat}
    (positive : 0 < total)
    (within : part ≤ total)
    (inRange : total < intLimit) :
    ∃ value, ((ofNat part).div (ofNat total)).value? = some value ∧ |value| ≤ 8 := by
  have ordered : (part : ℚ) ≤ total := by exact_mod_cast within
  have limit : (total : ℚ) < intLimit := by exact_mod_cast inRange
  obtain ⟨partValue, isPart, partSmall, -⟩ :=
    exists_value_near (congrArg value? (ofNat_eq_nearest part))
      (by rw [Nat.abs_cast]; exact ordered.trans_lt limit)
  obtain ⟨totalValue, isTotal, -, totalLarge⟩ :=
    exists_value_near (congrArg value? (ofNat_eq_nearest total)) (by rwa [Nat.abs_cast])
  have totalNonzero : totalValue ≠ 0 :=
    nearest_ne_zero (ofNat_eq_nearest total ▸ isTotal)
      (by rw [Nat.abs_cast]; exact_mod_cast positive)
  replace totalLarge := totalLarge totalNonzero
  rw [Nat.abs_cast] at partSmall totalLarge
  have ratio : |partValue / totalValue| ≤ 4 := by
    rw [abs_div, div_le_iff₀ (abs_pos.mpr totalNonzero)]
    linarith
  have fourInRange : (4 : ℚ) < intLimit := by exact_mod_cast (by decide +kernel : 4 < intLimit)
  obtain ⟨value, isValue, small, -⟩ :=
    exists_value_near (value?_div isPart isTotal totalNonzero) (ratio.trans_lt fourInRange)
  exact ⟨value, isValue, by linarith⟩

end Binary64

/-! ## Rounding to decimals -/

namespace Amount

open Binary64

variable {number : Binary64} {value : ℚ} {digits : Int} {factor : Nat}

theorem floorOf_of_value
    (isValue : number.value? = some value) :
    floorOf number = .ok ⌊value⌋ := by
  rw [floorOf, floor?_of_value isValue]

/-- An integer in range has a finite quotient by any number of parts. -/
theorem exists_quotient
    {integer : Int}
    (inRange : integer.natAbs < intLimit)
    (factorPositive : 0 < factor) :
    ∃ quotient : Binary64,
      Amount.quotient integer factor = .ok quotient ∧ quotient.isFinite = true := by
  rw [Amount.quotient, Int.natAbs_natCast]
  generalize (decide (integer < 0) != decide ((factor : Int) < 0)) = negative
  obtain ⟨significand, exponent, canonical, finite⟩ | infinite :=
    ofRatio_cases negative integer.natAbs factor
  · exact ⟨_, by rw [finite], rfl⟩
  · rcases Nat.eq_zero_or_pos integer.natAbs with isZero | positive
    · rw [isZero] at infinite
      exact absurd infinite (by simp [ofRatio, zero])
    · rw [ofRatio_eq_infinite_iff negative positive factorPositive] at infinite
      exact absurd (infinite.trans_lt inRange)
        (Nat.le_mul_of_pos_right _ factorPositive).not_gt

/-- A finite number that has been scaled is rounded and scaled back without a fault. -/
theorem exists_scaledBack
    (finite : number.isFinite = true)
    (factorPositive : 0 < factor) :
    ∃ (floored : Int) (back : Binary64),
      floorOf (number.add (.ofRatio false 1 2)) = .ok floored ∧
        Amount.quotient floored factor = .ok back ∧ back.isFinite = true := by
  obtain ⟨value, isValue⟩ := isFinite_iff_exists_value.mp finite
  have below := abs_value_add_one_lt isValue
  have shiftedFinite : (number.add (.ofRatio false 1 2)).isFinite = true := by
    rw [isFinite_add_iff isValue value?_half]
    calc
      |value + 1 / 2| ≤ |value| + |1 / 2| := abs_add_le _ _
      _ ≤ |value| + 1 := by norm_num
      _ < intLimit := below
  obtain ⟨shifted, isShifted⟩ := isFinite_iff_exists_value.mp shiftedFinite
  have inRange : ⌊shifted⌋.natAbs < intLimit := by
    have size := abs_value_add_one_lt isShifted
    have floorSize : |(⌊shifted⌋ : ℚ)| ≤ |shifted| + 1 := by
      have low := Int.lt_floor_add_one shifted
      have high := Int.floor_le shifted
      rw [abs_le]
      constructor
      · linarith [neg_abs_le shifted]
      · linarith [le_abs_self shifted]
    have counted : ((⌊shifted⌋.natAbs : Nat) : ℚ) < intLimit := by
      rw [Nat.cast_natAbs, Int.cast_abs]
      exact floorSize.trans_lt size
    exact Nat.cast_lt.mp counted
  obtain ⟨back, isBack, backFinite⟩ := exists_quotient inRange factorPositive
  exact ⟨_, back, floorOf_of_value isShifted, isBack, backFinite⟩

/-- The factors that decimals are counted by. -/
structure IsScale (digits : Int) (factor : Nat) : Prop where
  positive : 0 < factor
  isPower : powerOfTen digits = .whole factor
  isReal : realOfInt factor = .ok (.ofNat factor)

theorem isScale_zero : IsScale 0 1 := ⟨by decide, by decide, by decide +kernel⟩

theorem isScale_one : IsScale 1 10 := ⟨by decide, by decide, by decide +kernel⟩

theorem isScale_two : IsScale 2 100 := ⟨by decide, by decide, by decide +kernel⟩

/-- A finite number is scaled, shifted by a half, cut to an integer and scaled back. -/
theorem roundHalfUp_of_isFinite
    (scale : IsScale digits factor)
    (finite : number.isFinite = true) :
    number.roundHalfUp digits = (do
      let floored ← floorOf ((number.mul (.ofNat factor)).add (.ofRatio false 1 2))
      let back ← Amount.quotient floored factor
      if digits = 0 then
        let integer ← floorOf back
        .ok (.whole integer)
      else .ok (.real back)) := by
  have scaled : (Amount.real number).mul (.whole factor) = (do
      let right ← realOfInt factor
      .ok (.real (number.mul right))) :=
    rfl
  simp only [Binary64.roundHalfUp, roundHalfUp, roundFinite, toReal, bind, Except.bind, finite,
    ↓reduceIte, scale.isPower, scaled, scale.isReal, add, scaleBack]

theorem roundHalfUp_of_not_isFinite
    (digits : Int)
    (infinite : number.isFinite = false) :
    number.roundHalfUp digits = .ok (.real number) := by
  simp only [Binary64.roundHalfUp, roundHalfUp, toReal, bind, Except.bind, infinite,
    Bool.false_eq_true, ↓reduceIte]

/-- Rounding to decimals answers when the scaled number is finite. -/
theorem exists_roundHalfUp
    (scale : IsScale digits factor)
    (decimals : digits ≠ 0)
    (scaledFinite : number.isFinite = true → (number.mul (.ofNat factor)).isFinite = true) :
    ∃ rounded : Binary64, number.roundHalfUp digits = .ok (.real rounded) := by
  cases finite : number.isFinite with
  | false =>
      exact ⟨number, roundHalfUp_of_not_isFinite digits finite⟩
  | true =>
      obtain ⟨floored, back, isFloored, isBack, -⟩ :=
        exists_scaledBack (scaledFinite finite) scale.positive
      rw [roundHalfUp_of_isFinite scale finite, isFloored]
      refine ⟨back, ?_⟩
      simp only [bind, Except.bind, isBack, if_neg decimals]

/-- Rounding a finite number to a whole number answers a whole number. -/
theorem exists_whole_of_isFinite
    (finite : number.isFinite = true) :
    ∃ integer, number.roundHalfUp 0 = .ok (.whole integer) := by
  obtain ⟨value, isValue⟩ := isFinite_iff_exists_value.mp finite
  have one : (Binary64.ofNat 1).value? = some ((1 : Nat) : ℚ) :=
    value?_ofNat (by decide)
  have scaledFinite : (number.mul (.ofNat 1)).isFinite = true := by
    rw [isFinite_mul_iff isValue one, Nat.cast_one, mul_one]
    exact (lt_add_one _).trans (abs_value_add_one_lt isValue)
  obtain ⟨floored, back, isFloored, isBack, backFinite⟩ :=
    exists_scaledBack scaledFinite isScale_zero.positive
  obtain ⟨_, isValue⟩ := isFinite_iff_exists_value.mp backFinite
  rw [roundHalfUp_of_isFinite isScale_zero finite, isFloored]
  simp only [bind, Except.bind, isBack, ↓reduceIte, floorOf_of_value isValue]
  exact ⟨_, rfl⟩

/-- Rounding to a whole number always answers. -/
theorem exists_roundHalfUp_zero
    (number : Binary64) :
    ∃ amount, number.roundHalfUp 0 = .ok amount := by
  cases finite : number.isFinite with
  | false =>
      exact ⟨_, roundHalfUp_of_not_isFinite 0 finite⟩
  | true =>
      obtain ⟨integer, isInteger⟩ := exists_whole_of_isFinite finite
      exact ⟨_, isInteger⟩

end Amount

/-! ## Rounding to two decimals -/

namespace Binary64

variable {number : Binary64}

theorem exists_roundToWhole
    (finite : number.isFinite = true) :
    ∃ integer, number.roundToWhole = .ok integer := by
  obtain ⟨integer, isInteger⟩ := Amount.exists_whole_of_isFinite finite
  exact ⟨integer, by rw [roundToWhole, isInteger]; rfl⟩

/-- A finite number whose hundredfold is out of range. -/
def IsOutsized (number : Binary64) : Prop :=
  number.isFinite = true ∧ (number.mul (.ofNat 100)).isFinite = false

instance : DecidablePred IsOutsized :=
  fun _ => inferInstanceAs (Decidable (_ ∧ _))

/-- A number rounded to two decimals, or itself when that fails. -/
def hundredths (number : Binary64) : Binary64 :=
  match number.roundHalfUp 2 with
  | .ok (.real rounded) => rounded
  | _ => number

theorem roundHalfUp_two_of_not_isOutsized
    (fits : ¬number.IsOutsized) :
    number.roundHalfUp 2 = .ok (.real number.hundredths) := by
  have scaledFinite (finite : number.isFinite = true) :
      (number.mul (.ofNat 100)).isFinite = true := by
    by_contra infinite
    exact fits ⟨finite, Bool.eq_false_iff.mpr infinite⟩
  obtain ⟨rounded, isRounded⟩ :=
    Amount.exists_roundHalfUp Amount.isScale_two (by decide) scaledFinite
  rw [hundredths, isRounded]

/-- A product of finite numbers is a number. -/
theorem mul_eq_infinite
    {other : Binary64}
    (finite : number.isFinite = true)
    (otherFinite : other.isFinite = true)
    (infinite : (number.mul other).isFinite = false) :
    ∃ negative, number.mul other = .infinite negative := by
  cases number with
  | finite _ _ _ _ =>
      cases other with
      | finite _ _ _ _ =>
          rw [mul, ofScaled] at infinite ⊢
          rcases ofRatio_cases _ _ _ with ⟨_, _, _, isFinite⟩ | isInfinite
          · rw [isFinite] at infinite
            cases infinite
          · exact ⟨_, isInfinite⟩
      | nan | infinite _ => cases otherFinite
  | nan | infinite _ => cases finite

theorem roundHalfUp_two_of_isOutsized
    (outsized : number.IsOutsized) :
    number.roundHalfUp 2 = .error .overflow := by
  obtain ⟨finite, infinite⟩ := outsized
  have hundredFinite : (ofNat 100).isFinite = true := by decide +kernel
  obtain ⟨negative, isInfinite⟩ := mul_eq_infinite finite hundredFinite infinite
  rw [Amount.roundHalfUp_of_isFinite Amount.isScale_two finite, isInfinite]
  cases negative <;> rfl

end Binary64

end Tabular
