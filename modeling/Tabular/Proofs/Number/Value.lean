import Tabular.Number.Amount
import Tabular.Proofs.Number.Rounding

namespace Tabular.Binary64

/-!
# The values of binary64 numbers

A finite binary64 number is a rational number. Comparing two of them compares these, and every
operation answers the number nearest to the exact result. So a result that is itself the value of a
binary64 number is exact.
-/

/-- The rational number that a finite number is. -/
def value? : Binary64 → Option ℚ
  | .finite negative significand exponent _ =>
      some (signedSignificand negative significand * 2 ^ exponent)
  | _ => none

/-- The number nearest to a rational number. -/
def nearest (value : ℚ) : Binary64 :=
  ofRatio (value < 0) value.num.natAbs value.den

@[simp] theorem value?_zero
    (negative : Bool) :
    (zero negative).value? = some 0 := by
  cases negative <;> simp [zero, value?, signedSignificand]

@[simp] theorem nearest_zero :
    nearest 0 = zero false := by
  simp [nearest, ofRatio]

/-- A number with a value is finite. -/
theorem exists_of_value
    {number : Binary64}
    {value : ℚ}
    (isValue : number.value? = some value) :
    ∃ negative significand exponent canonical,
      number = .finite negative significand exponent canonical ∧
        signedSignificand negative significand * 2 ^ exponent = value := by
  cases number with
  | nan =>
      simp [value?] at isValue
  | infinite negative =>
      simp [value?] at isValue
  | finite negative significand exponent canonical =>
      exact ⟨negative, significand, exponent, canonical, rfl, by simpa [value?] using isValue⟩

/-! ## Comparing -/

/-- Aligned significands count the common unit in the two numbers. -/
theorem align_spec
    (left right : Int)
    (leftExponent rightExponent : Int) :
    ((align left leftExponent right rightExponent).1 *
          2 ^ (align left leftExponent right rightExponent).2.2 : ℚ) =
        left * 2 ^ leftExponent ∧
      ((align left leftExponent right rightExponent).2.1 *
          2 ^ (align left leftExponent right rightExponent).2.2 : ℚ) =
        right * 2 ^ rightExponent := by
  have counted (significand exponent least : Int) (isLeast : least ≤ exponent) :
      ((significand * (Nat.pow 2 (exponent - least).toNat : Nat) : Int) * 2 ^ least : ℚ) =
        significand * 2 ^ exponent := by
    have parts : exponent = ((exponent - least).toNat : Int) + least := by omega
    conv_rhs => rw [parts, zpow_add₀ (by norm_num), zpow_natCast]
    push_cast [Nat.pow_eq]
    ring
  exact ⟨counted left leftExponent _ (min_le_left _ _),
    counted right rightExponent _ (min_le_right _ _)⟩

/-- Finite numbers are equal when their values are. -/
theorem eqv_iff_of_value
    {left right : Binary64}
    {leftValue rightValue : ℚ}
    (isLeft : left.value? = some leftValue)
    (isRight : right.value? = some rightValue) :
    left.eqv right = true ↔ leftValue = rightValue := by
  obtain ⟨leftNegative, leftSignificand, leftExponent, _, rfl, rfl⟩ := exists_of_value isLeft
  obtain ⟨rightNegative, rightSignificand, rightExponent, _, rfl, rfl⟩ := exists_of_value isRight
  obtain ⟨leftAligned, rightAligned⟩ :=
    align_spec (signedSignificand leftNegative leftSignificand)
      (signedSignificand rightNegative rightSignificand) leftExponent rightExponent
  rw [← leftAligned, ← rightAligned, mul_left_inj' (by positivity), Int.cast_inj]
  simp [eqv, compare?]

/-- A finite number is less than another one when its value is. -/
theorem lt_iff_of_value
    {left right : Binary64}
    {leftValue rightValue : ℚ}
    (isLeft : left.value? = some leftValue)
    (isRight : right.value? = some rightValue) :
    left.lt right = true ↔ leftValue < rightValue := by
  obtain ⟨leftNegative, leftSignificand, leftExponent, _, rfl, rfl⟩ := exists_of_value isLeft
  obtain ⟨rightNegative, rightSignificand, rightExponent, _, rfl, rfl⟩ := exists_of_value isRight
  obtain ⟨leftAligned, rightAligned⟩ :=
    align_spec (signedSignificand leftNegative leftSignificand)
      (signedSignificand rightNegative rightSignificand) leftExponent rightExponent
  rw [← leftAligned, ← rightAligned, mul_lt_mul_iff_left₀ (by positivity), Int.cast_lt]
  simp [lt, compare?, compare_lt_iff_lt]

/-- A value with a negative exponent is a quotient. -/
theorem value_of_neg_exponent
    {exponent : Int}
    (isNegative : exponent < 0)
    (significand : Int) :
    (significand * 2 ^ exponent : ℚ) =
      significand / (Nat.pow 2 (-exponent).toNat : Nat) := by
  have parts : exponent = -((-exponent).toNat : Int) := by omega
  conv_lhs => rw [parts, zpow_neg, zpow_natCast]
  push_cast [Nat.pow_eq]
  rw [div_eq_mul_inv]

/-- A value with another exponent is an integer. -/
theorem value_of_exponent
    {exponent : Int}
    (notNegative : 0 ≤ exponent)
    (significand : Int) :
    (significand * 2 ^ exponent : ℚ) =
      (significand * (Nat.pow 2 exponent.toNat : Nat) : Int) := by
  have parts : exponent = (exponent.toNat : Int) := by omega
  conv_lhs => rw [parts, zpow_natCast]
  push_cast [Nat.pow_eq]
  rfl

/-- A finite number is an integer when its value is one. -/
theorem toInt?_eq_some_iff
    {number : Binary64}
    {integer : Int} :
    number.toInt? = some integer ↔ number.value? = some (integer : ℚ) := by
  cases number with
  | nan =>
      simp [toInt?, value?]
  | infinite negative =>
      simp [toInt?, value?]
  | finite negative significand exponent _ =>
      by_cases notNegative : 0 ≤ exponent
      · simp only [toInt?, if_pos notNegative, value?, Option.some.injEq,
          value_of_exponent notNegative, Int.cast_inj]
      · have unitPositive : 0 < Nat.pow 2 (-exponent).toNat := Nat.pow_pos (by decide)
        have unitNonzero : ((Nat.pow 2 (-exponent).toNat : Nat) : ℚ) ≠ 0 := by
          exact_mod_cast unitPositive.ne'
        have counted :
            (signedSignificand negative significand : ℚ) /
                (Nat.pow 2 (-exponent).toNat : Nat) = integer ↔
              signedSignificand negative significand =
                integer * (Nat.pow 2 (-exponent).toNat : Nat) := by
          rw [div_eq_iff unitNonzero]
          exact_mod_cast Iff.rfl
        simp only [toInt?, if_neg notNegative, value?, Option.some.injEq,
          value_of_neg_exponent (not_le.mp notNegative), counted]
        generalize Nat.pow 2 (-exponent).toNat = unit at unitPositive
        have natAbs_signed (natural : Nat) :
            (signedSignificand negative natural).natAbs = natural := by
          cases negative <;> simp [signedSignificand]
        split_ifs with whole
        · have exact : significand / unit * unit = significand :=
            Nat.div_mul_cancel (Nat.dvd_of_mod_eq_zero whole)
          have signedExact :
              signedSignificand negative significand =
                signedSignificand negative (significand / unit) * unit := by
            conv_lhs => rw [← exact]
            cases negative <;> simp [signedSignificand]
          rw [signedExact, Option.some.injEq,
            mul_left_inj' (by exact_mod_cast unitPositive.ne')]
        · refine iff_of_false (by simp) fun counted => whole ?_
          have sizes := congrArg Int.natAbs counted
          rw [natAbs_signed, Int.natAbs_mul, Int.natAbs_natCast] at sizes
          rw [sizes, Nat.mul_mod_left]

/-- The integer part of a finite number is that of its value. -/
theorem floor?_of_value
    {number : Binary64}
    {value : ℚ}
    (isValue : number.value? = some value) :
    number.floor? = some ⌊value⌋ := by
  obtain ⟨negative, significand, exponent, _, rfl, rfl⟩ := exists_of_value isValue
  rw [floor?]
  congr 1
  split_ifs with notNegative
  · rw [value_of_exponent notNegative, Int.floor_intCast]
  · rw [value_of_neg_exponent (not_le.mp notNegative), Rat.floor_intCast_div_natCast]

/-! ## Operations -/

theorem signed_natAbs
    (number : Int) :
    signedSignificand (decide (number < 0)) number.natAbs = number := by
  by_cases isNegative : number < 0
  · simp only [isNegative, decide_true, signedSignificand, ↓reduceIte]
    omega
  · simp only [isNegative, decide_false, signedSignificand, Bool.false_eq_true, ↓reduceIte]
    omega

/-- The number of a ratio is the one nearest to it; a zero has no sign of its own. -/
theorem ofRatio_eq_nearest
    {negative : Bool}
    {numerator denominator : Nat}
    {value : ℚ}
    (denominatorPositive : 0 < denominator)
    (isValue : (signedSignificand negative numerator : ℚ) / denominator = value)
    (signed : numerator = 0 → negative = false) :
    ofRatio negative numerator denominator = nearest value := by
  have positive : (0 : ℚ) < denominator := by exact_mod_cast denominatorPositive
  have size : (numerator / denominator : ℚ) = value.num.natAbs / value.den := by
    calc
      (numerator / denominator : ℚ) = |value| := by
        rw [← isValue, abs_div, abs_of_pos positive]
        cases negative <;> simp [signedSignificand]
      _ = value.num.natAbs / value.den := by
        conv_lhs => rw [← Rat.num_div_den value]
        rw [abs_div, Nat.abs_cast, Nat.cast_natAbs, Int.cast_abs]
  have sign : negative = decide (value < 0) := by
    rw [← isValue, eq_comm]
    cases negative with
    | false =>
        simp [signedSignificand, div_nonneg]
    | true =>
        have nonzero : 0 < numerator :=
          Nat.pos_of_ne_zero fun isZero => absurd (signed isZero) (by decide)
        have below : -(numerator : ℚ) / denominator < 0 :=
          div_neg_of_neg_of_pos (neg_neg_of_pos (by exact_mod_cast nonzero)) positive
        simpa [signedSignificand] using below
  rw [nearest, ← sign]
  apply ofRatio_congr negative denominatorPositive value.den_pos
  rw [div_eq_div_iff positive.ne' (by exact_mod_cast value.den_nz)] at size
  exact_mod_cast size

/-- A scaled significand is rounded to the number nearest to its value. -/
theorem ofScaled_eq_nearest
    {negative : Bool}
    {significand : Nat}
    {exponent : Int}
    (signed : significand = 0 → negative = false) :
    ofScaled negative significand exponent =
      nearest (signedSignificand negative significand * 2 ^ exponent) := by
  have ratio := ratio_scaleDown significand 1 (-exponent)
  rw [Nat.cast_one, div_one, zpow_neg, div_inv_eq_mul] at ratio
  have signedRatio :
      (signedSignificand negative (scaleDown significand 1 (-exponent)).1 : ℚ) /
          (scaleDown significand 1 (-exponent)).2 =
        signedSignificand negative significand * 2 ^ exponent := by
    cases negative <;>
      simp [signedSignificand, neg_div, ratio]
  refine ofRatio_eq_nearest (scaleDown_pos Nat.one_pos _) signedRatio ?_
  intro isZero
  rw [isZero, Nat.cast_zero, zero_div, eq_comm, mul_eq_zero] at ratio
  exact signed (by exact_mod_cast ratio.resolve_right (by positivity))

/-- A sum is the number nearest to the exact sum, unless that is zero. -/
theorem add_of_value
    {left right : Binary64}
    {leftValue rightValue : ℚ}
    (isLeft : left.value? = some leftValue)
    (isRight : right.value? = some rightValue)
    (nonzero : leftValue + rightValue ≠ 0) :
    left.add right = nearest (leftValue + rightValue) := by
  obtain ⟨leftNegative, leftSignificand, leftExponent, _, rfl, rfl⟩ := exists_of_value isLeft
  obtain ⟨rightNegative, rightSignificand, rightExponent, _, rfl, rfl⟩ := exists_of_value isRight
  obtain ⟨leftAligned, rightAligned⟩ :=
    align_spec (signedSignificand leftNegative leftSignificand)
      (signedSignificand rightNegative rightSignificand) leftExponent rightExponent
  rw [← leftAligned, ← rightAligned, ← add_mul, ← Int.cast_add] at nonzero ⊢
  have total := Int.cast_ne_zero.mp (left_ne_zero_of_mul nonzero)
  rw [add]
  simp only [if_neg total]
  rw [ofScaled_eq_nearest fun isZero => absurd (Int.natAbs_eq_zero.mp isZero) total,
    signed_natAbs]

/-- A product is the number nearest to the exact product, unless that is zero. -/
theorem mul_of_value
    {left right : Binary64}
    {leftValue rightValue : ℚ}
    (isLeft : left.value? = some leftValue)
    (isRight : right.value? = some rightValue)
    (nonzero : leftValue * rightValue ≠ 0) :
    left.mul right = nearest (leftValue * rightValue) := by
  obtain ⟨leftNegative, leftSignificand, leftExponent, _, rfl, rfl⟩ := exists_of_value isLeft
  obtain ⟨rightNegative, rightSignificand, rightExponent, _, rfl, rfl⟩ := exists_of_value isRight
  have product :
      (signedSignificand (leftNegative != rightNegative)
          (leftSignificand * rightSignificand) : ℚ) *
          2 ^ (leftExponent + rightExponent) =
        signedSignificand leftNegative leftSignificand * 2 ^ leftExponent *
          (signedSignificand rightNegative rightSignificand * 2 ^ rightExponent) := by
    rw [zpow_add₀ (by norm_num)]
    cases leftNegative <;> cases rightNegative <;>
      simp only [signedSignificand, bne_self_eq_false, Bool.false_eq_true, ↓reduceIte,
        Bool.true_bne, Bool.false_bne, Bool.not_false] <;>
      push_cast <;> ring
  rw [mul, ofScaled_eq_nearest, product]
  intro isZero
  rw [← product, isZero] at nonzero
  simp [signedSignificand] at nonzero

/-! ## Exact values -/

/-- A value other than zero has one number, which is the nearest one. -/
theorem nearest_of_value
    {number : Binary64}
    {value : ℚ}
    (isValue : number.value? = some value)
    (nonzero : value ≠ 0) :
    nearest value = number := by
  obtain ⟨negative, significand, exponent, canonical, rfl, rfl⟩ := exists_of_value isValue
  have significandPositive : 0 < significand := by
    refine Nat.pos_of_ne_zero fun isZero => nonzero ?_
    simp [isZero, signedSignificand]
  rw [← ofScaled_eq_nearest fun isZero => absurd isZero significandPositive.ne', ofScaled]
  have ratio := ratio_scaleDown significand 1 (-exponent)
  rw [Nat.cast_one, div_one, zpow_neg, div_inv_eq_mul] at ratio
  have numeratorPositive : 0 < (scaleDown significand 1 (-exponent)).1 := by
    refine Nat.pos_of_ne_zero fun isZero => ?_
    rw [isZero, Nat.cast_zero, zero_div, eq_comm, mul_eq_zero] at ratio
    exact significandPositive.ne' (by exact_mod_cast ratio.resolve_right (by positivity))
  apply ofRatio_of_near negative canonical numeratorPositive (scaleDown_pos Nat.one_pos _) ratio
  · norm_num
  · norm_num

/-- A significand of at most 53 bits in the range of the exponents is the value of a number. -/
theorem exists_value
    {significand exponent : Int}
    (small : significand.natAbs < Nat.pow 2 53)
    (low : -1074 ≤ exponent)
    (high : exponent ≤ 971) :
    ∃ number : Binary64, number.value? = some (significand * 2 ^ exponent : ℚ) := by
  rcases eq_or_ne significand 0 with rfl | nonzero
  · exact ⟨zero false, by simp [value?_zero]⟩
  have positive : significand.natAbs ≠ 0 := Int.natAbs_ne_zero.mpr nonzero
  have lower : Nat.pow 2 significand.natAbs.log2 ≤ significand.natAbs :=
    Nat.log2_self_le positive
  have upper : significand.natAbs < Nat.pow 2 (significand.natAbs.log2 + 1) :=
    Nat.lt_log2_self
  have bits : significand.natAbs.log2 ≤ 52 :=
    Nat.lt_succ_iff.mp ((Nat.log2_lt positive).mpr small)
  obtain ⟨shift, isShift⟩ :
      ∃ shift, shift = min (52 - significand.natAbs.log2) (exponent + 1074).toNat := ⟨_, rfl⟩
  have canonical : CanonicalPair (significand.natAbs * Nat.pow 2 shift) (exponent - shift) := by
    refine ⟨?_, by omega, by omega, ?_⟩
    · calc
        significand.natAbs * Nat.pow 2 shift <
            Nat.pow 2 (significand.natAbs.log2 + 1) * Nat.pow 2 shift :=
          Nat.mul_lt_mul_of_pos_right upper (Nat.pow_pos (by decide))
        _ = Nat.pow 2 (significand.natAbs.log2 + 1 + shift) := (Nat.pow_add ..).symm
        _ ≤ Nat.pow 2 53 := Nat.pow_le_pow_right (by decide) (by omega)
    · by_cases full : shift = 52 - significand.natAbs.log2
      · left
        calc
          Nat.pow 2 52 = Nat.pow 2 (significand.natAbs.log2 + shift) :=
            congrArg (Nat.pow 2) (by omega)
          _ = Nat.pow 2 significand.natAbs.log2 * Nat.pow 2 shift := Nat.pow_add ..
          _ ≤ significand.natAbs * Nat.pow 2 shift := Nat.mul_le_mul_right _ lower
      · right
        omega
  refine ⟨.finite (decide (significand < 0)) _ _ canonical, ?_⟩
  have signed :
      signedSignificand (decide (significand < 0)) (significand.natAbs * Nat.pow 2 shift) =
        significand * (Nat.pow 2 shift : Nat) := by
    conv_rhs => rw [← signed_natAbs significand]
    cases decide (significand < 0) <;> simp [signedSignificand]
  rw [value?, signed, zpow_sub₀ (by norm_num), zpow_natCast]
  congr 1
  push_cast [Nat.pow_eq]
  field_simp

/-- Such a value is that of the number nearest to it. -/
theorem value?_nearest
    {significand exponent : Int}
    (small : significand.natAbs < Nat.pow 2 53)
    (low : -1074 ≤ exponent)
    (high : exponent ≤ 971) :
    (nearest (significand * 2 ^ exponent)).value? = some (significand * 2 ^ exponent : ℚ) := by
  obtain ⟨number, isValue⟩ := exists_value small low high
  rcases eq_or_ne (significand * 2 ^ exponent : ℚ) 0 with isZero | nonzero
  · rw [isZero, nearest_zero, value?_zero]
  · rw [nearest_of_value isValue nonzero, isValue]

end Tabular.Binary64
