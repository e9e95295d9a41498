import Mathlib.Tactic
import Tabular.Number.Decimal
import Tabular.Proofs.Number.Rounding

namespace Tabular.Decimal

/-!
# Decimals as binary64 numbers

The number that a decimal stands for depends on the value of the decimal alone, so zeros at its end
do not count. A decimal whose value lies within half a unit in the last place of a number stands for
it.
-/

/-! ## Digits and magnitude -/

/-- A positive number lies between the powers of ten that its digits tell. -/
theorem digitCount_bounds
    {value : Nat}
    (positive : 0 < value) :
    (10 : ℚ) ^ ((digitCount value : Int) - 1) ≤ value ∧
      (value : ℚ) < 10 ^ (digitCount value : Int) := by
  have nonempty : 0 < (Nat.toDigits 10 value).length :=
    Nat.length_toDigits_pos
  have count : digitCount value = (Nat.toDigits 10 value).length :=
    if_neg positive.ne'
  rw [count]
  constructor
  · rcases Nat.lt_or_ge 1 (Nat.toDigits 10 value).length with several | single
    · have notShorter :
          10 ^ ((Nat.toDigits 10 value).length - 1) ≤ value := by
        by_contra shorter
        have := (Nat.length_toDigits_le_iff (by decide) (by omega)).mpr
          (not_le.mp shorter)
        omega
      rw [show ((Nat.toDigits 10 value).length : Int) - 1 =
        ((Nat.toDigits 10 value).length - 1 : Nat) by omega, zpow_natCast]
      exact_mod_cast notShorter
    · rw [show ((Nat.toDigits 10 value).length : Int) - 1 = 0 by omega,
        zpow_zero]
      exact_mod_cast positive
  · rw [zpow_natCast]
    exact_mod_cast
      (Nat.length_toDigits_le_iff (by decide) nonempty).mp le_rfl

/-- The digits of a positive number are counted by the powers of ten around it. -/
theorem digitCount_eq
    {value count : Nat}
    (positive : 0 < value)
    (low : (10 : ℚ) ^ ((count : Int) - 1) ≤ value)
    (high : (value : ℚ) < 10 ^ (count : Int)) :
    digitCount value = count := by
  obtain ⟨countedLow, countedHigh⟩ := digitCount_bounds positive
  have notLess : (count : Int) - 1 < digitCount value :=
    (zpow_lt_zpow_iff_right₀ (by norm_num : (1 : ℚ) < 10)).mp
      (low.trans_lt countedHigh)
  have notMore : (digitCount value : Int) - 1 < count :=
    (zpow_lt_zpow_iff_right₀ (by norm_num : (1 : ℚ) < 10)).mp
      (countedLow.trans_lt high)
  omega

theorem digitCount_mul_ten
    {value : Nat}
    (positive : 0 < value) :
    digitCount (value * 10) = digitCount value + 1 := by
  obtain ⟨low, high⟩ := digitCount_bounds positive
  refine digitCount_eq (by omega) ?_ ?_
  · push_cast
    rw [add_sub_cancel_right, ← sub_add_cancel (digitCount value : Int) 1,
      zpow_add_one₀ (by norm_num)]
    gcongr
  · push_cast
    rw [zpow_add_one₀ (by norm_num)]
    gcongr

/-! ## The number of a decimal -/

theorem exists_ratio
    (digits : Nat)
    (exponent : Int) :
    ∃ numerator denominator : Nat,
      0 < denominator ∧
        (numerator / denominator : ℚ) = digits * 10 ^ exponent := by
  refine ⟨digits * 10 ^ exponent.toNat, 10 ^ (-exponent).toNat,
    by positivity, ?_⟩
  push_cast
  rw [mul_div_assoc, ← zpow_natCast, ← zpow_natCast,
    ← zpow_sub₀ (by norm_num)]
  congr 2
  omega

/-- A decimal of moderate magnitude stands for the number nearest to its value. -/
theorem toBinary64_eq_ofRatio
    {digits numerator denominator : Nat}
    {exponent : Int}
    (negative : Bool)
    (digitsPositive : 0 < digits)
    (denominatorPositive : 0 < denominator)
    (notHuge : exponent + digitCount digits ≤ 400)
    (notTiny : -400 ≤ exponent + digitCount digits)
    (ratio : (numerator / denominator : ℚ) = digits * 10 ^ exponent) :
    toBinary64 negative digits exponent =
      Binary64.ofRatio negative numerator denominator := by
  have denominatorNonzero : (denominator : ℚ) ≠ 0 := by
    exact_mod_cast denominatorPositive.ne'
  rw [toBinary64, if_neg digitsPositive.ne', if_neg (not_lt.mpr notHuge),
    if_neg (not_lt.mpr notTiny)]
  split
  · next whole =>
      refine Binary64.ofRatio_congr negative Nat.one_pos
        denominatorPositive ?_
      rw [← Int.toNat_of_nonneg whole, zpow_natCast,
        div_eq_iff denominatorNonzero] at ratio
      rw [Nat.mul_one]
      exact_mod_cast ratio.symm
  · next broken =>
      have power : exponent = -((-exponent).toNat : Int) := by omega
      refine Binary64.ofRatio_congr negative
        (Nat.pow_pos (by decide)) denominatorPositive ?_
      rw [power, zpow_neg, zpow_natCast, ← div_eq_mul_inv,
        div_eq_div_iff denominatorNonzero (by positivity)] at ratio
      exact_mod_cast ratio.symm

/-- A decimal beyond the range of the numbers stands for an infinity. -/
theorem toBinary64_of_huge
    {digits : Nat}
    {exponent : Int}
    (negative : Bool)
    (positive : 0 < digits)
    (huge : 400 < exponent + digitCount digits) :
    toBinary64 negative digits exponent = .infinite negative := by
  rw [toBinary64, if_neg positive.ne', if_pos huge]

/-- A decimal far below the least number stands for a zero. -/
theorem toBinary64_of_tiny
    {digits : Nat}
    {exponent : Int}
    (negative : Bool)
    (positive : 0 < digits)
    (tiny : exponent + digitCount digits < -400) :
    toBinary64 negative digits exponent = .zero negative := by
  rw [toBinary64, if_neg positive.ne', if_neg (by omega), if_pos tiny]

/-- A zero at the end does not change the number of a decimal. -/
theorem toBinary64_mul_ten
    (negative : Bool)
    (digits : Nat)
    (exponent : Int) :
    toBinary64 negative (digits * 10) (exponent - 1) =
      toBinary64 negative digits exponent := by
  rcases Nat.eq_zero_or_pos digits with rfl | positive
  · rfl
  · have count : exponent - 1 + (digitCount (digits * 10) : Int) =
        exponent + digitCount digits := by
      rw [digitCount_mul_ten positive]
      push_cast
      ring
    by_cases huge : 400 < exponent + digitCount digits
    · rw [toBinary64_of_huge negative positive huge,
        toBinary64_of_huge negative (by omega) (by omega)]
    · by_cases tiny : exponent + digitCount digits < -400
      · rw [toBinary64_of_tiny negative positive tiny,
          toBinary64_of_tiny negative (by omega) (by omega)]
      · obtain ⟨numerator, denominator, denominatorPositive, ratio⟩ :=
          exists_ratio digits exponent
        rw [toBinary64_eq_ofRatio negative positive denominatorPositive
            (by omega) (by omega) ratio,
          toBinary64_eq_ofRatio negative (by omega) denominatorPositive
            (by omega) (by omega)]
        rw [ratio]
        push_cast
        rw [zpow_sub_one₀ (by norm_num)]
        ring

theorem toBinary64_mul_pow
    (negative : Bool)
    (digits zeros : Nat)
    (exponent : Int) :
    toBinary64 negative (digits * 10 ^ zeros) (exponent - zeros) =
      toBinary64 negative digits exponent := by
  induction zeros with
  | zero =>
      simp
  | succ zeros inductionHypothesis =>
      rw [Nat.pow_succ, ← Nat.mul_assoc, Nat.cast_succ, ← sub_sub,
        toBinary64_mul_ten, inductionHypothesis]

/-- The greatest power of two below the numbers that are out of range is a moderate decimal. -/
theorem two_pow_lt_ten_pow :
    (2 : ℚ) ^ (1024 : Int) < 10 ^ (400 : Int) := by
  have natural : 2 ^ 1024 < 10 ^ 400 := by decide +kernel
  exact_mod_cast natural

/-- Half of the least number is a moderate decimal. -/
theorem ten_pow_neg_lt_two_pow_neg :
    (10 : ℚ) ^ (-400 : Int) < 2 ^ (-1075 : Int) := by
  have natural : 2 ^ 1075 < 10 ^ 400 := by decide +kernel
  rw [zpow_neg, zpow_neg]
  gcongr
  exact_mod_cast natural

/-- A positive decimal is of moderate magnitude when it is at least half of the least number. -/
theorem exponent_bounds
    {digits : Nat}
    {power : Int}
    (positive : 0 < digits)
    (low : (2 : ℚ) ^ (-1075 : Int) ≤ digits * 10 ^ power)
    (high : (digits * 10 ^ power : ℚ) ≤ 2 ^ (1024 : Int)) :
    -400 ≤ power + digitCount digits ∧ power + digitCount digits ≤ 400 := by
  obtain ⟨countLow, countHigh⟩ := digitCount_bounds positive
  have notTiny :
      (10 : ℚ) ^ (-400 : Int) < 10 ^ ((digitCount digits : Int) + power) := by
    calc
      (10 : ℚ) ^ (-400 : Int) < 2 ^ (-1075 : Int) :=
        ten_pow_neg_lt_two_pow_neg
      _ ≤ digits * 10 ^ power := low
      _ ≤ 10 ^ ((digitCount digits : Int) + power) := by
        rw [zpow_add₀ (by norm_num)]
        gcongr
  have notHuge :
      (10 : ℚ) ^ ((digitCount digits : Int) - 1 + power) <
        10 ^ (400 : Int) := by
    calc
      (10 : ℚ) ^ ((digitCount digits : Int) - 1 + power) ≤
          digits * 10 ^ power := by
        rw [zpow_add₀ (by norm_num)]
        gcongr
      _ ≤ 2 ^ (1024 : Int) := high
      _ < 10 ^ (400 : Int) := two_pow_lt_ten_pow
  rw [zpow_lt_zpow_iff_right₀ (by norm_num)] at notTiny notHuge
  omega

/-- What lies less than half a unit away from a positive number is within the range of numbers. -/
theorem value_bounds
    {significand : Nat}
    {exponent : Int}
    (scaled : ℚ)
    (canonical : CanonicalPair significand exponent)
    (positive : 0 < significand)
    (near : |scaled - significand| < 1 / 2) :
    (2 : ℚ) ^ (-1075 : Int) ≤ scaled * 2 ^ exponent ∧
      scaled * 2 ^ exponent ≤ (2 : ℚ) ^ (1024 : Int) := by
  obtain ⟨scaledLow, scaledHigh⟩ := abs_lt.mp near
  have significandLow : (1 : ℚ) ≤ significand := by
    exact_mod_cast positive
  have significandHigh : (significand + 1 : ℚ) ≤ 2 ^ (53 : Int) := by
    exact_mod_cast (canonical.1 : significand + 1 ≤ 2 ^ 53)
  constructor
  · calc
      (2 : ℚ) ^ (-1075 : Int) = 2 ^ (-1 : Int) * 2 ^ (-1074 : Int) := by
        rw [← zpow_add₀ (by norm_num)]
        rfl
      _ ≤ scaled * 2 ^ exponent := by
        have : (2 : ℚ) ^ (-1 : Int) ≤ scaled := by
          norm_num
          linarith
        gcongr
        · norm_num
        · exact canonical.2.1
  · calc
      scaled * 2 ^ exponent ≤ (2 : ℚ) ^ (53 : Int) * 2 ^ (971 : Int) := by
        have : scaled ≤ (2 : ℚ) ^ (53 : Int) := by linarith
        gcongr
        · norm_num
        · exact canonical.2.2.1
      _ = 2 ^ (1024 : Int) := by
        rw [← zpow_add₀ (by norm_num)]
        rfl

/--
A decimal of positive value reads as a number when its value is less than half a unit in the last
place away, and less than a quarter of a unit when it lies below a power of two.
-/
theorem toBinary64_of_near
    {digits significand : Nat}
    {exponent power : Int}
    {scaled : ℚ}
    (negative : Bool)
    (canonical : CanonicalPair significand exponent)
    (significandPositive : 0 < significand)
    (digitsPositive : 0 < digits)
    (value : (digits * 10 ^ power : ℚ) = scaled * 2 ^ exponent)
    (near : |scaled - significand| < 1 / 2)
    (nearBelow : significand = Nat.pow 2 52 → significand - scaled < 1 / 4) :
    toBinary64 negative digits power =
      .finite negative significand exponent canonical := by
  obtain ⟨low, high⟩ := value_bounds scaled canonical significandPositive near
  rw [← value] at low high
  obtain ⟨notTiny, notHuge⟩ := exponent_bounds digitsPositive low high
  obtain ⟨numerator, denominator, denominatorPositive, ratio⟩ :=
    exists_ratio digits power
  have numeratorPositive : 0 < numerator := by
    have valuePositive : (0 : ℚ) < numerator / denominator := by
      rw [ratio]
      positivity
    rcases Nat.eq_zero_or_pos numerator with rfl | positive
    · simp at valuePositive
    · exact positive
  rw [toBinary64_eq_ofRatio negative digitsPositive denominatorPositive
    notHuge notTiny ratio]
  exact Binary64.ofRatio_of_near negative canonical numeratorPositive
    denominatorPositive (ratio.trans value) near nearBelow

end Tabular.Decimal
