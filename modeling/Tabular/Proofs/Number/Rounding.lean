import Mathlib.Tactic
import Tabular.Number.Binary64

namespace Tabular.Binary64

/-!
# Rounding to binary64

The nearest binary64 number to a ratio depends on the value of the ratio alone. A ratio that lies
within half a unit in the last place of a number rounds to it; below a power of two, where the
numbers lie closer together, a quarter of a unit is allowed.
-/

/-! ## Ratios -/

/-- Dividing a ratio by a power of two divides its value. -/
theorem ratio_scaleDown
    (numerator denominator : Nat)
    (exponent : Int) :
    ((scaleDown numerator denominator exponent).1 : ℚ) /
        (scaleDown numerator denominator exponent).2 =
      numerator / denominator / 2 ^ exponent := by
  cases exponent with
  | ofNat k =>
      simp [scaleDown, div_div]
  | negSucc k =>
      simp [scaleDown, zpow_negSucc]
      ring

theorem scaleDown_pos
    {numerator denominator : Nat}
    (positive : 0 < denominator)
    (exponent : Int) :
    0 < (scaleDown numerator denominator exponent).2 := by
  cases exponent with
  | ofNat k =>
      exact Nat.mul_pos positive (Nat.pow_pos (by decide))
  | negSucc k =>
      exact positive

theorem scaleDown_mul_right
    (numerator denominator factor : Nat)
    (exponent : Int) :
    scaleDown (numerator * factor) (denominator * factor) exponent =
      ((scaleDown numerator denominator exponent).1 * factor,
        (scaleDown numerator denominator exponent).2 * factor) := by
  cases exponent with
  | ofNat k =>
      simp only [scaleDown, Prod.mk.injEq, true_and]
      ring
  | negSucc k =>
      simp only [scaleDown, Prod.mk.injEq, and_true]
      ring

/-! ## The order of magnitude -/

theorem log2_bounds
    {number : Nat}
    (positive : 0 < number) :
    (2 : ℚ) ^ (number.log2 : Int) ≤ number ∧
      (number : ℚ) < 2 ^ ((number.log2 : Int) + 1) := by
  constructor
  · exact_mod_cast Nat.log2_self_le positive.ne'
  · exact_mod_cast Nat.lt_log2_self (n := number)

/--
A ratio lies between the power of two that is found for it and the next one: the difference of the
orders is right or one too high, and the comparison tells which.
-/
theorem floorLog2_bounds
    {numerator denominator : Nat}
    (numeratorPositive : 0 < numerator)
    (denominatorPositive : 0 < denominator) :
    (2 : ℚ) ^ floorLog2 numerator denominator ≤ numerator / denominator ∧
      (numerator / denominator : ℚ) <
        2 ^ (floorLog2 numerator denominator + 1) := by
  obtain ⟨numeratorLow, numeratorHigh⟩ := log2_bounds numeratorPositive
  obtain ⟨denominatorLow, denominatorHigh⟩ := log2_bounds denominatorPositive
  have positive : (0 : ℚ) < denominator := by exact_mod_cast denominatorPositive
  set estimate : Int := numerator.log2 - denominator.log2 with estimateIs
  have notBelow : (2 : ℚ) ^ (estimate - 1) ≤ numerator / denominator := by
    rw [le_div_iff₀ positive]
    calc
      (2 : ℚ) ^ (estimate - 1) * denominator ≤
          2 ^ (estimate - 1) * 2 ^ ((denominator.log2 : Int) + 1) := by
        gcongr
      _ = 2 ^ (numerator.log2 : Int) := by
        rw [← zpow_add₀ (by norm_num)]
        congr 1
        omega
      _ ≤ numerator := numeratorLow
  have notAbove : (numerator / denominator : ℚ) < 2 ^ (estimate + 1) := by
    rw [div_lt_iff₀ positive]
    calc
      (numerator : ℚ) < 2 ^ ((numerator.log2 : Int) + 1) := numeratorHigh
      _ = 2 ^ (estimate + 1) * 2 ^ (denominator.log2 : Int) := by
        rw [← zpow_add₀ (by norm_num)]
        congr 1
        omega
      _ ≤ 2 ^ (estimate + 1) * denominator := by
        gcongr
  have scaledPositive :
      (0 : ℚ) < (scaleDown numerator denominator estimate).2 := by
    exact_mod_cast scaleDown_pos denominatorPositive estimate
  have reaches :
      (scaleDown numerator denominator estimate).2 ≤
          (scaleDown numerator denominator estimate).1 ↔
        (2 : ℚ) ^ estimate ≤ numerator / denominator := by
    rw [← one_le_div₀ (by positivity : (0 : ℚ) < 2 ^ estimate),
      ← ratio_scaleDown, one_le_div₀ scaledPositive]
    exact Nat.cast_le.symm
  unfold floorLog2
  rw [← estimateIs]
  dsimp only
  split
  · next reached =>
      exact ⟨reaches.mp reached, notAbove⟩
  · next missed =>
      refine ⟨notBelow, ?_⟩
      rw [sub_add_cancel]
      exact not_le.mp fun reached => missed (reaches.mpr reached)

/-- The power of two below a ratio is determined by the value of the ratio. -/
theorem floorLog2_eq
    {numerator denominator : Nat}
    {power : Int}
    (numeratorPositive : 0 < numerator)
    (denominatorPositive : 0 < denominator)
    (low : (2 : ℚ) ^ power ≤ numerator / denominator)
    (high : (numerator / denominator : ℚ) < 2 ^ (power + 1)) :
    floorLog2 numerator denominator = power := by
  obtain ⟨foundLow, foundHigh⟩ :=
    floorLog2_bounds numeratorPositive denominatorPositive
  have notBelow : power < floorLog2 numerator denominator + 1 :=
    (zpow_lt_zpow_iff_right₀ (by norm_num : (1 : ℚ) < 2)).mp
      (low.trans_lt foundHigh)
  have notAbove : floorLog2 numerator denominator < power + 1 :=
    (zpow_lt_zpow_iff_right₀ (by norm_num : (1 : ℚ) < 2)).mp
      (foundLow.trans_lt high)
  omega

theorem floorLog2_mul_right
    {numerator denominator factor : Nat}
    (numeratorPositive : 0 < numerator)
    (denominatorPositive : 0 < denominator)
    (factorPositive : 0 < factor) :
    floorLog2 (numerator * factor) (denominator * factor) =
      floorLog2 numerator denominator := by
  have same :
      ((numerator * factor : Nat) : ℚ) / (denominator * factor : Nat) =
        numerator / denominator := by
    push_cast
    exact mul_div_mul_right _ _ (by exact_mod_cast factorPositive.ne')
  obtain ⟨low, high⟩ :=
    floorLog2_bounds numeratorPositive denominatorPositive
  refine floorLog2_eq (Nat.mul_pos numeratorPositive factorPositive)
    (Nat.mul_pos denominatorPositive factorPositive) ?_ ?_
  · rwa [same]
  · rwa [same]

/-! ## The nearest integer -/

theorem nearestEven_mul_right
    (numerator denominator : Nat)
    {factor : Nat}
    (factorPositive : 0 < factor) :
    nearestEven (numerator * factor) (denominator * factor) =
      nearestEven numerator denominator := by
  simp only [nearestEven, Nat.mul_div_mul_right _ _ factorPositive,
    Nat.mul_mod_mul_right, ← Nat.mul_assoc,
    Nat.mul_lt_mul_right factorPositive]

/-- The nearest integer to a ratio is the one less than a half away. -/
theorem nearestEven_eq
    {numerator denominator nearest : Nat}
    (positive : 0 < denominator)
    (near : |(numerator / denominator : ℚ) - nearest| < 1 / 2) :
    nearestEven numerator denominator = nearest := by
  have positiveValue : (0 : ℚ) < denominator := by exact_mod_cast positive
  obtain ⟨notBelow, notAbove⟩ := abs_lt.mp near
  have low : 2 * (nearest * denominator) < 2 * numerator + denominator := by
    have bound : (nearest - 1 / 2 : ℚ) < numerator / denominator := by linarith
    rw [lt_div_iff₀ positiveValue] at bound
    have : (2 * (nearest * denominator) : ℚ) < 2 * numerator + denominator := by
      linarith
    exact_mod_cast this
  have high : 2 * numerator < 2 * (nearest * denominator) + denominator := by
    have bound : (numerator / denominator : ℚ) < nearest + 1 / 2 := by linarith
    rw [div_lt_iff₀ positiveValue] at bound
    have : (2 * numerator : ℚ) < 2 * (nearest * denominator) + denominator := by
      linarith
    exact_mod_cast this
  have parts := Nat.div_add_mod' numerator denominator
  have remainderSmall := Nat.mod_lt numerator positive
  set quotient := numerator / denominator
  set remainder := numerator % denominator
  unfold nearestEven
  dsimp only
  rcases Nat.lt_trichotomy (2 * remainder) denominator with below | tie | above
  · rw [if_pos below]
    have : quotient < nearest + 1 := by nlinarith
    have : nearest < quotient + 1 := by nlinarith
    omega
  · have : quotient < nearest + 1 := by nlinarith
    have : nearest < quotient + 1 := by nlinarith
    obtain rfl : nearest = quotient := by omega
    omega
  · rw [if_neg (by omega), if_pos above]
    have : quotient + 1 < nearest + 1 := by nlinarith
    have : nearest < quotient + 2 := by nlinarith
    omega

/-! ## The nearest number -/

/-- A common factor of a ratio does not change what it rounds to. -/
theorem ofRatio_mul_right
    (negative : Bool)
    (numerator : Nat)
    {denominator factor : Nat}
    (denominatorPositive : 0 < denominator)
    (factorPositive : 0 < factor) :
    ofRatio negative (numerator * factor) (denominator * factor) =
      ofRatio negative numerator denominator := by
  rcases Nat.eq_zero_or_pos numerator with rfl | numeratorPositive
  · rw [Nat.zero_mul]
    rfl
  · unfold ofRatio
    simp only [unitExponent,
      floorLog2_mul_right numeratorPositive denominatorPositive
        factorPositive,
      scaleDown_mul_right, nearestEven_mul_right _ _ factorPositive,
      Nat.mul_eq_zero, factorPositive.ne', or_false]
    rfl

/-- Ratios of the same value round to the same number. -/
theorem ofRatio_congr
    (negative : Bool)
    {numerator denominator otherNumerator otherDenominator : Nat}
    (positive : 0 < denominator)
    (otherPositive : 0 < otherDenominator)
    (same : numerator * otherDenominator = otherNumerator * denominator) :
    ofRatio negative numerator denominator =
      ofRatio negative otherNumerator otherDenominator := by
  rw [← ofRatio_mul_right negative numerator positive otherPositive,
    ← ofRatio_mul_right negative otherNumerator otherPositive positive,
    same, Nat.mul_comm denominator]

/-- A ratio whose multiple of a power of two has 53 bits is rounded in units of that power. -/
theorem unitExponent_eq
    {numerator denominator : Nat}
    {scaled : ℚ}
    (exponent : Int)
    (numeratorPositive : 0 < numerator)
    (denominatorPositive : 0 < denominator)
    (ratio : (numerator / denominator : ℚ) = scaled * 2 ^ exponent)
    (low : 2 ^ 52 ≤ scaled)
    (high : scaled < 2 ^ 53) :
    unitExponent numerator denominator = max (-1074) exponent := by
  have positive : (0 : ℚ) < 2 ^ exponent := by positivity
  have found :
      floorLog2 numerator denominator = exponent + 52 := by
    refine floorLog2_eq numeratorPositive denominatorPositive ?_ ?_
    · rw [ratio, zpow_add₀ (by norm_num), mul_comm]
      gcongr
      exact_mod_cast low
    · rw [show exponent + 52 + 1 = exponent + 53 by ring, ratio,
        zpow_add₀ (by norm_num), mul_comm]
      gcongr
      exact_mod_cast high
  rw [unitExponent, found, show exponent + 52 - 52 = exponent by ring]

/-- A ratio below the normal numbers is rounded in the least units. -/
theorem unitExponent_of_small
    {numerator denominator : Nat}
    {scaled : ℚ}
    (numeratorPositive : 0 < numerator)
    (denominatorPositive : 0 < denominator)
    (ratio : (numerator / denominator : ℚ) = scaled * 2 ^ (-1074 : Int))
    (small : scaled < 2 ^ 52) :
    unitExponent numerator denominator = -1074 := by
  have positive : (0 : ℚ) < 2 ^ (-1074 : Int) := by positivity
  have below : (numerator / denominator : ℚ) < 2 ^ (-1074 + 52 : Int) := by
    rw [ratio, zpow_add₀ (by norm_num), mul_comm]
    gcongr
    exact_mod_cast small
  have bounded :
      floorLog2 numerator denominator < -1074 + 52 :=
    (zpow_lt_zpow_iff_right₀ (by norm_num : (1 : ℚ) < 2)).mp
      ((floorLog2_bounds numeratorPositive denominatorPositive).1.trans_lt
        below)
  unfold unitExponent
  omega

/-- A ratio rounds to the multiple of its unit that is less than half a unit away. -/
theorem ofRatio_of_unit
    {numerator denominator : Nat}
    {exponent : Int}
    {scaled : ℚ}
    (negative : Bool)
    (significand : Nat)
    (numeratorPositive : 0 < numerator)
    (denominatorPositive : 0 < denominator)
    (ratio : (numerator / denominator : ℚ) = scaled * 2 ^ exponent)
    (unit : unitExponent numerator denominator = exponent)
    (near : |scaled - significand| < 1 / 2) :
    ofRatio negative numerator denominator =
      if significand = Nat.pow 2 53 then
        ofParts negative (Nat.pow 2 52) (exponent + 1)
      else ofParts negative significand exponent := by
  have nonzero : (2 : ℚ) ^ exponent ≠ 0 := by positivity
  have scaledRatio := ratio_scaleDown numerator denominator exponent
  rw [ratio, mul_div_cancel_right₀ _ nonzero] at scaledRatio
  rw [← scaledRatio] at near
  have rounded :=
    nearestEven_eq (scaleDown_pos denominatorPositive exponent) near
  rw [ofRatio, if_neg numeratorPositive.ne']
  simp only [unit, rounded]

/-- The number with parts that fit is finite. -/
theorem ofParts_of_canonical
    (negative : Bool)
    {significand : Nat}
    {exponent : Int}
    (canonical : CanonicalPair significand exponent) :
    ofParts negative significand exponent =
      .finite negative significand exponent canonical :=
  dif_pos canonical

/--
A ratio less than a quarter of a unit below a power of two rounds to the power, since the numbers
are twice as close there.
-/
theorem ofRatio_below_power
    {numerator denominator : Nat}
    {exponent : Int}
    {scaled : ℚ}
    (negative : Bool)
    (canonical : CanonicalPair (Nat.pow 2 52) exponent)
    (numeratorPositive : 0 < numerator)
    (denominatorPositive : 0 < denominator)
    (ratio : (numerator / denominator : ℚ) = scaled * 2 ^ exponent)
    (notLeast : exponent ≠ -1074)
    (low : 2 ^ 52 - 1 / 4 < scaled)
    (high : scaled < 2 ^ 52) :
    ofRatio negative numerator denominator =
      .finite negative (Nat.pow 2 52) exponent canonical := by
  have halved :
      (numerator / denominator : ℚ) = 2 * scaled * 2 ^ (exponent - 1) := by
    rw [ratio, zpow_sub_one₀ (by norm_num)]
    ring
  have unit : unitExponent numerator denominator = exponent - 1 := by
    rw [unitExponent_eq (exponent - 1) numeratorPositive denominatorPositive
      halved (by norm_num at low ⊢; linarith)
      (by norm_num at high ⊢; linarith)]
    have := canonical.2.1
    omega
  rw [ofRatio_of_unit negative (Nat.pow 2 53) numeratorPositive
      denominatorPositive halved unit
      (by
        rw [abs_lt]
        norm_num at low high ⊢
        constructor <;> linarith),
    if_pos rfl, sub_add_cancel, ofParts_of_canonical]

/--
A ratio rounds to a number when it is less than half a unit in the last place away, and less than a
quarter of a unit when it lies below a power of two.
-/
theorem ofRatio_of_near
    {numerator denominator significand : Nat}
    {exponent : Int}
    {scaled : ℚ}
    (negative : Bool)
    (canonical : CanonicalPair significand exponent)
    (numeratorPositive : 0 < numerator)
    (denominatorPositive : 0 < denominator)
    (ratio : (numerator / denominator : ℚ) = scaled * 2 ^ exponent)
    (near : |scaled - significand| < 1 / 2)
    (nearBelow : significand = Nat.pow 2 52 → significand - scaled < 1 / 4) :
    ofRatio negative numerator denominator =
      .finite negative significand exponent canonical := by
  obtain ⟨scaledLow, scaledHigh⟩ := abs_lt.mp near
  have inUnits
      (unit : unitExponent numerator denominator = exponent) :
      ofRatio negative numerator denominator =
        .finite negative significand exponent canonical := by
    rw [ofRatio_of_unit negative significand numeratorPositive
        denominatorPositive ratio unit near,
      if_neg (ne_of_lt canonical.1), ofParts_of_canonical]
  have bounded : (significand : ℚ) ≤ 2 ^ 53 - 1 := by
    have : (significand + 1 : ℚ) ≤ 2 ^ 53 := by
      exact_mod_cast (canonical.1 : significand + 1 ≤ 2 ^ 53)
    linarith
  by_cases reached : 2 ^ 52 ≤ scaled
  · apply inUnits
    rw [unitExponent_eq exponent numeratorPositive denominatorPositive ratio
      reached (by linarith)]
    exact max_eq_right canonical.2.1
  · rw [not_le] at reached
    by_cases least : exponent = -1074
    · subst least
      exact inUnits
        (unitExponent_of_small numeratorPositive denominatorPositive ratio
          reached)
    · have atMost : significand ≤ Nat.pow 2 52 := by
        have : (significand : ℚ) < 2 ^ 52 + 1 := by linarith
        have : significand < 2 ^ 52 + 1 := by exact_mod_cast this
        exact Nat.lt_succ_iff.mp this
      obtain rfl : significand = Nat.pow 2 52 :=
        le_antisymm atMost (canonical.2.2.2.resolve_right least)
      have quarter := nearBelow rfl
      norm_num at quarter
      exact ofRatio_below_power negative canonical numeratorPositive
        denominatorPositive ratio least (by norm_num; linarith) reached

end Tabular.Binary64
