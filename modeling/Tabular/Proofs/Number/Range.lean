import Tabular.Number.Amount
import Tabular.Proofs.Number.Rounding

namespace Tabular

/-!
# The ratios in range

A ratio has a nearest finite number unless it lies half a unit in the last place or more above the
greatest one: the tie goes to the even significand, which is the power of two that no number
reaches.
-/

namespace Binary64

/-- The least size of an integer that has no nearest finite number. -/
def intLimit : Nat := Nat.pow 2 1024 - Nat.pow 2 970

theorem le_nearestEven
    {numerator denominator lower : Nat}
    (positive : 0 < denominator)
    (bound : lower * denominator ≤ numerator) :
    lower ≤ nearestEven numerator denominator := by
  have reached : lower ≤ numerator / denominator :=
    (Nat.le_div_iff_mul_le positive).mpr bound
  simp only [nearestEven]
  split_ifs <;> omega

theorem nearestEven_le
    {numerator denominator upper : Nat}
    (positive : 0 < denominator)
    (bound : numerator ≤ upper * denominator) :
    nearestEven numerator denominator ≤ upper := by
  have division := Nat.div_add_mod numerator denominator
  have rest := Nat.mod_lt numerator positive
  have quotient : numerator / denominator ≤ upper :=
    Nat.div_le_of_le_mul (by rwa [Nat.mul_comm])
  rcases quotient.lt_or_eq with below | reached
  · simp only [nearestEven]
    split_ifs <;> omega
  · have exact : numerator % denominator = 0 := by
      rw [reached, Nat.mul_comm] at division
      omega
    simp only [nearestEven, exact, reached]
    split_ifs <;> omega

/--
A ratio rounds up to an even number from half a unit below it on. Only the odd quotient just below
the number can go either way.
-/
theorem even_le_nearestEven_iff
    {numerator denominator half : Nat}
    (positive : 0 < denominator) :
    2 * half ≤ nearestEven numerator denominator ↔
      4 * half * denominator ≤ 2 * numerator + denominator := by
  have division := Nat.div_add_mod numerator denominator
  have rest := Nat.mod_lt numerator positive
  generalize quotient : numerator / denominator = q at division
  generalize remainder : numerator % denominator = r at division rest
  simp only [nearestEven, quotient, remainder]
  rcases Nat.lt_trichotomy (q + 1) (2 * half) with below | next | above
  · have gap : (q + 2) * denominator ≤ 2 * half * denominator :=
      Nat.mul_le_mul_right _ below
    have : 2 * numerator + denominator < 4 * half * denominator := by
      nlinarith
    split_ifs <;> omega
  · have exact : 4 * half * denominator = 2 * (q * denominator) + 2 * denominator := by
      rw [show 4 * half = 2 * (q + 1) by omega]
      ring
    rw [Nat.mul_comm] at division
    split_ifs <;> omega
  · have reached : 2 * half * denominator ≤ q * denominator :=
      Nat.mul_le_mul_right _ (by omega)
    have : 4 * half * denominator ≤ 2 * numerator + denominator := by
      nlinarith
    split_ifs <;> omega

theorem cast_pow_two
    (power : Nat) :
    ((Nat.pow 2 power : Nat) : ℚ) = 2 ^ (power : Int) := by
  rw [zpow_natCast, Nat.pow_eq, Nat.cast_pow, Nat.cast_ofNat]

/-- A ratio has at most 53 bits in its units, and no fewer unless the unit is the least one. -/
theorem unitExponent_bounds
    {numerator denominator : Nat}
    (numeratorPositive : 0 < numerator)
    (denominatorPositive : 0 < denominator) :
    (numerator / denominator : ℚ) < 2 ^ (unitExponent numerator denominator + 53) ∧
      (unitExponent numerator denominator = -1074 ∨
        2 ^ (unitExponent numerator denominator + 52) ≤ (numerator / denominator : ℚ)) := by
  obtain ⟨low, high⟩ := floorLog2_bounds numeratorPositive denominatorPositive
  have isMax : unitExponent numerator denominator =
      max (-1074) (floorLog2 numerator denominator - 52) := rfl
  rcases le_total (floorLog2 numerator denominator - 52) (-1074) with least | greater
  · rw [max_eq_left least] at isMax
    refine ⟨high.trans_le (zpow_le_zpow_right₀ (by norm_num) ?_), .inl isMax⟩
    omega
  · rw [max_eq_right greater] at isMax
    refine ⟨high.trans_le (zpow_le_zpow_right₀ (by norm_num) ?_), .inr ?_⟩
    · omega
    · rwa [isMax, sub_add_cancel]

/-- The significand of a ratio has at most 53 bits, or is the power after them. -/
theorem significand_bounds
    {numerator denominator : Nat}
    (numeratorPositive : 0 < numerator)
    (denominatorPositive : 0 < denominator) :
    let exponent := unitExponent numerator denominator
    let scaled := scaleDown numerator denominator exponent
    nearestEven scaled.1 scaled.2 ≤ Nat.pow 2 53 ∧
      (exponent = -1074 ∨ Nat.pow 2 52 ≤ nearestEven scaled.1 scaled.2) := by
  intro exponent scaled
  obtain ⟨above, below⟩ := unitExponent_bounds numeratorPositive denominatorPositive
  have scaledPositive : 0 < scaled.2 := scaleDown_pos denominatorPositive exponent
  have positive : (0 : ℚ) < scaled.2 := by exact_mod_cast scaledPositive
  have unitPositive : (0 : ℚ) < 2 ^ exponent := by positivity
  have ratio : (scaled.1 / scaled.2 : ℚ) = numerator / denominator / 2 ^ exponent :=
    ratio_scaleDown numerator denominator exponent
  refine ⟨nearestEven_le scaledPositive ?_, below.imp_right fun reached =>
    le_nearestEven scaledPositive ?_⟩
  · have bound : (scaled.1 / scaled.2 : ℚ) ≤ 2 ^ (53 : Int) := by
      rw [ratio, div_le_iff₀ unitPositive, ← zpow_add₀ (by norm_num), add_comm]
      exact above.le
    rw [div_le_iff₀ positive] at bound
    exact_mod_cast bound
  · have bound : 2 ^ (52 : Int) ≤ (scaled.1 / scaled.2 : ℚ) := by
      rw [ratio, le_div_iff₀ unitPositive, ← zpow_add₀ (by norm_num), add_comm]
      exact reached
    rw [le_div_iff₀ positive] at bound
    exact_mod_cast bound

theorem ofParts_eq_infinite_iff
    {negative : Bool}
    {significand : Nat}
    {exponent : Int} :
    ofParts negative significand exponent = .infinite negative ↔
      ¬CanonicalPair significand exponent := by
  unfold ofParts
  split_ifs with canonical <;> simp [canonical]

theorem scaleDown_natCast
    (numerator denominator exponent : Nat) :
    scaleDown numerator denominator exponent = (numerator, denominator * Nat.pow 2 exponent) :=
  rfl

/-- A ratio rounds up to an even number of units from half a unit below it on. -/
theorem even_le_nearestEven_iff_le
    {numerator denominator unit half bound : Nat}
    (denominatorPositive : 0 < denominator)
    (unitPositive : 0 < unit)
    (halfBelow : 4 * half * unit = 2 * bound + unit) :
    2 * half ≤ nearestEven numerator (denominator * unit) ↔ bound * denominator ≤ numerator := by
  have scaled :
      4 * half * (denominator * unit) = 2 * (bound * denominator) + denominator * unit := by
    rw [Nat.mul_left_comm, halfBelow]
    ring
  rw [even_le_nearestEven_iff (Nat.mul_pos denominatorPositive unitPositive), scaled]
  omega

/-- In the greatest units a ratio reaches the power after 53 bits from the limit on. -/
theorem nearestEven_of_greatest_unit
    (numerator : Nat)
    {denominator : Nat}
    (positive : 0 < denominator) :
    Nat.pow 2 53 ≤
        nearestEven (scaleDown numerator denominator (971 : Nat)).1
          (scaleDown numerator denominator (971 : Nat)).2 ↔
      intLimit * denominator ≤ numerator := by
  have scaled := scaleDown_natCast numerator denominator 971
  rw [congrArg Prod.fst scaled, congrArg Prod.snd scaled,
    show Nat.pow 2 53 = 2 * Nat.pow 2 52 by decide +kernel]
  exact even_le_nearestEven_iff_le positive (by decide +kernel) (by decide +kernel)

/-- A positive ratio is rounded to an infinity from the limit on. -/
theorem ofRatio_eq_infinite_iff
    (negative : Bool)
    {numerator denominator : Nat}
    (numeratorPositive : 0 < numerator)
    (denominatorPositive : 0 < denominator) :
    ofRatio negative numerator denominator = .infinite negative ↔
      intLimit * denominator ≤ numerator := by
  obtain ⟨above, below⟩ := unitExponent_bounds numeratorPositive denominatorPositive
  obtain ⟨atMost, atLeast⟩ := significand_bounds numeratorPositive denominatorPositive
  have positive : (0 : ℚ) < denominator := by exact_mod_cast denominatorPositive
  have notBelowLeast : -1074 ≤ unitExponent numerator denominator := le_max_left _ _
  rw [ofRatio, if_neg numeratorPositive.ne']
  dsimp only
  rcases lt_trichotomy (unitExponent numerator denominator) 971 with small | top | large
  · have notReached : ¬intLimit * denominator ≤ numerator := by
      have bound : (numerator / denominator : ℚ) < 2 ^ (1023 : Int) :=
        above.trans_le (zpow_le_zpow_right₀ (by norm_num) (by omega))
      rw [div_lt_iff₀ positive] at bound
      have limit : (2 : ℚ) ^ ((1023 : Nat) : Int) ≤ intLimit := by
        rw [← cast_pow_two]
        exact Nat.cast_le.mpr (by decide +kernel)
      have counted : (numerator : ℚ) < (intLimit * denominator : Nat) := by
        rw [Nat.cast_mul]
        exact bound.trans_le (mul_le_mul_of_nonneg_right limit positive.le)
      exact (Nat.cast_lt.mp counted).not_ge
    refine iff_of_false ?_ notReached
    split_ifs with carried <;> rw [ofParts_eq_infinite_iff, not_not]
    · exact ⟨by decide +kernel, by omega, by omega, .inl le_rfl⟩
    · exact ⟨by omega, notBelowLeast, by omega, atLeast.symm⟩
  · have reached := nearestEven_of_greatest_unit numerator denominatorPositive
    have unit : ((971 : Nat) : Int) = 971 := rfl
    rw [unit] at reached
    rw [top] at atMost atLeast ⊢
    rw [← reached]
    split_ifs with carried <;> rw [ofParts_eq_infinite_iff]
    · exact iff_of_true (fun canonical => absurd canonical.2.2.1 (by decide)) carried.ge
    · exact iff_of_false
        (not_not_intro ⟨by omega, by decide, by decide, atLeast.symm⟩)
        (fun above => carried (le_antisymm atMost above))
  · have beyond : intLimit * denominator ≤ numerator := by
      rcases below with least | reached
      · omega
      · have bound : 2 ^ (1024 : Int) ≤ (numerator / denominator : ℚ) :=
          (zpow_le_zpow_right₀ (by norm_num) (by omega)).trans reached
        rw [le_div_iff₀ positive] at bound
        have limit : (intLimit : ℚ) ≤ 2 ^ ((1024 : Nat) : Int) := by
          rw [← cast_pow_two]
          exact Nat.cast_le.mpr (by decide +kernel)
        have counted : ((intLimit * denominator : Nat) : ℚ) ≤ numerator := by
          rw [Nat.cast_mul]
          exact (mul_le_mul_of_nonneg_right limit positive.le).trans bound
        exact Nat.cast_le.mp counted
    refine iff_of_true ?_ beyond
    split_ifs with carried <;> rw [ofParts_eq_infinite_iff]
    all_goals
      intro canonical
      have atMostGreatest := canonical.2.2.1
      omega

/-- A positive integer is rounded to an infinity from the limit on. -/
theorem ofRatio_one_eq_infinite_iff
    (negative : Bool)
    {number : Nat}
    (positive : 0 < number) :
    ofRatio negative number 1 = .infinite negative ↔ intLimit ≤ number := by
  rw [ofRatio_eq_infinite_iff negative positive Nat.one_pos, Nat.mul_one]

/-- A ratio is rounded to a finite number or to an infinity of its sign. -/
theorem ofRatio_cases
    (negative : Bool)
    (numerator denominator : Nat) :
    (∃ significand exponent canonical,
        ofRatio negative numerator denominator =
          .finite negative significand exponent canonical) ∨
      ofRatio negative numerator denominator = .infinite negative := by
  have ofParts_cases (significand : Nat) (exponent : Int) :
      (∃ found power canonical,
          ofParts negative significand exponent =
            .finite negative found power canonical) ∨
        ofParts negative significand exponent = .infinite negative := by
    by_cases canonical : CanonicalPair significand exponent
    · exact .inl ⟨_, _, _, ofParts_of_canonical negative canonical⟩
    · exact .inr (ofParts_eq_infinite_iff.mpr canonical)
  unfold ofRatio
  split
  · exact .inl ⟨0, -1074, by decide, rfl⟩
  · dsimp only
    split <;> exact ofParts_cases _ _

end Binary64

/-- An integer has no nearest finite number exactly when it reaches the limit; that is a fault. -/
theorem Amount.realOfInt_eq_error_iff
    {value : Int}
    {fault : Fault} :
    realOfInt value = .error fault ↔
      fault = .overflow ∧ Binary64.intLimit ≤ value.natAbs := by
  have rounded :
      Binary64.ofInt value = .infinite (decide (value < 0)) ↔
        Binary64.intLimit ≤ value.natAbs := by
    rcases Nat.eq_zero_or_pos value.natAbs with zero | positive
    · have limitPositive : Binary64.intLimit ≠ 0 := by decide +kernel
      simp [Binary64.ofInt, Binary64.ofRatio, Binary64.zero, zero, limitPositive]
    · exact Binary64.ofRatio_one_eq_infinite_iff _ positive
  rw [← rounded, realOfInt]
  obtain ⟨significand, exponent, canonical, finite⟩ | infinite :=
    Binary64.ofRatio_cases (decide (value < 0)) value.natAbs 1
  · simp [Binary64.ofInt, finite]
  · simp [Binary64.ofInt, infinite, eq_comm]

end Tabular
