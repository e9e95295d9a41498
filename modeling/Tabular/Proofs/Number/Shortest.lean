import Mathlib.Tactic
import Tabular.Number.Shortest
import Tabular.Proofs.Number.Decimal

namespace Tabular.Binary64

/-!
# Shortest decimals read back

The search for the shortest decimal of a positive number always ends on a decimal that reads back as
the number. On the grid of seventeen digits the nearest decimal is closer to the number than half of
the gap between the number and its neighbours.
-/

/-! ## The decimal order of magnitude -/

/-- The estimate of a decimal order of magnitude is at most one too high, above one. -/
theorem ten_pow_estimate_le (power : Nat) (bounded : power ≤ 1100) :
    10 ^ (power * 30103 / 100000) ≤ 10 * 2 ^ power := by
  have all :
      ∀ power < 1101, 10 ^ (power * 30103 / 100000) ≤ 10 * 2 ^ power := by
    decide +kernel
  exact all power (by omega)

/-- The estimate of a decimal order of magnitude is at most one too high, below one. -/
theorem two_pow_le_ten_pow_estimate (power : Nat) (bounded : power ≤ 1100) :
    2 ^ power ≤ 10 ^ ((power * 30103 + 99999) / 100000 + 1) := by
  have all :
      ∀ power < 1101,
        2 ^ power ≤ 10 ^ ((power * 30103 + 99999) / 100000 + 1) := by
    decide +kernel
  exact all power (by omega)

theorem ten_zpow_estimate_le
    {power : Int}
    (low : -1100 ≤ power)
    (high : power ≤ 1100) :
    (10 : ℚ) ^ (power * 30103 / 100000 - 1) ≤ 2 ^ power := by
  rcases le_or_gt 0 power with above | below
  · lift power to Nat using above
    have natural := ten_pow_estimate_le power (by omega)
    have estimate :
        (power : Int) * 30103 / 100000 = (power * 30103 / 100000 : Nat) := by
      omega
    rw [estimate, zpow_sub_one₀ (by norm_num), zpow_natCast, zpow_natCast,
      ← div_eq_mul_inv, div_le_iff₀' (by norm_num)]
    exact_mod_cast natural
  · obtain ⟨size, rfl⟩ : ∃ size : Nat, power = -size :=
      ⟨power.natAbs, by omega⟩
    have natural := two_pow_le_ten_pow_estimate size (by omega)
    have estimate :
        -(size : Int) * 30103 / 100000 - 1 =
          -(((size * 30103 + 99999) / 100000 + 1 : Nat) : Int) := by
      omega
    rw [estimate, zpow_neg, zpow_neg, zpow_natCast, zpow_natCast]
    gcongr
    exact_mod_cast natural

/-- A ratio reaches a power of ten. -/
def reaches (numerator denominator : Nat) (power : Int) : Bool :=
  if 0 ≤ power then denominator * Nat.pow 10 power.toNat ≤ numerator
  else denominator ≤ numerator * Nat.pow 10 (-power).toNat

/-- The decimal order of magnitude is the highest near the estimate that is reached. -/
theorem floorLog10_eq
    (numerator denominator : Nat) :
    floorLog10 numerator denominator =
      let estimate := floorLog2 numerator denominator * 30103 / 100000
      if reaches numerator denominator (estimate + 1) then estimate + 1
      else if reaches numerator denominator estimate then estimate
      else estimate - 1 :=
  rfl

/-- A ratio that reaches a power of ten is at least as great. -/
theorem ten_zpow_le_of_reaches
    {numerator denominator : Nat}
    {power : Int}
    (denominatorPositive : 0 < denominator)
    (reached : reaches numerator denominator power) :
    (10 : ℚ) ^ power ≤ numerator / denominator := by
  rw [le_div_iff₀ (by exact_mod_cast denominatorPositive)]
  unfold reaches at reached
  split at reached
  · next whole =>
      rw [← Int.toNat_of_nonneg whole, zpow_natCast, mul_comm]
      exact_mod_cast of_decide_eq_true reached
  · next broken =>
      have size : power = -((-power).toNat : Int) := by omega
      rw [size, zpow_neg, zpow_natCast, inv_mul_le_iff₀ (by positivity),
        mul_comm]
      exact_mod_cast of_decide_eq_true reached

/-- The decimal order of magnitude is not too high. -/
theorem ten_zpow_floorLog10_le
    {numerator denominator : Nat}
    (numeratorPositive : 0 < numerator)
    (denominatorPositive : 0 < denominator)
    (low : -1100 ≤ floorLog2 numerator denominator)
    (high : floorLog2 numerator denominator ≤ 1100) :
    (10 : ℚ) ^ floorLog10 numerator denominator ≤
      numerator / denominator := by
  rw [floorLog10_eq]
  dsimp only
  split
  · next reached =>
      exact ten_zpow_le_of_reaches denominatorPositive reached
  · split
    · next reached =>
        exact ten_zpow_le_of_reaches denominatorPositive reached
    · exact
        (ten_zpow_estimate_le low high).trans
          (floorLog2_bounds numeratorPositive denominatorPositive).1

/-! ## The search -/

/-- A ratio in decimal units is divided by the unit. -/
theorem ratio_inDecimalUnits
    (numerator denominator : Nat)
    (power : Int) :
    ((inDecimalUnits numerator denominator power).1 : ℚ) /
        (inDecimalUnits numerator denominator power).2 =
      numerator / denominator / 10 ^ power := by
  unfold inDecimalUnits
  split
  · next whole =>
      conv_rhs => rw [← Int.toNat_of_nonneg whole, zpow_natCast]
      rw [Nat.cast_mul, div_div]
      norm_cast
  · next broken =>
      have power_eq : power = -((-power).toNat : Int) := by omega
      conv_rhs => rw [power_eq, zpow_neg, zpow_natCast]
      rw [Nat.cast_mul, div_inv_eq_mul, mul_div_right_comm]
      norm_cast

theorem inDecimalUnits_pos
    {numerator denominator : Nat}
    (positive : 0 < denominator)
    (power : Int) :
    0 < (inDecimalUnits numerator denominator power).2 := by
  unfold inDecimalUnits
  split
  · exact Nat.mul_pos positive (Nat.pow_pos (by decide))
  · exact positive

/-- The first of two decimals that reads back. -/
def firstToRead (value : Binary64) (power : Int) (first second : Nat) :
    Option (Nat × Int) :=
  if Decimal.toBinary64 false first power == value then some (first, power)
  else if Decimal.toBinary64 false second power == value then
    some (second, power)
  else none

/-- What is taken of two decimals reads back. -/
theorem toBinary64_of_firstToRead
    {value : Binary64}
    {power : Int}
    {first second : Nat}
    {found : Nat × Int}
    (taken : firstToRead value power first second = some found) :
    Decimal.toBinary64 false found.1 found.2 = value := by
  unfold firstToRead at taken
  split at taken
  · next reads =>
      cases taken
      exact eq_of_beq reads
  · split at taken
    · next reads =>
        cases taken
        exact eq_of_beq reads
    · exact absurd taken nofun

theorem isSome_firstToRead
    {value : Binary64}
    {power : Int}
    {first second digits : Nat}
    (among : digits = first ∨ digits = second)
    (reads : Decimal.toBinary64 false digits power = value) :
    (firstToRead value power first second).isSome := by
  unfold firstToRead
  split
  · rfl
  · next firstFails =>
      split
      · rfl
      · next secondFails =>
          rcases among with rfl | rfl
          · exact absurd (beq_of_eq reads) firstFails
          · exact absurd (beq_of_eq reads) secondFails

/-- On a grid the two neighbours of the value are tried, in one order or the other. -/
theorem onGrid?_eq_firstToRead
    (value : Binary64)
    (numerator denominator : Nat)
    (power : Int) :
    let scaled := inDecimalUnits numerator denominator power
    let below := scaled.1 / scaled.2
    onGrid? value numerator denominator power =
        firstToRead value power below (below + 1) ∨
      onGrid? value numerator denominator power =
        firstToRead value power (below + 1) below := by
  dsimp only
  unfold onGrid?
  dsimp only
  split
  · exact .inr rfl
  · exact .inl rfl

theorem toBinary64_of_onGrid?
    {value : Binary64}
    {numerator denominator : Nat}
    {power : Int}
    {found : Nat × Int}
    (hit : onGrid? value numerator denominator power = some found) :
    Decimal.toBinary64 false found.1 found.2 = value := by
  rcases onGrid?_eq_firstToRead value numerator denominator power with
    ordered | ordered
  · exact toBinary64_of_firstToRead (ordered ▸ hit)
  · exact toBinary64_of_firstToRead (ordered ▸ hit)

/-- A search that hits some grid ends on a decimal that reads back. -/
theorem toBinary64_of_searchGrids
    {value : Binary64}
    {numerator denominator grids place : Nat}
    {power : Int}
    (within : place < grids)
    (hit : (onGrid? value numerator denominator (power - place)).isSome) :
    let found := searchGrids value numerator denominator grids power
    Decimal.toBinary64 false found.1 found.2 = value := by
  induction grids generalizing place power with
  | zero =>
      exact absurd within (Nat.not_lt_zero place)
  | succ grids inductionHypothesis =>
      rw [searchGrids]
      rcases first : onGrid? value numerator denominator power with
        _ | found
      · cases place with
        | zero =>
            rw [Nat.cast_zero, sub_zero, first] at hit
            exact absurd hit nofun
        | succ place =>
            rw [Nat.cast_succ, add_comm, ← sub_sub] at hit
            exact inductionHypothesis (Nat.lt_of_succ_lt_succ within) hit
      · exact toBinary64_of_onGrid? first

/-- One of the neighbours of a ratio on a grid is at most half a step away. -/
theorem exists_neighbour
    (numerator : Nat)
    {denominator : Nat}
    (positive : 0 < denominator) :
    ∃ digits : Nat,
      (digits = numerator / denominator ∨
        digits = numerator / denominator + 1) ∧
      |(digits : ℚ) - numerator / denominator| ≤ 1 / 2 := by
  have positiveValue : (0 : ℚ) < denominator := by exact_mod_cast positive
  have low : ((numerator / denominator : Nat) : ℚ) ≤
      numerator / denominator :=
    Nat.cast_div_le
  have high : (numerator / denominator : ℚ) <
      (numerator / denominator : Nat) + 1 := by
    rw [div_lt_iff₀ positiveValue]
    exact_mod_cast Nat.lt_mul_of_div_lt (Nat.lt_succ_self _) positive
  by_cases lower :
      (numerator / denominator : ℚ) - (numerator / denominator : Nat) ≤ 1 / 2
  · refine ⟨numerator / denominator, .inl rfl, ?_⟩
    rw [abs_le]
    constructor <;> linarith
  · refine ⟨numerator / denominator + 1, .inr rfl, ?_⟩
    rw [abs_le]
    push_cast
    constructor <;> linarith

/-! ## Seventeen digits suffice -/

theorem ratio_partsRatio
    (significand : Nat)
    (exponent : Int) :
    ((partsRatio significand exponent).1 : ℚ) /
        (partsRatio significand exponent).2 =
      significand * 2 ^ exponent := by
  rw [partsRatio, ratio_scaleDown, zpow_neg]
  simp

theorem partsRatio_pos
    {significand : Nat}
    (exponent : Int)
    (positive : 0 < significand) :
    0 < (partsRatio significand exponent).1 ∧
      0 < (partsRatio significand exponent).2 := by
  have denominatorPositive : 0 < (partsRatio significand exponent).2 :=
    scaleDown_pos Nat.one_pos (-exponent)
  have valuePositive :
      (0 : ℚ) < (partsRatio significand exponent).1 /
        (partsRatio significand exponent).2 := by
    rw [ratio_partsRatio]
    positivity
  refine ⟨Nat.pos_of_ne_zero fun zero => ?_, denominatorPositive⟩
  rw [zero] at valuePositive
  simp at valuePositive

/-- The order of magnitude of a positive number is within the range of the format. -/
theorem floorLog2_partsRatio_bounds
    {significand : Nat}
    {exponent : Int}
    (canonical : CanonicalPair significand exponent)
    (positive : 0 < significand) :
    (-1100 : Int) ≤
        floorLog2 (partsRatio significand exponent).1
          (partsRatio significand exponent).2 ∧
      floorLog2 (partsRatio significand exponent).1
          (partsRatio significand exponent).2 ≤ 1100 := by
  obtain ⟨numeratorPositive, denominatorPositive⟩ :=
    partsRatio_pos exponent positive
  obtain ⟨low, high⟩ :=
    floorLog2_bounds numeratorPositive denominatorPositive
  obtain ⟨valueLow, valueHigh⟩ :=
    Decimal.value_bounds (significand : ℚ) canonical positive (by norm_num)
  rw [ratio_partsRatio] at low high
  have notBelow := valueLow.trans_lt high
  have notAbove := low.trans valueHigh
  rw [zpow_lt_zpow_iff_right₀ (by norm_num)] at notBelow
  rw [zpow_le_zpow_iff_right₀ (by norm_num)] at notAbove
  omega

/-- A decimal on the grid of seventeen digits reads as the number that it is nearest to. -/
theorem toBinary64_on_finest_grid
    {significand digits : Nat}
    {exponent power : Int}
    (canonical : CanonicalPair significand exponent)
    (positive : 0 < significand)
    (fine : (10 : ℚ) ^ (power + 16) ≤ significand * 2 ^ exponent)
    (nearest :
      |(digits : ℚ) - significand * 2 ^ exponent / 10 ^ power| ≤ 1 / 2) :
    Decimal.toBinary64 false digits power =
      .finite false significand exponent canonical := by
  have unitPositive : (0 : ℚ) < 2 ^ exponent := by positivity
  have stepPositive : (0 : ℚ) < 10 ^ power := by positivity
  set value : ℚ := significand * 2 ^ exponent with valueIs
  have steps : (10 : ℚ) ^ 16 ≤ value / 10 ^ power := by
    rw [le_div_iff₀ stepPositive]
    calc
      (10 : ℚ) ^ 16 * 10 ^ power = 10 ^ (power + 16) := by
        rw [zpow_add₀ (by norm_num), mul_comm]
        rfl
      _ ≤ value := fine
  obtain ⟨nearestLow, nearestHigh⟩ := abs_le.mp nearest
  have digitsPositive : 0 < digits := by
    have : (0 : ℚ) < digits := by
      norm_num at steps
      linarith
    exact_mod_cast this
  have stepSmall : (10 : ℚ) ^ power / 2 ^ exponent ≤ significand / 10 ^ 16 := by
    rw [div_le_div_iff₀ unitPositive (by norm_num), ← valueIs]
    rw [le_div_iff₀ stepPositive] at steps
    linarith
  have distance :
      |digits * 10 ^ power / 2 ^ exponent - (significand : ℚ)| ≤
        significand / (2 * 10 ^ 16) := by
    have scaledDistance :
        digits * 10 ^ power / 2 ^ exponent - (significand : ℚ) =
          (digits - value / 10 ^ power) * (10 ^ power / 2 ^ exponent) := by
      rw [valueIs]
      field_simp
    rw [scaledDistance, abs_mul,
      abs_of_pos (div_pos stepPositive unitPositive)]
    calc
      |(digits : ℚ) - value / 10 ^ power| * (10 ^ power / 2 ^ exponent) ≤
          1 / 2 * (significand / 10 ^ 16) := by
        gcongr
      _ = significand / (2 * 10 ^ 16) := by
        ring
  have bounded : (significand : ℚ) < 2 ^ 53 := by
    exact_mod_cast (canonical.1 : significand < 2 ^ 53)
  refine Decimal.toBinary64_of_near false canonical positive digitsPositive
    (div_mul_cancel₀ _ unitPositive.ne').symm ?_ ?_
  · calc
      _ ≤ (significand : ℚ) / (2 * 10 ^ 16) := distance
      _ < 2 ^ 53 / (2 * 10 ^ 16) := by
        gcongr
      _ < 1 / 2 := by
        norm_num
  · rintro rfl
    have := (abs_le.mp distance).1
    norm_num at this ⊢
    linarith

/-- The shortest decimal of a positive number reads back as the number. -/
theorem toBinary64_shortest
    {significand : Nat}
    {exponent : Int}
    (canonical : CanonicalPair significand exponent)
    (positive : 0 < significand) :
    Decimal.toBinary64 false (shortest significand exponent).1
        (shortest significand exponent).2 =
      .finite false significand exponent canonical := by
  obtain ⟨numeratorPositive, denominatorPositive⟩ :=
    partsRatio_pos exponent positive
  obtain ⟨low, high⟩ := floorLog2_partsRatio_bounds canonical positive
  have magnitude :=
    ten_zpow_floorLog10_le numeratorPositive denominatorPositive low high
  have value := ofParts_of_canonical false canonical
  unfold shortest
  dsimp only
  rw [← value]
  set ratio := partsRatio significand exponent with ratioIs
  set power := floorLog10 ratio.1 ratio.2 - (16 : Nat) with powerIs
  refine toBinary64_of_searchGrids (show 16 < 17 by decide) ?_
  obtain ⟨digits, among, nearest⟩ :=
    exists_neighbour (inDecimalUnits ratio.1 ratio.2 power).1
      (inDecimalUnits_pos denominatorPositive power)
  rw [ratio_inDecimalUnits, ratioIs, ratio_partsRatio] at nearest
  rw [ratioIs, ratio_partsRatio, ← ratioIs] at magnitude
  have reads :
      Decimal.toBinary64 false digits power =
        ofParts false significand exponent := by
    rw [value]
    refine toBinary64_on_finest_grid canonical positive ?_ nearest
    rwa [powerIs, Nat.cast_ofNat, sub_add_cancel]
  rcases onGrid?_eq_firstToRead (ofParts false significand exponent) ratio.1
    ratio.2 power with ordered | ordered
  · rw [ordered]
    exact isSome_firstToRead among reads
  · rw [ordered]
    exact isSome_firstToRead among.symm reads

end Tabular.Binary64
