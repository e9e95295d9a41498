import Tabular.Proofs.Number.Finite

namespace Tabular.Binary64

/-!
# The nearest number

No number lies nearer to a rational than the one that the rational is rounded to. So rounding keeps
the order, and a result stays on the side of every number on which the exact one is: a difference
with a number that is not below zero is not above where it started, and such a sum is not below.
Unless a result is tiny, rounding is off by one part in `2 ^ 53` at most.
-/

variable {value rounded : ℚ}

/-! ## Distances -/

/-- The integer within a half of a number is at least as near to it as any other integer. -/
theorem abs_sub_le_of_half
    {number : ℚ}
    {nearby : Int}
    (close : |(nearby : ℚ) - number| ≤ 1 / 2)
    (other : Int) :
    |(nearby : ℚ) - number| ≤ |(other : ℚ) - number| := by
  rcases eq_or_ne other nearby with rfl | different
  · exact le_rfl
  have apart : (1 : ℚ) ≤ |(other : ℚ) - nearby| := by
    exact_mod_cast Int.one_le_abs (sub_ne_zero.mpr different)
  have between := abs_sub_le (other : ℚ) number nearby
  rw [abs_sub_comm number] at between
  linarith

/-- Where a power of two lies between two ratios, it or its negative is an integer as near. -/
theorem exists_integer_between
    {ratio other : ℚ}
    (reached : (2 : ℚ) ^ (52 : Int) ≤ |ratio|)
    (missed : |other| ≤ (2 : ℚ) ^ (52 : Int)) :
    ∃ near : Int, |(near : ℚ) - ratio| ≤ |other - ratio| := by
  obtain ⟨otherLow, otherHigh⟩ := abs_le.mp missed
  rcases le_abs.mp reached with above | below
  · refine ⟨2 ^ 52, ?_⟩
    push_cast
    rw [abs_sub_comm, abs_sub_comm other, abs_of_nonneg (by linarith),
      abs_of_nonneg (by linarith)]
    linarith
  · refine ⟨-2 ^ 52, ?_⟩
    push_cast
    rw [abs_of_nonneg (by linarith), abs_of_nonneg (by linarith)]
    linarith

/--
Next to any number there is an integer that is at least as near to a given ratio, when the number
counts units that are at least as large, or is small beside the ratio.
-/
theorem exists_integer_near
    {number : Binary64}
    {other : ℚ}
    (isValue : number.value? = some other)
    {exponent : Int}
    (bits : exponent = -1074 ∨ (2 : ℚ) ^ (exponent + 52) ≤ |value|) :
    ∃ near : Int,
      |(near : ℚ) - value / 2 ^ exponent| ≤ |other / 2 ^ exponent - value / 2 ^ exponent| := by
  obtain ⟨negative, significand, power, canonical, rfl, rfl⟩ := exists_of_value isValue
  obtain ⟨small, low, -, -⟩ := canonical
  have unitPositive : (0 : ℚ) < 2 ^ exponent := by positivity
  rcases le_or_gt exponent power with atLeast | below
  · refine ⟨signedSignificand negative significand * 2 ^ (power - exponent).toNat, le_of_eq ?_⟩
    have counted :
        (signedSignificand negative significand * 2 ^ power : ℚ) / 2 ^ exponent =
          signedSignificand negative significand * 2 ^ (power - exponent).toNat := by
      rw [mul_div_assoc, ← zpow_sub₀ (by norm_num), ← zpow_natCast,
        Int.toNat_of_nonneg (by omega)]
    rw [counted]
    push_cast
    rfl
  · have reached : (2 : ℚ) ^ (52 : Int) ≤ |value / 2 ^ exponent| := by
      rw [abs_div, abs_of_pos unitPositive, le_div_iff₀ unitPositive, ← zpow_add₀ (by norm_num),
        add_comm]
      exact bits.resolve_left (by omega)
    have missed :
        |(signedSignificand negative significand * 2 ^ power : ℚ) / 2 ^ exponent| ≤
          2 ^ (52 : Int) := by
      rw [abs_div, abs_mul, abs_signedSignificand, abs_of_pos unitPositive,
        abs_of_pos (by positivity : (0 : ℚ) < 2 ^ power), div_le_iff₀ unitPositive,
        ← zpow_add₀ (by norm_num)]
      calc
        (significand * 2 ^ power : ℚ) ≤ 2 ^ (53 : Int) * 2 ^ power := by
          gcongr
          exact_mod_cast small.le
        _ = 2 ^ (53 + power) := (zpow_add₀ (by norm_num) _ _).symm
        _ ≤ 2 ^ (52 + exponent) := zpow_le_zpow_right₀ (by norm_num) (by omega)
    exact exists_integer_between reached missed

/-- No number lies nearer to a rational than the one that is nearest to it. -/
theorem nearest_closest
    {number : Binary64}
    {other : ℚ}
    (isRounded : (nearest value).value? = some rounded)
    (isOther : number.value? = some other) :
    |rounded - value| ≤ |other - value| := by
  rcases eq_or_ne value 0 with rfl | nonzero
  · rw [nearest_zero, value?_zero] at isRounded
    rw [← Option.some.inj isRounded, sub_zero, abs_zero]
    exact abs_nonneg _
  obtain ⟨units, exponent, isUnits, close, bits⟩ := exists_units isRounded nonzero
  obtain ⟨near, isNear⟩ := exists_integer_near isOther bits
  have unitPositive : (0 : ℚ) < 2 ^ exponent := by positivity
  have inUnits (number : ℚ) :
      |number - value| = |number / 2 ^ exponent - value / 2 ^ exponent| * 2 ^ exponent := by
    rw [← sub_div, abs_div, abs_of_pos unitPositive, div_mul_cancel₀ _ unitPositive.ne']
  rw [inUnits rounded, inUnits other]
  apply mul_le_mul_of_nonneg_right _ unitPositive.le
  rw [isUnits, mul_div_cancel_right₀ _ unitPositive.ne']
  exact (abs_sub_le_of_half close near).trans isNear

/-! ## Order -/

/-- Rounding does not pass a number from below. -/
theorem nearest_le
    {number : Binary64}
    {bound : ℚ}
    (isRounded : (nearest value).value? = some rounded)
    (isBound : number.value? = some bound)
    (within : value ≤ bound) :
    rounded ≤ bound := by
  have closest := nearest_closest isRounded isBound
  rw [abs_of_nonneg (sub_nonneg.mpr within)] at closest
  linarith [le_abs_self (rounded - value)]

/-- Rounding does not pass a number from above. -/
theorem le_nearest
    {number : Binary64}
    {bound : ℚ}
    (isRounded : (nearest value).value? = some rounded)
    (isBound : number.value? = some bound)
    (within : bound ≤ value) :
    bound ≤ rounded := by
  have closest := nearest_closest isRounded isBound
  rw [abs_of_nonpos (sub_nonpos.mpr within)] at closest
  linarith [neg_abs_le (rounded - value)]

/-- Rounding keeps the order. -/
theorem nearest_mono
    {other otherRounded : ℚ}
    (isRounded : (nearest value).value? = some rounded)
    (isOther : (nearest other).value? = some otherRounded)
    (ordered : value ≤ other) :
    rounded ≤ otherRounded := by
  rcases eq_or_lt_of_le ordered with rfl | less
  · exact (Option.some.inj (isRounded.symm.trans isOther)).le
  by_contra passed
  rw [not_le] at passed
  have fromLeft := nearest_closest isRounded isOther
  have fromRight := nearest_closest isOther isRounded
  have leftBeyond : rounded + otherRounded ≤ 2 * value := by
    rcases abs_cases (rounded - value) with ⟨isAbs, _⟩ | ⟨isAbs, _⟩ <;>
      rcases abs_cases (otherRounded - value) with ⟨isOtherAbs, _⟩ | ⟨isOtherAbs, _⟩ <;>
      linarith
  have rightBeyond : 2 * other ≤ rounded + otherRounded := by
    rcases abs_cases (rounded - other) with ⟨isAbs, _⟩ | ⟨isAbs, _⟩ <;>
      rcases abs_cases (otherRounded - other) with ⟨isOtherAbs, _⟩ | ⟨isOtherAbs, _⟩ <;>
      linarith
  linarith

/-! ## The error of rounding -/

/-- A rational that is not tiny is rounded by at most one part in `2 ^ 53`. -/
theorem abs_nearest_sub_le
    (isRounded : (nearest value).value? = some rounded)
    (normal : (2 : ℚ) ^ (-1022 : Int) ≤ |value|) :
    |rounded - value| ≤ |value| / 2 ^ 53 := by
  have nonzero : value ≠ 0 := by
    rintro rfl
    rw [abs_zero] at normal
    exact absurd normal (not_le.mpr (by positivity))
  obtain ⟨units, exponent, isUnits, close, bits⟩ := exists_units isRounded nonzero
  have unitPositive : (0 : ℚ) < 2 ^ exponent := by positivity
  have reached : (2 : ℚ) ^ (exponent + 52) ≤ |value| := by
    rcases bits with rfl | reached
    · exact normal
    · exact reached
  rw [zpow_add₀ (by norm_num)] at reached
  have apart : rounded - value = (units - value / 2 ^ exponent) * 2 ^ exponent := by
    rw [isUnits]
    field_simp
  calc
    |rounded - value| = |(units : ℚ) - value / 2 ^ exponent| * 2 ^ exponent := by
      rw [apart, abs_mul, abs_of_pos unitPositive]
    _ ≤ 1 / 2 * 2 ^ exponent := by gcongr
    _ = 2 ^ exponent * 2 ^ (52 : Int) / 2 ^ 53 := by norm_num; ring
    _ ≤ |value| / 2 ^ 53 := by gcongr

/-! ## Results on their side -/

variable {number left right : Binary64} {leftValue rightValue : ℚ}

/-- A rational without a nearest finite number is rounded to the infinity of its sign. -/
theorem nearest_cases
    (value : ℚ) :
    (∃ rounded, (nearest value).value? = some rounded) ∨
      (intLimit : ℚ) ≤ |value| ∧ nearest value = .infinite (decide (value < 0)) := by
  by_cases inRange : |value| < intLimit
  · exact .inl (isFinite_iff_exists_value.mp ((isFinite_nearest_iff value).mpr inRange))
  · refine .inr ⟨not_lt.mp inRange, ?_⟩
    have notFinite := mt (isFinite_nearest_iff value).mp inRange
    rw [nearest] at notFinite ⊢
    obtain ⟨_, _, _, finite⟩ | infinite :=
      ofRatio_cases (decide (value < 0)) value.num.natAbs value.den
    · rw [finite] at notFinite
      exact absurd rfl notFinite
    · exact infinite

theorem ne_zero_of_intLimit_le
    (beyond : (intLimit : ℚ) ≤ |value|) :
    value ≠ 0 := by
  rintro rfl
  have positive : (0 : ℚ) < intLimit := by exact_mod_cast (by decide +kernel : 0 < intLimit)
  rw [abs_zero] at beyond
  exact beyond.not_gt positive

/-- A sum of finite numbers is rounded, or the infinity of its sign. -/
theorem add_cases
    (isLeft : left.value? = some leftValue)
    (isRight : right.value? = some rightValue) :
    (∃ rounded, (left.add right).value? = some rounded ∧
        (nearest (leftValue + rightValue)).value? = some rounded) ∨
      (intLimit : ℚ) ≤ |leftValue + rightValue| ∧
        left.add right = .infinite (decide (leftValue + rightValue < 0)) := by
  rcases nearest_cases (leftValue + rightValue) with ⟨rounded, isRounded⟩ | ⟨beyond, isInfinite⟩
  · exact .inl ⟨rounded, (value?_add isLeft isRight).trans isRounded, isRounded⟩
  · exact .inr ⟨beyond,
      (add_of_value isLeft isRight (ne_zero_of_intLimit_le beyond)).trans isInfinite⟩

/-- The number is not less than zero. It may be no number at all. -/
def NotBelowZero (number : Binary64) : Prop :=
  number.lt (zero false) = false

instance : DecidablePred NotBelowZero :=
  fun _ => inferInstanceAs (Decidable (_ = _))

theorem notBelowZero_of_value
    (isValue : number.value? = some value)
    (notNegative : 0 ≤ value) :
    number.NotBelowZero := by
  rw [NotBelowZero, Bool.eq_false_iff, ne_eq, lt_iff_of_value isValue (value?_zero false), not_lt]
  exact notNegative

theorem notBelowZero_cases
    (notBelow : number.NotBelowZero) :
    number = .nan ∨ number = .infinite false ∨ ∃ value, number.value? = some value ∧ 0 ≤ value := by
  cases number with
  | nan =>
      exact .inl rfl
  | infinite negative =>
      cases negative with
      | true =>
          exact absurd notBelow (by decide)
      | false =>
          exact .inr (.inl rfl)
  | finite negative significand exponent canonical =>
      refine .inr (.inr ⟨_, rfl, ?_⟩)
      rwa [NotBelowZero, Bool.eq_false_iff, ne_eq, lt_iff_of_value rfl (value?_zero false),
        not_lt] at notBelow

/-- The difference of two numbers in order is not below zero. -/
theorem notBelowZero_sub
    (isLeft : left.value? = some leftValue)
    (isRight : right.value? = some rightValue)
    (ordered : rightValue ≤ leftValue) :
    (left.sub right).NotBelowZero := by
  have notNegative : 0 ≤ leftValue + -rightValue := by linarith
  rcases add_cases isLeft (value?_neg isRight) with ⟨rounded, isValue, isRounded⟩ | ⟨-, isInfinite⟩
  · exact notBelowZero_of_value isValue (le_nearest isRounded (value?_zero false) notNegative)
  · rw [sub, isInfinite, decide_eq_false notNegative.not_gt]
    rfl

/-- An infinite number times one that is not below zero. -/
theorem notBelowZero_infinite_mul
    (isRight : right.value? = some rightValue)
    (notNegative : 0 ≤ rightValue) :
    ((infinite false).mul right).NotBelowZero ∧ (right.mul (.infinite false)).NotBelowZero := by
  obtain ⟨negative, significand, exponent, canonical, rfl, rfl⟩ := exists_of_value isRight
  simp only [mul]
  split_ifs with isZero
  · exact ⟨rfl, rfl⟩
  · cases negative with
    | false =>
        exact ⟨rfl, rfl⟩
    | true =>
        have positive : (0 : ℚ) < significand * 2 ^ exponent := by
          have : (0 : ℚ) < significand := by exact_mod_cast Nat.pos_of_ne_zero isZero
          positivity
        simp only [signedSignificand, ↓reduceIte, Int.cast_neg, Int.cast_natCast] at notNegative
        linarith

/-- A product of numbers that are not below zero is not below zero. -/
theorem NotBelowZero.mul
    (leftNotBelow : left.NotBelowZero)
    (rightNotBelow : right.NotBelowZero) :
    (left.mul right).NotBelowZero := by
  rcases notBelowZero_cases leftNotBelow with
    rfl | rfl | ⟨leftValue, isLeft, leftNotNegative⟩
  · cases right <;> rfl
  · rcases notBelowZero_cases rightNotBelow with
      rfl | rfl | ⟨rightValue, isRight, rightNotNegative⟩
    · rfl
    · rfl
    · exact (notBelowZero_infinite_mul isRight rightNotNegative).1
  · rcases notBelowZero_cases rightNotBelow with
      rfl | rfl | ⟨rightValue, isRight, rightNotNegative⟩
    · cases left <;> rfl
    · exact (notBelowZero_infinite_mul isLeft leftNotNegative).2
    · have notNegative : 0 ≤ leftValue * rightValue := by positivity
      rcases nearest_cases (leftValue * rightValue) with ⟨rounded, isRounded⟩ | ⟨beyond, isInfinite⟩
      · exact notBelowZero_of_value ((value?_mul isLeft isRight).trans isRounded)
          (le_nearest isRounded (value?_zero false) notNegative)
      · rw [mul_of_value isLeft isRight (ne_zero_of_intLimit_le beyond), isInfinite,
          decide_eq_false notNegative.not_gt]
        rfl

/-- What lies below a number less one that is not below zero lies below the number. -/
theorem lt_of_lt_sub
    {reach : Binary64}
    (isValue : number.value? = some value)
    (isLeft : left.value? = some leftValue)
    (notBelow : reach.NotBelowZero)
    (less : number.lt (left.sub reach) = true) :
    value < leftValue := by
  obtain ⟨negative, significand, exponent, canonical, rfl, -⟩ := exists_of_value isValue
  rcases notBelowZero_cases notBelow with rfl | rfl | ⟨reachValue, isReach, notNegative⟩
  · cases left <;> cases less
  · obtain ⟨_, _, _, _, rfl, -⟩ := exists_of_value isLeft
    cases less
  · rcases add_cases isLeft (value?_neg isReach) with
      ⟨rounded, isBound, isRounded⟩ | ⟨beyond, isInfinite⟩
    · have notAbove : rounded ≤ leftValue := nearest_le isRounded isLeft (by linarith)
      exact ((lt_iff_of_value isValue isBound).mp less).trans_le notAbove
    · have inRange := abs_value_add_one_lt isLeft
      have negative : leftValue + -reachValue < 0 := by
        by_contra notNegative
        rw [abs_of_nonneg (not_lt.mp notNegative)] at beyond
        linarith [le_abs_self leftValue]
      rw [sub, isInfinite, decide_eq_true negative] at less
      cases less

/-- What lies above a number and one that is not below zero lies above the number. -/
theorem lt_of_add_lt
    {reach : Binary64}
    (isValue : number.value? = some value)
    (isLeft : left.value? = some leftValue)
    (notBelow : reach.NotBelowZero)
    (less : (left.add reach).lt number = true) :
    leftValue < value := by
  obtain ⟨negative, significand, exponent, canonical, rfl, -⟩ := exists_of_value isValue
  rcases notBelowZero_cases notBelow with rfl | rfl | ⟨reachValue, isReach, notNegative⟩
  · cases left <;> cases less
  · obtain ⟨_, _, _, _, rfl, -⟩ := exists_of_value isLeft
    cases less
  · rcases add_cases isLeft isReach with ⟨rounded, isBound, isRounded⟩ | ⟨beyond, isInfinite⟩
    · have notBelow : leftValue ≤ rounded := le_nearest isRounded isLeft (by linarith)
      exact notBelow.trans_lt ((lt_iff_of_value isBound isValue).mp less)
    · have inRange := abs_value_add_one_lt isLeft
      have notNegative : ¬leftValue + reachValue < 0 := by
        intro negative
        rw [abs_of_neg negative] at beyond
        linarith [neg_abs_le leftValue]
      rw [isInfinite, decide_eq_false notNegative] at less
      cases less

theorem le_iff_of_value
    (isLeft : left.value? = some leftValue)
    (isRight : right.value? = some rightValue) :
    left.le right = true ↔ leftValue ≤ rightValue := by
  rw [le, Bool.or_eq_true, lt_iff_of_value isLeft isRight, eqv_iff_of_value isLeft isRight,
    le_iff_lt_or_eq]

theorem notBelowZero_of_le
    (reached : (zero false).le number = true) :
    number.NotBelowZero := by
  cases number with
  | nan =>
      cases reached
  | infinite negative =>
      cases negative with
      | true =>
          exact absurd reached (by decide)
      | false =>
          rfl
  | finite negative significand exponent canonical =>
      have isValue : (finite negative significand exponent canonical).value? = some _ := rfl
      exact notBelowZero_of_value isValue ((le_iff_of_value (value?_zero false) isValue).mp reached)

/-! ## Counts -/

variable {count more : Nat}

theorem exists_value_ofNat
    (inRange : count < intLimit) :
    ∃ value, (ofNat count).value? = some value ∧ (nearest (count : ℚ)).value? = some value := by
  have isFinite : (nearest (count : ℚ)).isFinite = true := by
    rw [isFinite_nearest_iff, Nat.abs_cast]
    exact_mod_cast inRange
  obtain ⟨value, isValue⟩ := isFinite_iff_exists_value.mp isFinite
  exact ⟨value, by rwa [ofNat_eq_nearest], isValue⟩

/-- A greater count is reached as well. -/
theorem le_ofNat_mono
    (ordered : count ≤ more)
    (inRange : more < intLimit)
    (reached : number.le (ofNat count) = true) :
    number.le (ofNat more) = true := by
  obtain ⟨least, isLeast, isRounded⟩ := exists_value_ofNat (ordered.trans_lt inRange)
  obtain ⟨greatest, isGreatest, isRoundedToo⟩ := exists_value_ofNat inRange
  have rounds : least ≤ greatest := nearest_mono isRounded isRoundedToo (by exact_mod_cast ordered)
  cases number with
  | nan =>
      cases reached
  | infinite negative =>
      obtain ⟨_, _, _, _, isFinite, -⟩ := exists_of_value isLeast
      obtain ⟨_, _, _, _, isFiniteToo, -⟩ := exists_of_value isGreatest
      rw [isFinite] at reached
      rw [isFiniteToo]
      cases negative with
      | true =>
          rfl
      | false =>
          cases reached
  | finite negative significand exponent canonical =>
      have isValue : (finite negative significand exponent canonical).value? = some _ := rfl
      rw [le_iff_of_value isValue isLeast] at reached
      exact (le_iff_of_value isValue isGreatest).mpr (reached.trans rounds)

/-- A count is turned into the number nearest to it, when it is in range. -/
theorem eq_ofNat_of_realOfInt
    (isReal : Amount.realOfInt (count : Int) = .ok number) :
    number = ofNat count ∧ count < intLimit := by
  have isOfNat : ofInt (count : Int) = ofNat count := by
    rw [ofInt, ofNat, decide_eq_false (by omega), Int.natAbs_natCast]
  have inRange : count < intLimit := by
    by_contra beyond
    rw [not_lt, ← Int.natAbs_natCast count] at beyond
    have failed := Amount.realOfInt_eq_error_iff.mpr ⟨rfl, beyond⟩
    rw [isReal] at failed
    cases failed
  obtain ⟨value, isValue, -⟩ := exists_value_ofNat inRange
  obtain ⟨_, _, _, _, isFinite, -⟩ := exists_of_value isValue
  rw [Amount.realOfInt, isOfNat, isFinite] at isReal
  cases isReal
  exact ⟨isFinite.symm, inRange⟩

end Tabular.Binary64
