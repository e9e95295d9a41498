import Tabular.Number.Summation
import Tabular.Proofs.Number.Finite

namespace Tabular

/-!
# The sign of zero

Zero has two forms, which are the same number. No comparison tells them apart, the operations answer
the same number for both up to the sign of zero again, and rounding answers the same amount.
-/

namespace Binary64

/-- The number with the positive form of zero. -/
def unsigned (number : Binary64) : Binary64 :=
  if number.isZero then zero false else number

variable {number left right : Binary64}

theorem exists_eq_zero_of_isZero
    (isZero : number.isZero = true) :
    ∃ negative, number = zero negative := by
  cases number with
  | nan | infinite _ =>
      cases isZero
  | finite negative significand exponent canonical =>
      obtain rfl : significand = 0 := beq_iff_eq.mp isZero
      obtain ⟨-, -, -, normal | isLeast⟩ := canonical
      · exact absurd normal (by decide)
      · subst isLeast
        exact ⟨negative, rfl⟩

/-- Only the negative zero has another form without its sign. -/
theorem unsigned_cases
    (number : Binary64) :
    number.unsigned = number ∨ ∃ negative, number = zero negative := by
  rw [unsigned]
  split
  · next isZero =>
      exact .inr (exists_eq_zero_of_isZero isZero)
  · exact .inl rfl

/-- What answers the same for both zeros does so for a number without its sign. -/
theorem apply_unsigned
    {β : Type}
    (answer : Binary64 → β)
    (sameForZeros : answer (zero true) = answer (zero false))
    (number : Binary64) :
    answer number.unsigned = answer number := by
  rcases unsigned_cases number with same | ⟨negative, rfl⟩
  · rw [same]
  · cases negative with
    | true =>
        exact sameForZeros.symm
    | false =>
        rfl

theorem unsigned_unsigned
    (number : Binary64) :
    number.unsigned.unsigned = number.unsigned :=
  apply_unsigned unsigned rfl number

/-- Numbers with the same value are the same apart from the sign of zero. -/
theorem unsigned_eq_of_value
    {value : ℚ}
    (isLeft : left.value? = some value)
    (isRight : right.value? = some value) :
    left.unsigned = right.unsigned := by
  by_cases isZero : value = 0
  · rw [unsigned, unsigned, if_pos ((isZero_iff_of_value isLeft).mpr isZero),
      if_pos ((isZero_iff_of_value isRight).mpr isZero)]
  · rw [← nearest_of_value isLeft isZero, ← nearest_of_value isRight isZero]

/-! ## Comparing -/

theorem compare?_unsigned
    (left right : Binary64) :
    compare? left.unsigned right.unsigned = compare? left right := by
  have onLeft : compare? left.unsigned right.unsigned = compare? left right.unsigned := by
    refine apply_unsigned (compare? · right.unsigned) ?_ left
    cases right.unsigned <;> rfl
  have onRight : compare? left right.unsigned = compare? left right := by
    refine apply_unsigned (compare? left) ?_ right
    cases left <;> rfl
  rw [onLeft, onRight]

theorem lt_unsigned
    (left right : Binary64) :
    left.unsigned.lt right.unsigned = left.lt right := by
  rw [lt, lt, compare?_unsigned]

theorem eqv_unsigned
    (left right : Binary64) :
    left.unsigned.eqv right.unsigned = left.eqv right := by
  rw [eqv, eqv, compare?_unsigned]

theorem le_unsigned
    (left right : Binary64) :
    left.unsigned.le right.unsigned = left.le right := by
  rw [le, le, lt_unsigned, eqv_unsigned]

/-! ## Calculating -/

theorem unsigned_neg
    (number : Binary64) :
    number.unsigned.neg.unsigned = number.neg.unsigned :=
  apply_unsigned (fun number => number.neg.unsigned) rfl number

/-- A sum with a zero is that of the other number, apart from the sign of a zero. -/
theorem zero_add_finite
    (negative otherNegative : Bool)
    {significand : Nat}
    {exponent : Int}
    (canonical : CanonicalPair significand exponent) :
    (zero negative).add (.finite otherNegative significand exponent canonical) =
      let aligned := align 0 (-1074) (signedSignificand otherNegative significand) exponent
      let total := aligned.1 + aligned.2.1
      if total = 0 then zero (negative && otherNegative)
      else ofScaled (total < 0) total.natAbs aligned.2.2 := by
  cases negative <;> rfl

theorem finite_add_zero
    (negative otherNegative : Bool)
    {significand : Nat}
    {exponent : Int}
    (canonical : CanonicalPair significand exponent) :
    (finite otherNegative significand exponent canonical).add (zero negative) =
      let aligned := align (signedSignificand otherNegative significand) exponent 0 (-1074)
      let total := aligned.1 + aligned.2.1
      if total = 0 then zero (otherNegative && negative)
      else ofScaled (total < 0) total.natAbs aligned.2.2 := by
  cases negative <;> rfl

theorem unsigned_add
    (left right : Binary64) :
    (left.unsigned.add right.unsigned).unsigned = (left.add right).unsigned := by
  have onLeft (right : Binary64) :
      (left.unsigned.add right).unsigned = (left.add right).unsigned := by
    refine apply_unsigned (fun left => (left.add right).unsigned) ?_ left
    cases right with
    | nan | infinite _ =>
        rfl
    | finite negative significand exponent canonical =>
        simp only [zero_add_finite]
        split <;> rfl
  have onRight : (left.add right.unsigned).unsigned = (left.add right).unsigned := by
    refine apply_unsigned (fun right => (left.add right).unsigned) ?_ right
    cases left with
    | nan | infinite _ =>
        rfl
    | finite negative significand exponent canonical =>
        simp only [finite_add_zero]
        split <;> rfl
  rw [onLeft, onRight]

theorem unsigned_sub
    (left right : Binary64) :
    (left.unsigned.sub right.unsigned).unsigned = (left.sub right).unsigned := by
  rw [sub, sub, ← unsigned_add, unsigned_unsigned, unsigned_neg, unsigned_add]

theorem unsigned_mul
    (left right : Binary64) :
    (left.unsigned.mul right.unsigned).unsigned = (left.mul right).unsigned := by
  have onLeft (right : Binary64) :
      (left.unsigned.mul right).unsigned = (left.mul right).unsigned := by
    refine apply_unsigned (fun left => (left.mul right).unsigned) ?_ left
    cases right with
    | nan | infinite _ =>
        rfl
    | finite negative significand exponent canonical =>
        simp only [zero, mul, Nat.zero_mul, ofScaled_zero]
        rfl
  have onRight : (left.mul right.unsigned).unsigned = (left.mul right).unsigned := by
    refine apply_unsigned (fun right => (left.mul right).unsigned) ?_ right
    cases left with
    | nan | infinite _ =>
        rfl
    | finite negative significand exponent canonical =>
        simp only [zero, mul, Nat.mul_zero, ofScaled_zero]
        rfl
  rw [onLeft, onRight]

/-! ## Rounding and sorting -/

theorem isFinite_unsigned
    (number : Binary64) :
    number.unsigned.isFinite = number.isFinite :=
  apply_unsigned isFinite rfl number

theorem unsigned_of_not_isFinite
    (notFinite : ¬number.isFinite = true) :
    number.unsigned = number := by
  rcases unsigned_cases number with same | ⟨negative, rfl⟩
  · exact same
  · exact absurd rfl notFinite

theorem floorOf_unsigned
    (number : Binary64) :
    Amount.floorOf number.unsigned = Amount.floorOf number :=
  apply_unsigned Amount.floorOf rfl number

end Binary64

namespace Amount

/-- What rounding makes of the floor of the scaled number. -/
def ofFloor (digits floored : Int) : Outcome Amount := do
  let rounded ← scaleBack floored (powerOfTen digits)
  if digits = 0 then
    let integer ← floorOf rounded
    .ok (.whole integer)
  else .ok (.real rounded)

/-- A binary64 number is rounded by way of the floor of one other number. -/
theorem roundFinite_real
    (number : Binary64)
    (digits : Int) :
    roundFinite (.real number) digits =
      (powerOfTen digits).toReal >>= fun factor =>
        floorOf ((number.mul factor).add (Binary64.ofRatio false 1 2)) >>= ofFloor digits := by
  unfold ofFloor
  rw [roundFinite]
  cases powerOfTen digits with
  | whole factor =>
      cases isReal : realOfInt factor with
      | error fault =>
          simp only [mul, toReal, isReal]
          rfl
      | ok factor =>
          simp only [mul, add, toReal, isReal]
          rfl
  | real factor =>
      rfl

theorem roundFinite_unsigned
    (number : Binary64)
    (digits : Int) :
    roundFinite (.real number.unsigned) digits = roundFinite (.real number) digits := by
  rw [roundFinite_real, roundFinite_real]
  congr 1
  funext factor
  rw [← Binary64.floorOf_unsigned, ← Binary64.unsigned_add, ← Binary64.unsigned_mul,
    Binary64.unsigned_unsigned, Binary64.unsigned_mul, Binary64.unsigned_add,
    Binary64.floorOf_unsigned]

end Amount

theorem Binary64.roundHalfUp_unsigned
    (number : Binary64)
    (digits : Int) :
    number.unsigned.roundHalfUp digits = number.roundHalfUp digits := by
  have byFiniteness (number : Binary64) :
      number.roundHalfUp digits =
        if number.isFinite then Amount.roundFinite (.real number) digits else .ok (.real number) :=
    rfl
  rw [byFiniteness, byFiniteness, isFinite_unsigned]
  split
  · exact Amount.roundFinite_unsigned number digits
  · next notFinite =>
      rw [unsigned_of_not_isFinite notFinite]

/-- Numbers are sorted by their values. -/
theorem Summation.ascending_map_unsigned
    (values : List Binary64) :
    ascending (values.map Binary64.unsigned) = (ascending values).map Binary64.unsigned :=
  (List.map_mergeSort fun left _ right _ => by rw [Binary64.lt_unsigned]).symm

end Tabular
