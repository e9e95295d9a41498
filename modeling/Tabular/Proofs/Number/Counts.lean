import Tabular.Number.Summation
import Tabular.Proofs.Number.Value

namespace Tabular

open List

/-!
# Arithmetic on counts

A binary64 number holds every count below `2 ^ 53`. Sums and differences of such counts are exact,
so the compensated sum of ones counts them without an error to carry along, and rounding to two
decimals, which multiplies by a hundred, leaves counts alone that are small enough for that.
-/

namespace Binary64

/-! ## Counts as numbers -/

theorem value?_neg
    {number : Binary64}
    {value : ℚ}
    (isValue : number.value? = some value) :
    number.neg.value? = some (-value) := by
  obtain ⟨negative, significand, exponent, canonical, rfl, rfl⟩ := exists_of_value isValue
  cases negative <;> simp [neg, value?, signedSignificand]

theorem isFinite_of_value
    {number : Binary64}
    {value : ℚ}
    (isValue : number.value? = some value) :
    number.isFinite = true := by
  obtain ⟨negative, significand, exponent, canonical, rfl, -⟩ := exists_of_value isValue
  rfl

theorem value?_half :
    (ofRatio false 1 2).value? = some (1 / 2 : ℚ) := by
  have exact := @value?_nearest 1 (-1) (by decide) (by decide) (by decide)
  rw [ofRatio_eq_nearest Nat.two_pos rfl (by decide)]
  norm_num [signedSignificand] at exact ⊢
  exact exact

theorem ofNat_eq_nearest (count : Nat) :
    ofNat count = nearest count :=
  ofRatio_eq_nearest Nat.one_pos (by simp [signedSignificand]) fun _ => rfl

variable {count more : Nat}

theorem value?_ofNat
    (small : count < Nat.pow 2 53) :
    (ofNat count).value? = some (count : ℚ) := by
  have exact := @value?_nearest count 0 (by simpa using small) (by decide) (by decide)
  rw [zpow_zero, mul_one] at exact
  rw [ofNat_eq_nearest]
  exact exact

theorem toInt?_ofNat
    (small : count < Nat.pow 2 53) :
    (ofNat count).toInt? = some (count : Int) :=
  toInt?_eq_some_iff.mpr (value?_ofNat small)

theorem add_ofNat
    (small : count + more < Nat.pow 2 53) :
    (ofNat count).add (ofNat more) = ofNat (count + more) := by
  rcases Nat.eq_zero_or_pos (count + more) with isZero | positive
  · obtain ⟨rfl, rfl⟩ := Nat.add_eq_zero_iff.mp isZero
    decide
  · have nonzero : (count : ℚ) + more ≠ 0 := by exact_mod_cast positive.ne'
    rw [add_of_value (value?_ofNat (by omega)) (value?_ofNat (by omega)) nonzero,
      ofNat_eq_nearest, Nat.cast_add]

theorem sub_ofNat
    (less : more < count)
    (small : count < Nat.pow 2 53) :
    (ofNat count).sub (ofNat more) = ofNat (count - more) := by
  have nonzero : (count : ℚ) + -more ≠ 0 := by
    rw [← sub_eq_add_neg, sub_ne_zero]
    exact_mod_cast less.ne'
  rw [sub, add_of_value (value?_ofNat small) (value?_neg (value?_ofNat (by omega))) nonzero,
    ofNat_eq_nearest, Nat.cast_sub less.le, sub_eq_add_neg]

theorem mul_ofNat
    (positive : 0 < count * more)
    (small : count * more < Nat.pow 2 53) :
    (ofNat count).mul (ofNat more) = ofNat (count * more) := by
  have countSmall : count < Nat.pow 2 53 :=
    (Nat.le_mul_of_pos_right count (Nat.pos_of_mul_pos_left positive)).trans_lt small
  have moreSmall : more < Nat.pow 2 53 :=
    (Nat.le_mul_of_pos_left more (Nat.pos_of_mul_pos_right positive)).trans_lt small
  have nonzero : (count : ℚ) * more ≠ 0 := by exact_mod_cast positive.ne'
  rw [mul_of_value (value?_ofNat countSmall) (value?_ofNat moreSmall) nonzero, ofNat_eq_nearest,
    Nat.cast_mul]

end Binary64

/-! ## Sums of ones -/

namespace Summation

variable {count : Nat}

/-- Adding one to a count leaves no error to carry. -/
theorem Compensated.step_ofNat_one
    (small : count + 1 < Nat.pow 2 53) :
    ({ total := .ofNat count, error := .zero false } : Compensated).step (.ofNat 1) =
      { total := .ofNat (count + 1), error := .zero false } := by
  have corrected : (Binary64.ofNat 1).sub (.zero false) = .ofNat 1 := by decide +kernel
  have total : (Binary64.ofNat count).add (.ofNat 1) = .ofNat (count + 1) :=
    Binary64.add_ofNat small
  have added : (Binary64.ofNat (count + 1)).sub (.ofNat count) = .ofNat 1 := by
    rw [Binary64.sub_ofNat (Nat.lt_add_one count) small, Nat.add_sub_cancel_left]
  have error : (Binary64.ofNat 1).sub (.ofNat 1) = .zero false := by decide +kernel
  simp only [step, corrected, total, added, error]
  rfl

/-- Ones are in ascending order. -/
theorem foldr_insertAscending_replicate_one
    (count : Nat) :
    (replicate count (Binary64.ofNat 1)).foldr insertAscending [] =
      replicate count (Binary64.ofNat 1) := by
  have notLess : (Binary64.ofNat 1).lt (.ofNat 1) = false := by decide +kernel
  induction count with
  | zero =>
      rfl
  | succ count inductionHypothesis =>
      rw [replicate_succ, foldr_cons, inductionHypothesis]
      cases count with
      | zero =>
          rfl
      | succ count =>
          rw [replicate_succ, insertAscending, notLess, if_neg Bool.false_ne_true]

/-- The compensated sum of ones is their number. -/
theorem compensated_replicate_one
    (small : count < Nat.pow 2 53) :
    compensated (replicate count (.ofNat 1)) = .ofNat count := by
  have state :
      (replicate count (Binary64.ofNat 1)).foldl Compensated.step
          { total := .zero false, error := .zero false } =
        { total := .ofNat count, error := .zero false } := by
    induction count with
    | zero =>
        rfl
    | succ count inductionHypothesis =>
        rw [replicate_succ', foldl_append, inductionHypothesis (by omega), foldl_cons, foldl_nil,
          Compensated.step_ofNat_one small]
  rw [compensated, foldr_insertAscending_replicate_one, state]

end Summation

/-! ## Counts as amounts -/

namespace Amount

/-- The amount that is a count. -/
def ofCount (count : Nat) : Amount :=
  .real (.ofNat count)

variable {count : Nat}

theorem add_ofCount
    {amount : Amount}
    {before : Nat}
    (isBefore : amount.toReal = .ok (.ofNat before))
    (small : before + count < Nat.pow 2 53) :
    amount.add (ofCount count) = .ok (ofCount (before + count)) := by
  have chain : amount.add (ofCount count) = (do
      let left ← amount.toReal
      .ok (.real (left.add (.ofNat count)))) := by
    cases amount <;> rfl
  rw [chain, isBefore, ofCount, ← Binary64.add_ofNat small]
  rfl

theorem foldlM_add_ofCount
    (before : Nat)
    (counts : List Nat)
    (small : before + counts.sum < Nat.pow 2 53) :
    (counts.map ofCount).foldlM add (ofCount before) = .ok (ofCount (before + counts.sum)) := by
  induction counts generalizing before with
  | nil =>
      rfl
  | cons count rest inductionHypothesis =>
      rw [sum_cons, ← Nat.add_assoc] at small ⊢
      rw [map_cons, foldlM_cons, add_ofCount rfl (by omega)]
      exact inductionHypothesis (before + count) small

/-- The sum of counts is exact; without counts it is the whole zero. -/
theorem sum_map_ofCount
    (counts : List Nat)
    (small : counts.sum < Nat.pow 2 53) :
    sum (counts.map ofCount) =
      .ok (if counts = [] then .whole 0 else ofCount counts.sum) := by
  cases counts with
  | nil =>
      rfl
  | cons first rest =>
      have isZero : (Amount.whole 0).toReal = .ok (.ofNat 0) := by decide +kernel
      rw [sum_cons] at small
      have added := add_ofCount isZero (by omega : 0 + first < Nat.pow 2 53)
      rw [Nat.zero_add] at added
      rw [sum, map_cons, foldlM_cons, added, if_neg (cons_ne_nil first rest), List.sum_cons]
      exact foldlM_add_ofCount first rest small

/-! ## Rounding counts -/

/-- A half more than a count has the count as its integer part. -/
theorem floorOf_add_half
    (small : 2 * count + 1 < Nat.pow 2 53) :
    floorOf ((Binary64.ofNat count).add (Binary64.ofRatio false 1 2)) = .ok (count : Int) := by
  have exact :
      ((Binary64.ofNat count).add (Binary64.ofRatio false 1 2)).value? =
        some (count + 1 / 2 : ℚ) := by
    have nearest :=
      @Binary64.value?_nearest (2 * count + 1) (-1) (by omega) (by decide) (by decide)
    have parts : ((2 * count + 1 : Int) * 2 ^ (-1 : Int) : ℚ) = count + 1 / 2 := by
      push_cast
      rw [zpow_neg_one]
      ring
    rw [parts] at nearest
    rw [Binary64.add_of_value (Binary64.value?_ofNat (by omega)) Binary64.value?_half
      (by positivity)]
    exact nearest
  have floor : ⌊(count + 1 / 2 : ℚ)⌋ = count := by
    rw [Int.floor_eq_iff]
    constructor <;> push_cast <;> linarith
  rw [floorOf, Binary64.floor?_of_value exact, floor]

/-- A hundred times a count divided by a hundred is the count. -/
theorem quotient_hundred
    (small : count < Nat.pow 2 53) :
    quotient ((count * 100 : Nat) : Int) 100 = .ok (.ofNat count) := by
  have sign :
      (decide (((count * 100 : Nat) : Int) < 0) != decide ((100 : Int) < 0)) = false := by
    rw [decide_eq_false (by omega), decide_eq_false (by decide)]
    rfl
  have ratio : Binary64.ofRatio false (count * 100) 100 = .ofNat count := by
    rw [Binary64.ofNat_eq_nearest]
    refine Binary64.ofRatio_eq_nearest (by decide) ?_ fun _ => rfl
    push_cast [Binary64.signedSignificand]
    simp
  obtain ⟨negative, significand, exponent, canonical, isNumber, -⟩ :=
    Binary64.exists_of_value (Binary64.value?_ofNat small)
  have hundred : (100 : Int).natAbs = 100 := rfl
  rw [quotient, sign, Int.natAbs_natCast, hundred, ratio, isNumber]

/-- Counts below `2 ^ 40` stay as they are when they are rounded to two decimals. -/
theorem roundHalfUp_ofNat
    (small : count < Nat.pow 2 40) :
    (Binary64.ofNat count).roundHalfUp 2 = .ok (ofCount count) := by
  rcases Nat.eq_zero_or_pos count with rfl | positive
  · decide +kernel
  have limit : Nat.pow 2 40 * 200 + 1 < Nat.pow 2 53 := by decide
  have finite : (Binary64.ofNat count).isFinite = true :=
    Binary64.isFinite_of_value (Binary64.value?_ofNat (by omega))
  have factor : powerOfTen 2 = .whole 100 := by decide
  have scaled : (Amount.real (.ofNat count)).mul (.whole 100) = .ok (ofCount (count * 100)) := by
    have hundred : (Amount.whole 100).toReal = .ok (.ofNat 100) := by decide +kernel
    have chain : (Amount.real (.ofNat count)).mul (.whole 100) = (do
        let right ← (Amount.whole 100).toReal
        .ok (.real ((Binary64.ofNat count).mul right))) := rfl
    rw [chain, hundred, ofCount, ← Binary64.mul_ofNat (by omega) (by omega)]
    rfl
  have shifted :
      (ofCount (count * 100)).add (.real (Binary64.ofRatio false 1 2)) =
        .ok (.real ((Binary64.ofNat (count * 100)).add (Binary64.ofRatio false 1 2))) := rfl
  have floored := @floorOf_add_half (count * 100) (by omega)
  have back : scaleBack ((count * 100 : Nat) : Int) (.whole 100) = .ok (.ofNat count) :=
    quotient_hundred (by omega)
  simp only [Binary64.roundHalfUp, roundHalfUp, roundFinite, toReal, bind, Except.bind, finite,
    ↓reduceIte, factor, scaled, shifted, floored, back]
  rfl

end Amount

end Tabular
