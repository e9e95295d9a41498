import Mathlib.Data.List.Sort
import Tabular.Number.Summation
import Tabular.Proofs.Number.Nearness

namespace Tabular

open List

/-!
# Numbers in order

Finite numbers are sorted by the rationals that they are. So the same numbers in another order are
sorted alike, apart from the signs of zeros, and no more of them lie before or after the number at a
place than there are places.
-/

namespace Binary64

/-- The rational that a finite number is. -/
def rational (number : Binary64) : ℚ :=
  number.value?.getD 0

variable {number left right : Binary64}

theorem value?_eq_rational
    (finite : number.isFinite = true) :
    number.value? = some number.rational := by
  obtain ⟨value, isValue⟩ := isFinite_iff_exists_value.mp finite
  rw [rational, isValue]
  rfl

theorem lt_iff_rational_lt
    (leftFinite : left.isFinite = true)
    (rightFinite : right.isFinite = true) :
    left.lt right = true ↔ left.rational < right.rational :=
  lt_iff_of_value (value?_eq_rational leftFinite) (value?_eq_rational rightFinite)

end Binary64

namespace Summation

open Binary64

variable {values others : List Binary64}

theorem map_rational_ascending
    (finite : ∀ number ∈ values, number.isFinite = true) :
    (ascending values).map rational =
      (values.map rational).mergeSort fun left right => decide (left ≤ right) := by
  refine map_mergeSort fun left isLeft right isRight => ?_
  rw [Bool.eq_iff_iff, Bool.not_eq_true', Bool.eq_false_iff, ne_eq,
    lt_iff_rational_lt (finite right isRight) (finite left isLeft), not_lt, decide_eq_true_iff]

/-- Sorted numbers ascend. -/
theorem ascending_pairwise
    (finite : ∀ number ∈ values, number.isFinite = true) :
    (ascending values).Pairwise fun left right => left.rational ≤ right.rational := by
  rw [← pairwise_map (f := rational), map_rational_ascending finite]
  exact pairwise_mergeSort' _ _

/-- The same numbers in another order are sorted alike. -/
theorem map_rational_ascending_of_perm
    (finite : ∀ number ∈ values, number.isFinite = true)
    (same : values.Perm others) :
    (ascending values).map rational = (ascending others).map rational := by
  have othersFinite : ∀ number ∈ others, number.isFinite = true :=
    fun number member => finite number (same.mem_iff.mpr member)
  have permuted : ((ascending values).map rational).Perm ((ascending others).map rational) :=
    (((mergeSort_perm _ _).trans same).trans (mergeSort_perm _ _).symm).map rational
  refine permuted.eq_of_pairwise (fun left right _ _ => le_antisymm) ?_ ?_
  · exact pairwise_map.mpr (ascending_pairwise finite)
  · exact pairwise_map.mpr (ascending_pairwise othersFinite)

/-! ## How many lie on one side -/

variable {place : Nat} {pivot : Binary64} {test : Binary64 → Bool}

/-- A test that fails from a place on is passed by no more elements than stand before it. -/
theorem countP_le_of_drop
    {elements : List Binary64}
    (fails : ∀ element ∈ elements.drop place, ¬test element = true) :
    elements.countP test ≤ place := by
  rw [← take_append_drop place elements, countP_append, countP_eq_zero.mpr fails, Nat.add_zero]
  exact countP_le_length.trans (length_take_le place elements)

/-- A test that fails up to a place is passed by no more elements than stand after it. -/
theorem countP_le_of_take
    {elements : List Binary64}
    (fails : ∀ element ∈ elements.take place, ¬test element = true) :
    elements.countP test ≤ elements.length - place := by
  conv_lhs => rw [← take_append_drop place elements]
  rw [countP_append, countP_eq_zero.mpr fails, Nat.zero_add, ← length_drop]
  exact countP_le_length

/-- A number that stands after another one is not less. -/
theorem rational_getElem_le
    (finite : ∀ number ∈ values, number.isFinite = true)
    {first second : Nat}
    (inRange : second < (ascending values).length)
    (inOrder : first ≤ second) :
    (ascending values)[first].rational ≤ (ascending values)[second].rational := by
  rcases inOrder.lt_or_eq with before | rfl
  · exact pairwise_iff_getElem.mp (ascending_pairwise finite) first second _ inRange before
  · exact le_rfl

/-- At most as many numbers are less than a sorted one as stand before it. -/
theorem countP_below_le
    (finite : ∀ number ∈ values, number.isFinite = true)
    (isAt : (ascending values)[place]? = some pivot)
    (below : ∀ number ∈ values, test number = true → number.rational < pivot.rational) :
    values.countP test ≤ place := by
  have same : (ascending values).Perm values := mergeSort_perm values _
  rw [← same.countP_eq test]
  apply countP_le_of_drop
  intro number member passed
  have less := below number (same.mem_iff.mp (mem_of_mem_drop member)) passed
  obtain ⟨inRange, rfl⟩ := List.getElem?_eq_some_iff.mp isAt
  obtain ⟨later, laterInRange, rfl⟩ := getElem_of_mem member
  rw [getElem_drop] at less
  exact (rational_getElem_le finite _ (Nat.le_add_right place later)).not_gt less

/-- At most as many numbers are greater than a sorted one as stand after it. -/
theorem countP_above_le
    (finite : ∀ number ∈ values, number.isFinite = true)
    (isAt : (ascending values)[place]? = some pivot)
    (above : ∀ number ∈ values, test number = true → pivot.rational < number.rational) :
    values.countP test ≤ values.length - (place + 1) := by
  have same : (ascending values).Perm values := mergeSort_perm values _
  rw [← same.countP_eq test, ← same.length_eq]
  apply countP_le_of_take
  intro number member passed
  have greater := above number (same.mem_iff.mp (mem_of_mem_take member)) passed
  obtain ⟨inRange, rfl⟩ := List.getElem?_eq_some_iff.mp isAt
  obtain ⟨earlier, earlierInRange, rfl⟩ := getElem_of_mem member
  rw [getElem_take] at greater
  rw [length_take] at earlierInRange
  exact (rational_getElem_le finite inRange (by omega)).not_gt greater

end Summation

end Tabular
