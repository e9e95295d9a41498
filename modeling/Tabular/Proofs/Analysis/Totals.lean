import Tabular.Analysis.Pivot
import Tabular.Analysis.Statistics
import Tabular.Proofs.Number.Finite
import Tabular.Proofs.Outcome

namespace Tabular

/-!
# Rounded totals

A number is rounded to two decimals by scaling it first, so rounding overflows exactly for numbers
whose hundredfold is out of range. A total is the running sum of its numbers, rounded in the same
way; the sum itself may well be infinite, since infinities are not rounded.
-/

namespace Binary64

theorem roundHalfUp_two_overflowsIff
    (number : Binary64) :
    (number.roundHalfUp 2).OverflowsIff number.IsOutsized :=
  ⟨roundHalfUp_two_of_isOutsized, fun fits => ⟨_, roundHalfUp_two_of_not_isOutsized fits⟩⟩

/-- A number that has been rounded was not outsized, and the amount is its hundredths. -/
theorem eq_hundredths_of_roundHalfUp_two
    {number : Binary64}
    {amount : Amount}
    (rounded : number.roundHalfUp 2 = .ok amount) :
    ¬number.IsOutsized ∧ amount = .real number.hundredths := by
  by_cases outsized : number.IsOutsized
  · rw [roundHalfUp_two_of_isOutsized outsized] at rounded
    cases rounded
  · rw [roundHalfUp_two_of_not_isOutsized outsized] at rounded
    exact ⟨outsized, (Except.ok.inj rounded).symm⟩

end Binary64

/-- The sum of numbers from left to right. -/
def Summation.running (numbers : List Binary64) : Binary64 :=
  numbers.foldl Binary64.add (Binary64.zero false)

namespace Amount

theorem foldlM_add_map_real
    (numbers : List Binary64)
    (start : Binary64) :
    (numbers.map Amount.real).foldlM add (.real start) =
      .ok (.real (numbers.foldl Binary64.add start)) := by
  induction numbers generalizing start with
  | nil =>
      rfl
  | cons number rest inductionHypothesis =>
      exact inductionHypothesis (start.add number)

/-- The sum of amounts that are real is the running sum, and the whole zero without any. -/
theorem sum_map_real
    (numbers : List Binary64) :
    sum (numbers.map Amount.real) =
      .ok (if numbers = [] then .whole 0 else .real (Summation.running numbers)) := by
  cases numbers with
  | nil =>
      rfl
  | cons first rest =>
      have start : add (.whole 0) (.real first) = .ok (.real ((Binary64.zero false).add first)) :=
        rfl
      rw [sum, List.map_cons, List.foldlM_cons, start]
      exact foldlM_add_map_real rest _

end Amount

theorem Pivot.total_of_sum
    {digits : Int}
    {amounts : List Amount}
    {sum : Amount}
    (isSum : Amount.sum amounts = .ok sum) :
    total digits amounts = sum.roundHalfUp digits := by
  rw [total, isSum]
  rfl

/-- A total of amounts that are real is their running sum, rounded. -/
theorem Pivot.total_map_real
    (numbers : List Binary64) :
    total 2 (numbers.map Amount.real) = (Summation.running numbers).roundHalfUp 2 := by
  rw [total_of_sum (Amount.sum_map_real numbers)]
  split
  · next isEmpty =>
      have wholeZero : (Amount.whole 0).roundHalfUp 2 = (Binary64.zero false).roundHalfUp 2 := by
        decide +kernel
      rw [isEmpty, Summation.running, List.foldl_nil, wholeZero]
  · rw [Binary64.roundHalfUp]

end Tabular
