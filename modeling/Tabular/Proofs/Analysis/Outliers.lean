import Tabular.Analysis.Quality
import Tabular.Proofs.Cell.Reading

namespace Tabular.Quality

/-!
# Outliers by the values of numbers

The outliers among numbers, and the bounds that they lie beyond, are told by the values of the
numbers. A number without the sign of zero, in the same place, makes no difference.
-/

/-- A number with its place, without the sign of zero. -/
def unsignedEntry (entry : Nat × Binary64) : Nat × Binary64 :=
  (entry.1, entry.2.unsigned)

variable {values : List (Nat × Binary64)}

theorem map_snd_map_unsignedEntry :
    (values.map unsignedEntry).map Prod.snd = (values.map Prod.snd).map Binary64.unsigned := by
  rw [List.map_map, List.map_map]
  rfl

/-- The numbers beyond two bounds, with the bounds rounded. -/
def beyond (values : List (Nat × Binary64)) (lower upper : Binary64) : Outcome OutlierInfo := do
  return {
    indices :=
      (values.filter fun entry => entry.2.lt lower || upper.lt entry.2).map Prod.fst
    bounds := some { lower := ← lower.roundHalfUp 2, upper := ← upper.roundHalfUp 2 } }

/-- The numbers beyond the quartiles by more than the multiple of their distance. -/
def beyondQuartiles (multiplier : Amount) (values : List (Nat × Binary64))
    (first third : Binary64) : Outcome OutlierInfo := do
  let factor ← multiplier.toReal
  let reach := factor.mul (third.sub first)
  beyond values (first.sub reach) (third.add reach)

/-- The multiple is taken in binary64 numbers, also by a whole number. -/
theorem multiple_eq
    (multiplier : Amount)
    (value : Binary64) :
    multiple multiplier value =
      multiplier.toReal >>= fun factor => .ok (factor.mul value) := by
  rw [multiple]
  cases multiplier with
  | whole factor =>
      cases isReal : Amount.realOfInt factor with
      | error fault =>
          simp only [Amount.mul, Amount.toReal, isReal]
          rfl
      | ok factor =>
          simp only [Amount.mul, Amount.toReal, isReal]
          rfl
  | real factor =>
      rfl

theorem outliersAmong_eq
    (least : Int)
    (multiplier : Amount)
    (values : List (Nat × Binary64)) :
    outliersAmong least multiplier values =
      if (values.length : Int) < least then .ok {}
      else
        let ordered := Summation.ascending (values.map Prod.snd)
        quantile ordered (ordered.length / 4) >>= fun first =>
          quantile ordered (3 * ordered.length / 4) >>= fun third =>
            beyondQuartiles multiplier values first third := by
  rw [outliersAmong]
  split
  · rfl
  · dsimp only
    generalize Summation.ascending (values.map Prod.snd) = ordered
    cases quantile ordered (ordered.length / 4) with
    | error fault =>
        rfl
    | ok first =>
        cases quantile ordered (3 * ordered.length / 4) with
        | error fault =>
            rfl
        | ok third =>
            simp only [multiple_eq]
            cases isReal : multiplier.toReal with
            | error fault =>
                simp only [beyondQuartiles, isReal]
                rfl
            | ok factor =>
                simp only [beyondQuartiles, isReal]
                rfl

theorem beyond_unsigned
    (values : List (Nat × Binary64))
    (lower upper : Binary64) :
    beyond (values.map unsignedEntry) lower.unsigned upper.unsigned =
      beyond values lower upper := by
  have sameIndices :
      ((values.map unsignedEntry).filter fun entry =>
          entry.2.lt lower.unsigned || upper.unsigned.lt entry.2).map Prod.fst =
        (values.filter fun entry => entry.2.lt lower || upper.lt entry.2).map Prod.fst := by
    rw [List.filter_map, List.map_map]
    simp only [Function.comp_def, unsignedEntry, Binary64.lt_unsigned]
  rw [beyond, beyond, sameIndices, Binary64.roundHalfUp_unsigned, Binary64.roundHalfUp_unsigned]

/-- Bounds that are the same numbers have the same numbers beyond them. -/
theorem beyond_congr
    {lower lowerToo upper upperToo : Binary64}
    (sameLower : lower.unsigned = lowerToo.unsigned)
    (sameUpper : upper.unsigned = upperToo.unsigned) :
    beyond values lower upper = beyond values lowerToo upperToo := by
  rw [← beyond_unsigned, sameLower, sameUpper, beyond_unsigned]

theorem beyondQuartiles_unsigned
    (multiplier : Amount)
    (values : List (Nat × Binary64))
    (first third : Binary64) :
    beyondQuartiles multiplier (values.map unsignedEntry) first.unsigned third.unsigned =
      beyondQuartiles multiplier values first third := by
  rw [beyondQuartiles, beyondQuartiles]
  congr 1
  funext factor
  have sameReach :
      (factor.mul (third.unsigned.sub first.unsigned)).unsigned =
        (factor.mul (third.sub first)).unsigned := by
    rw [← Binary64.unsigned_mul, Binary64.unsigned_sub, Binary64.unsigned_mul]
  rw [← beyond_unsigned values]
  apply beyond_congr
  · rw [Binary64.unsigned_unsigned, ← Binary64.unsigned_sub, sameReach,
      Binary64.unsigned_unsigned, Binary64.unsigned_sub]
  · rw [Binary64.unsigned_unsigned, ← Binary64.unsigned_add, sameReach,
      Binary64.unsigned_unsigned, Binary64.unsigned_add]

theorem quantile_map_unsigned
    (ordered : List Binary64)
    (place : Nat) :
    quantile (ordered.map Binary64.unsigned) place =
      (quantile ordered place).map Binary64.unsigned := by
  rw [quantile, quantile, List.getElem?_map]
  cases ordered[place]? <;> rfl

/-- The signs of zeros make no difference to the outliers. -/
theorem outliersAmong_unsigned
    (least : Int)
    (multiplier : Amount)
    (values : List (Nat × Binary64)) :
    outliersAmong least multiplier (values.map unsignedEntry) =
      outliersAmong least multiplier values := by
  rw [outliersAmong_eq, outliersAmong_eq, List.length_map, map_snd_map_unsignedEntry,
    Summation.ascending_map_unsigned]
  split
  · rfl
  · simp only [List.length_map, quantile_map_unsigned]
    generalize Summation.ascending (values.map Prod.snd) = ordered
    cases quantile ordered (ordered.length / 4) with
    | error fault =>
        rfl
    | ok first =>
        cases quantile ordered (3 * ordered.length / 4) with
        | error fault =>
            rfl
        | ok third =>
            exact beyondQuartiles_unsigned multiplier values first third

/-! ## Outliers of columns -/

theorem numbered_of_readAlike
    {cells others : List Cell}
    (alike : List.Forall₂ Cell.ReadAlike cells others)
    (index : Nat) :
    ∃ values valuesToo, numbered index cells = .ok values ∧
      numbered index others = .ok valuesToo ∧
        values.map unsignedEntry = valuesToo.map unsignedEntry := by
  induction alike generalizing index with
  | nil =>
      exact ⟨[], [], rfl, rfl, rfl⟩
  | @cons cell other rest othersRest alikeFirst _ inductionHypothesis =>
      obtain ⟨number, numberToo, isNumber, isNumberToo, same⟩ := alikeFirst
      obtain ⟨values, valuesToo, areValues, areValuesToo, sameRest⟩ :=
        inductionHypothesis (index + 1)
      simp only [numbered, isNumber, isNumberToo, areValues, areValuesToo]
      cases number with
      | none =>
          obtain rfl : numberToo = none := Option.map_eq_none_iff.mp same.symm
          exact ⟨values, valuesToo, rfl, rfl, sameRest⟩
      | some number =>
          obtain ⟨numberToo, rfl, sameNumber⟩ := Option.map_eq_some_iff.mp same.symm
          refine ⟨(index, number) :: values, (index, numberToo) :: valuesToo, rfl, rfl, ?_⟩
          rw [List.map_cons, List.map_cons, sameRest, unsignedEntry, unsignedEntry, sameNumber]

/-- Columns of cells that are read alike have the same outliers. -/
theorem findOutliers_of_readAlike
    {cells others : List Cell}
    (settings : Settings)
    (alike : List.Forall₂ Cell.ReadAlike cells others) :
    findOutliers settings cells = findOutliers settings others := by
  obtain ⟨values, valuesToo, areValues, areValuesToo, same⟩ := numbered_of_readAlike alike 0
  rw [findOutliers, findOutliers, areValues, areValuesToo]
  change outliersAmong _ _ values = outliersAmong _ _ valuesToo
  rw [← outliersAmong_unsigned, same, outliersAmong_unsigned]

end Tabular.Quality
