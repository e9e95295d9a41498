import Mathlib.Data.List.OfFn
import Mathlib.Tactic.FieldSimp
import Tabular.Proofs.Analysis.Outliers
import Tabular.Proofs.Analysis.Quality
import Tabular.Proofs.Analysis.Report
import Tabular.Proofs.Number.Ascending

namespace Tabular

open List

/-!
# How many outliers there are

The outliers are told by bounds that lie outside of the quartiles, so few numbers can lie beyond
them: a quarter on each side. They are reported by the places of their cells, in whatever order the
rows are, while the bounds depend on the numbers alone.
-/

namespace Quality

variable {settings : Settings} {cells others : List Cell} {info : OutlierInfo}

/-! ## Cells that are numbers -/

/-- The number of a cell with the place of the cell. -/
def placed (entry : Cell × Nat) : Option (Nat × Binary64) :=
  entry.1.reading?.map fun number => (entry.2, number)

theorem numbered_eq_ok_iff
    {index : Nat}
    {values : List (Nat × Binary64)} :
    numbered index cells = .ok values ↔
      (∀ cell ∈ cells, ∃ number, cell.number? = .ok number) ∧
        values = (cells.zipIdx index).filterMap placed := by
  induction cells generalizing index values with
  | nil =>
      simp [numbered, eq_comm]
  | cons cell rest inductionHypothesis =>
      rw [numbered, Outcome.bind_eq_ok_iff, forall_mem_cons, zipIdx_cons, filterMap_cons]
      simp only [Outcome.bind_eq_ok_iff, inductionHypothesis]
      constructor
      · rintro ⟨number, isNumber, _, ⟨readable, rfl⟩, isAnswer⟩
        refine ⟨⟨⟨number, isNumber⟩, readable⟩, ?_⟩
        rw [placed, Cell.reading?_of_number? isNumber]
        cases number <;> cases isAnswer <;> rfl
      · rintro ⟨⟨⟨number, isNumber⟩, readable⟩, rfl⟩
        refine ⟨number, isNumber, _, ⟨readable, rfl⟩, ?_⟩
        rw [placed, Cell.reading?_of_number? isNumber]
        cases number <;> rfl

/-- The cells that are numbers, with their places. -/
def placedNumbers (cells : List Cell) : List (Nat × Binary64) :=
  cells.zipIdx.filterMap placed

theorem map_snd_placedNumbers
    (cells : List Cell) :
    (placedNumbers cells).map Prod.snd = cells.filterMap Cell.reading? := by
  have readings (index : Nat) :
      ((cells.zipIdx index).filterMap placed).map Prod.snd = cells.filterMap Cell.reading? := by
    induction cells generalizing index with
    | nil =>
        rfl
    | cons cell rest inductionHypothesis =>
        rw [zipIdx_cons, filterMap_cons, filterMap_cons, ← inductionHypothesis (index + 1), placed]
        cases cell.reading? <;> rfl
  exact readings 0

theorem mem_placedNumbers_iff
    {place : Nat}
    {number : Binary64} :
    (place, number) ∈ placedNumbers cells ↔
      cells[place]?.bind Cell.reading? = some number := by
  simp only [placedNumbers, mem_filterMap, Prod.exists, mem_zipIdx_iff_getElem?, placed,
    Option.map_eq_some_iff, Prod.mk.injEq, Option.bind_eq_some_iff]
  constructor
  · rintro ⟨cell, _, isAt, _, isReading, rfl, rfl⟩
    exact ⟨cell, isAt, isReading⟩
  · rintro ⟨cell, isAt, isReading⟩
    exact ⟨cell, place, isAt, number, isReading, rfl, rfl⟩

/-- Numbers are listed in the order of their cells. -/
theorem map_fst_placedNumbers_ascending
    (cells : List Cell) :
    ((placedNumbers cells).map Prod.fst).Pairwise (· < ·) := by
  have inOrder : (cells.zipIdx.map Prod.snd).Pairwise (· < ·) := by
    rw [zipIdx_map_snd]
    exact pairwise_lt_range'
  rw [placedNumbers, pairwise_map, pairwise_filterMap]
  refine (pairwise_map.mp inOrder).imp ?_
  intro left right before number isNumber numberToo isNumberToo
  obtain ⟨_, -, rfl⟩ := Option.map_eq_some_iff.mp isNumber
  obtain ⟨_, -, rfl⟩ := Option.map_eq_some_iff.mp isNumberToo
  exact before

/-! ## Numbers beyond bounds -/

/-- Numbers of cells are reported by their places because they lie beyond two bounds. -/
structure FlagsBeyond (cells : List Cell) (lower upper : Binary64) (info : OutlierInfo) :
    Prop where
  mem_iff {place : Nat} :
    place ∈ info.indices ↔
      ∃ number, cells[place]?.bind Cell.reading? = some number ∧
        (number.lt lower = true ∨ upper.lt number = true)
  ascending : info.indices.Pairwise (· < ·)
  count_eq :
    info.count =
      (cells.filterMap Cell.reading?).countP fun number => number.lt lower || upper.lt number
  rounded :
    ∃ roundedLower roundedUpper, lower.roundHalfUp 2 = .ok roundedLower ∧
      upper.roundHalfUp 2 = .ok roundedUpper ∧
        info.bounds = some { lower := roundedLower, upper := roundedUpper }

variable {lower upper : Binary64}

theorem flagsBeyond_of_beyond
    (found : beyond (placedNumbers cells) lower upper = .ok info) :
    FlagsBeyond cells lower upper info := by
  obtain ⟨roundedLower, isLower, found⟩ := Outcome.bind_eq_ok_iff.mp found
  obtain ⟨roundedUpper, isUpper, found⟩ := Outcome.bind_eq_ok_iff.mp found
  cases found
  refine ⟨?_, ?_, ?_, roundedLower, roundedUpper, isLower, isUpper, rfl⟩
  · intro place
    simp [mem_placedNumbers_iff]
  · exact (map_fst_placedNumbers_ascending cells).sublist (filter_sublist.map Prod.fst)
  · rw [OutlierInfo.count, length_map, ← countP_eq_length_filter, ← map_snd_placedNumbers,
      countP_map]
    rfl

/-- What is found for other cells with the same bounds differs only in the places. -/
theorem exists_beyond_of_rounded
    (found : beyond (placedNumbers cells) lower upper = .ok info)
    (others : List Cell) :
    ∃ infoToo, beyond (placedNumbers others) lower upper = .ok infoToo ∧
      infoToo.bounds = info.bounds := by
  obtain ⟨roundedLower, isLower, found⟩ := Outcome.bind_eq_ok_iff.mp found
  obtain ⟨roundedUpper, isUpper, found⟩ := Outcome.bind_eq_ok_iff.mp found
  cases found
  rw [beyond, isLower, isUpper]
  exact ⟨_, rfl, rfl⟩

/-! ## Bounds around quartiles -/

variable {least : Int} {factor : Binary64} {numbers : List Binary64}

theorem length_ascending
    (numbers : List Binary64) :
    (Summation.ascending numbers).length = numbers.length :=
  length_mergeSort numbers

/-- The bounds of enough numbers lie a multiple of the distance of the quartiles outside of them. -/
theorem bounds_eq_iff
    (enough : least ≤ numbers.length) :
    bounds least factor numbers = [lower, upper] ↔
      ∃ first third,
        quantile (Summation.ascending numbers) (numbers.length / 4) = .ok first ∧
          quantile (Summation.ascending numbers) (3 * numbers.length / 4) = .ok third ∧
            lower = first.sub (factor.mul (third.sub first)) ∧
              upper = third.add (factor.mul (third.sub first)) := by
  rw [bounds, if_neg (not_lt.mpr enough)]
  simp only [quantile, length_ascending]
  cases (Summation.ascending numbers)[numbers.length / 4]? with
  | none =>
      simp
  | some first =>
      cases (Summation.ascending numbers)[3 * numbers.length / 4]? with
      | none =>
          simp
      | some third =>
          simp [eq_comm]

/-- Outliers are found when all cells can be read and the bounds can be rounded. -/
theorem findOutliers_eq_ok_iff
    (enough : settings.outlierMinValues ≤ (cells.filterMap Cell.reading?).length) :
    findOutliers settings cells = .ok info ↔
      (∀ cell ∈ cells, ∃ number, cell.number? = .ok number) ∧
        ∃ factor lower upper, settings.iqrMultiplier.toReal = .ok factor ∧
          bounds settings.outlierMinValues factor (cells.filterMap Cell.reading?) =
              [lower, upper] ∧
            beyond (placedNumbers cells) lower upper = .ok info := by
  have sameLength : (placedNumbers cells).length = (cells.filterMap Cell.reading?).length := by
    rw [← map_snd_placedNumbers, length_map]
  simp only [findOutliers, Outcome.bind_eq_ok_iff, numbered_eq_ok_iff, and_assoc,
    exists_and_left, exists_eq_left]
  refine and_congr_right fun _ => ?_
  change outliersAmong _ _ (placedNumbers cells) = .ok info ↔ _
  rw [outliersAmong_eq, sameLength, if_neg (not_lt.mpr enough), map_snd_placedNumbers]
  simp only [length_ascending, bounds_eq_iff enough, beyondQuartiles, Outcome.bind_eq_ok_iff]
  constructor
  · rintro ⟨first, isFirst, third, isThird, factor, isFactor, found⟩
    exact ⟨factor, isFactor, _, _, ⟨first, third, isFirst, isThird, rfl, rfl⟩, found⟩
  · rintro ⟨factor, isFactor, _, _, ⟨first, third, isFirst, isThird, rfl, rfl⟩, found⟩
    exact ⟨first, isFirst, third, isThird, factor, isFactor, found⟩

/-! ## Few numbers lie beyond -/

/-- No more numbers lie beyond the bounds than beyond the quartiles, which is a half of them. -/
structure FewBeyond (numbers : List Binary64) (lower upper : Binary64) : Prop where
  below : (numbers.countP fun number => number.lt lower) ≤ numbers.length / 4
  above : numbers.countP upper.lt ≤ numbers.length - 1 - 3 * numbers.length / 4
  half :
    2 * (numbers.countP fun number => number.lt lower || upper.lt number) ≤ numbers.length

theorem countP_or_le
    (first second : Binary64 → Bool)
    (numbers : List Binary64) :
    (numbers.countP fun number => first number || second number) ≤
      numbers.countP first + numbers.countP second := by
  induction numbers with
  | nil =>
      rfl
  | cons number rest inductionHypothesis =>
      rw [countP_cons, countP_cons, countP_cons]
      cases first number <;> cases second number <;> simp <;> omega

theorem getElem?_of_quantile
    {ordered : List Binary64}
    {place : Nat}
    {number : Binary64}
    (isAt : quantile ordered place = .ok number) :
    ordered[place]? = some number := by
  rw [quantile] at isAt
  split at isAt
  · next found =>
      cases isAt
      exact found
  · cases isAt

theorem isFinite_of_quantile
    (finite : ∀ number ∈ numbers, number.isFinite = true)
    {place : Nat}
    {number : Binary64}
    (isAt : quantile (Summation.ascending numbers) place = .ok number) :
    number.isFinite = true :=
  finite number ((mergeSort_perm numbers _).mem_iff.mp
    (mem_of_getElem? (getElem?_of_quantile isAt)))

theorem fewBeyond_of_bounds
    (positive : 1 ≤ least)
    (enough : least ≤ numbers.length)
    (finite : ∀ number ∈ numbers, number.isFinite = true)
    (notBelow : factor.NotBelowZero)
    (areBounds : bounds least factor numbers = [lower, upper]) :
    FewBeyond numbers lower upper := by
  obtain ⟨first, third, isFirst, isThird, rfl, rfl⟩ := (bounds_eq_iff enough).mp areBounds
  have isFirstValue := Binary64.value?_eq_rational (isFinite_of_quantile finite isFirst)
  have isThirdValue := Binary64.value?_eq_rational (isFinite_of_quantile finite isThird)
  have ordered : first.rational ≤ third.rational := by
    obtain ⟨_, rfl⟩ := List.getElem?_eq_some_iff.mp (getElem?_of_quantile isFirst)
    obtain ⟨inRange, rfl⟩ := List.getElem?_eq_some_iff.mp (getElem?_of_quantile isThird)
    exact Summation.rational_getElem_le finite inRange (by omega)
  have reachNotBelow : (factor.mul (third.sub first)).NotBelowZero :=
    notBelow.mul (Binary64.notBelowZero_sub isThirdValue isFirstValue ordered)
  have below := Summation.countP_below_le finite (getElem?_of_quantile isFirst)
    fun number member less =>
      Binary64.lt_of_lt_sub (Binary64.value?_eq_rational (finite number member)) isFirstValue
        reachNotBelow less
  have above := Summation.countP_above_le finite (getElem?_of_quantile isThird)
    fun number member less =>
      Binary64.lt_of_add_lt (Binary64.value?_eq_rational (finite number member)) isThirdValue
        reachNotBelow less
  have both := countP_or_le (fun number => number.lt (first.sub (factor.mul (third.sub first))))
    (third.add (factor.mul (third.sub first))).lt numbers
  exact ⟨below, by omega, by omega⟩

/-! ## Other orders -/

/-- The number at a place is the same in every order, apart from the sign of zero. -/
theorem exists_quantile_of_perm
    (finite : ∀ number ∈ numbers, number.isFinite = true)
    {numbersToo : List Binary64}
    (same : numbers.Perm numbersToo)
    {place : Nat}
    {number : Binary64}
    (isAt : quantile (Summation.ascending numbers) place = .ok number) :
    ∃ numberToo, quantile (Summation.ascending numbersToo) place = .ok numberToo ∧
      numberToo.unsigned = number.unsigned := by
  have finiteToo : ∀ number ∈ numbersToo, number.isFinite = true :=
    fun number member => finite number (same.mem_iff.mpr member)
  have isRational := congrArg (fun sorted => sorted[place]?)
    (Summation.map_rational_ascending_of_perm finite same)
  simp only [getElem?_map, getElem?_of_quantile isAt, Option.map_some] at isRational
  obtain ⟨numberToo, isAtToo, sameRational⟩ := Option.map_eq_some_iff.mp isRational.symm
  have isAtToo : quantile (Summation.ascending numbersToo) place = .ok numberToo := by
    rw [quantile, isAtToo]
  refine ⟨numberToo, isAtToo, Binary64.unsigned_eq_of_value
    (Binary64.value?_eq_rational (isFinite_of_quantile finiteToo isAtToo)) ?_⟩
  rw [sameRational]
  exact Binary64.value?_eq_rational (isFinite_of_quantile finite isAt)

/-- The same numbers in another order have the same bounds. -/
theorem exists_bounds_of_perm
    (enough : least ≤ numbers.length)
    (finite : ∀ number ∈ numbers, number.isFinite = true)
    {numbersToo : List Binary64}
    (same : numbers.Perm numbersToo)
    (areBounds : bounds least factor numbers = [lower, upper]) :
    ∃ lowerToo upperToo, bounds least factor numbersToo = [lowerToo, upperToo] ∧
      lowerToo.unsigned = lower.unsigned ∧ upperToo.unsigned = upper.unsigned := by
  obtain ⟨first, third, isFirst, isThird, rfl, rfl⟩ := (bounds_eq_iff enough).mp areBounds
  obtain ⟨firstToo, isFirstToo, sameFirst⟩ := exists_quantile_of_perm finite same isFirst
  obtain ⟨thirdToo, isThirdToo, sameThird⟩ := exists_quantile_of_perm finite same isThird
  have sameReach :
      (factor.mul (thirdToo.sub firstToo)).unsigned = (factor.mul (third.sub first)).unsigned := by
    rw [← Binary64.unsigned_mul, ← Binary64.unsigned_sub, sameFirst, sameThird,
      Binary64.unsigned_sub, Binary64.unsigned_mul]
  rw [same.length_eq] at isFirst isThird enough
  rw [same.length_eq] at isFirstToo isThirdToo
  refine ⟨_, _, (bounds_eq_iff enough).mpr
    ⟨firstToo, thirdToo, isFirstToo, isThirdToo, rfl, rfl⟩, ?_, ?_⟩
  · rw [← Binary64.unsigned_sub, sameFirst, sameReach, Binary64.unsigned_sub]
  · rw [← Binary64.unsigned_add, sameThird, sameReach, Binary64.unsigned_add]

end Quality

open Quality

/-!
## Flagged rows

The rows with outliers are a small part of the rows with numbers, wherever these stand. So a column
loses at most a quarter of its score to outliers, and the score does not have to be cut off at zero.
Rows in another order are flagged in that order, by the same bounds.
-/

/-- The amount is a number that is not negative. -/
def Amount.IsNotNegative : Amount → Prop
  | .whole value => 0 ≤ value
  | .real value => (Binary64.zero false).le value = true

instance : DecidablePred Amount.IsNotNegative
  | .whole value => inferInstanceAs (Decidable (0 ≤ value))
  | .real value => inferInstanceAs (Decidable ((Binary64.zero false).le value = true))

theorem Amount.IsNotNegative.notBelowZero
    {amount : Amount}
    (notNegative : amount.IsNotNegative)
    {factor : Binary64}
    (isFactor : amount.toReal = .ok factor) :
    factor.NotBelowZero := by
  cases amount with
  | whole value =>
      obtain ⟨count, rfl⟩ := Int.eq_ofNat_of_zero_le notNegative
      obtain ⟨rfl, inRange⟩ := Binary64.eq_ofNat_of_realOfInt isFactor
      obtain ⟨rounded, isValue, isRounded⟩ := Binary64.exists_value_ofNat inRange
      exact Binary64.notBelowZero_of_value isValue
        (Binary64.le_nearest isRounded (Binary64.value?_zero false) (Nat.cast_nonneg count))
  | real value =>
      cases isFactor
      exact Binary64.notBelowZero_of_le notNegative

/-! ## Scores -/

/-- The score of a column in exact numbers, neither rounded nor cut off at zero. -/
def ColumnQuality.exactScore (quality : ColumnQuality) (rows : Nat) : ℚ :=
  100 - quality.missingCount / rows * 100 - quality.outliers.count / rows * 50

/-- A blank cell is no number. -/
theorem Quality.countP_isBlank_add_length_readings_le
    (cells : List Cell) :
    cells.countP Cell.isBlank + (cells.filterMap Cell.reading?).length ≤ cells.length := by
  have numbersAreFilled :
      (cells.countP fun cell => cell.reading?.isSome) ≤ cells.countP fun cell => !cell.isBlank := by
    refine countP_mono_left fun cell _ isNumber => ?_
    by_contra blank
    rw [Bool.not_eq_true', Bool.not_eq_false] at blank
    rw [Cell.reading?_of_isBlank blank] at isNumber
    cases isNumber
  have parts := length_filter_filled_add cells
  rw [← countP_eq_length_filter] at parts
  rw [length_filterMap_eq_countP]
  omega

/-- Few outliers leave three quarters of the score that is not lost to missing cells. -/
theorem ColumnQuality.exactScore_bounds
    {quality : ColumnQuality}
    {numbers rows : Nat}
    (filled : 0 < rows)
    (few : 2 * quality.outliers.count ≤ numbers)
    (within : quality.missingCount + numbers ≤ rows) :
    75 * (1 - quality.missingCount / rows : ℚ) ≤ quality.exactScore rows ∧
      0 ≤ quality.exactScore rows := by
  have rowsPositive : (0 : ℚ) < rows := by exact_mod_cast filled
  have missingShare : (quality.missingCount : ℚ) / rows ≤ 1 := by
    rw [div_le_one rowsPositive]
    exact_mod_cast (by omega : quality.missingCount ≤ rows)
  have outlierShare :
      (quality.outliers.count : ℚ) / rows * 2 ≤ 1 - quality.missingCount / rows := by
    rw [le_sub_iff_add_le, div_mul_eq_mul_div, ← add_div, div_le_one rowsPositive]
    exact_mod_cast (by omega : quality.outliers.count * 2 + quality.missingCount ≤ rows)
  rw [exactScore]
  constructor <;> linarith

/-- A report on a column with few outliers leaves it most of its score, however it is typed. -/
theorem exists_exactScore_bounds
    {settings : Settings}
    {types : Option (Assoc ColumnType)}
    {table : Table}
    {report : QualityReport}
    {column : String}
    {info : OutlierInfo}
    (someNumbers : 1 ≤ ((table.cells column).filterMap Cell.reading?).length)
    (found : findOutliers settings (table.cells column) = .ok info)
    (few : 2 * info.count ≤ ((table.cells column).filterMap Cell.reading?).length)
    (isColumn : column ∈ table.columns)
    (reported : analyzeQuality settings types table = .ok report) :
    ∃ quality, report.columns.find? column = some quality ∧
      (quality.outliers = {} ∨ quality.outliers = info) ∧
        75 * (1 - quality.missingCount / table.rows.length : ℚ) ≤
            quality.exactScore table.rows.length ∧
          0 ≤ quality.exactScore table.rows.length := by
  have filled := countP_isBlank_add_length_readings_le (table.cells column)
  have sameLength : (table.cells column).length = table.rows.length := length_map _
  have hasRows : 0 < table.rows.length := by omega
  obtain ⟨quality, isQuality, describes⟩ :=
    exists_describes_of_analyzeQuality reported (length_pos_iff.mp hasRows) isColumn
  have isOutliers : quality.outliers = {} ∨ quality.outliers = info := by
    refine describes.outliers.imp_right fun foundToo => ?_
    exact Except.ok.inj (foundToo.symm.trans found)
  have fewOutliers :
      2 * quality.outliers.count ≤ ((table.cells column).filterMap Cell.reading?).length := by
    rcases isOutliers with isNone | isInfo
    · rw [isNone]
      exact Nat.zero_le _
    · rwa [isInfo]
  have within : quality.missingCount + ((table.cells column).filterMap Cell.reading?).length ≤
      table.rows.length := by
    rw [describes.missingCount_eq, ← sameLength]
    exact filled
  exact ⟨quality, isQuality, isOutliers, quality.exactScore_bounds hasRows fewOutliers within⟩

/-! ## Rows in another order -/

/-- The rows in another order: each place has the row of the place that the order tells. -/
def permutedRows (rows : List Row) (order : Equiv.Perm (Fin rows.length)) : List Row :=
  ofFn fun place => rows.get (order place)

theorem permutedRows_perm
    (rows : List Row)
    (order : Equiv.Perm (Fin rows.length)) :
    (permutedRows rows order).Perm rows := by
  have permuted := Equiv.Perm.ofFn_comp_perm order rows.get
  rwa [ofFn_get] at permuted

theorem getElem?_permutedRows
    (rows : List Row)
    (order : Equiv.Perm (Fin rows.length))
    (place : Fin rows.length) :
    (permutedRows rows order)[(place : Nat)]? = rows[(order place : Nat)]? := by
  rw [permutedRows, List.getElem?_ofFn, dif_pos place.isLt,
    List.getElem?_eq_getElem (order place).isLt]
  rfl

variable {settings : Settings} {rows : List Row} {column : String} {info : OutlierInfo}

/-- Rows in another order have the same outliers in that order, and the same bounds. -/
theorem Quality.exists_findOutliers_permutedRows
    (enough :
      settings.outlierMinValues ≤
        ((rows.map fun row => row.cell column).filterMap Cell.reading?).length)
    (found : findOutliers settings (rows.map fun row => row.cell column) = .ok info)
    (order : Equiv.Perm (Fin rows.length)) :
    ∃ infoToo,
      findOutliers settings ((permutedRows rows order).map fun row => row.cell column) =
          .ok infoToo ∧
        infoToo.bounds = info.bounds ∧ infoToo.count = info.count ∧
          ∀ place : Fin rows.length,
            (place : Nat) ∈ infoToo.indices ↔ (order place : Nat) ∈ info.indices := by
  obtain ⟨readable, factor, lower, upper, isFactor, areBounds, flagged⟩ :=
    (findOutliers_eq_ok_iff enough).mp found
  have sameCells := (permutedRows_perm rows order).map fun row => row.cell column
  have sameNumbers := sameCells.filterMap Cell.reading?
  obtain ⟨lowerToo, upperToo, areBoundsToo, sameLower, sameUpper⟩ :=
    exists_bounds_of_perm enough (fun _ => Cell.isFinite_of_mem_readings) sameNumbers.symm areBounds
  obtain ⟨infoToo, flaggedToo, sameBounds⟩ :=
    exists_beyond_of_rounded flagged ((permutedRows rows order).map fun row => row.cell column)
  rw [← sameNumbers.length_eq] at enough
  refine ⟨infoToo, (findOutliers_eq_ok_iff enough).mpr
    ⟨fun cell member => readable cell (sameCells.mem_iff.mp member), factor, lowerToo, upperToo,
      isFactor, areBoundsToo, (beyond_congr sameLower sameUpper).trans flaggedToo⟩,
    sameBounds, ?_, fun place => ?_⟩
  · rw [(flagsBeyond_of_beyond flaggedToo).count_eq, (flagsBeyond_of_beyond flagged).count_eq,
      sameNumbers.countP_eq]
  · rw [(flagsBeyond_of_beyond flaggedToo).mem_iff, (flagsBeyond_of_beyond flagged).mem_iff,
      List.getElem?_map, List.getElem?_map, getElem?_permutedRows]

/-! ## All that is said of the outliers of a column -/

/--
Of enough numbers in a column, no more are outliers on each side of the bounds than lie beyond the
quartile, so at most a half in all. The rows are flagged in ascending order, and each has a number
beyond a bound. A report on the rows leaves the column three quarters of the score that is not lost
to missing cells, however the column is typed. Rows in another order are flagged accordingly.
-/
theorem findOutliers_flags_few
    (positive : 1 ≤ settings.outlierMinValues)
    (notNegative : settings.iqrMultiplier.IsNotNegative)
    (enough :
      settings.outlierMinValues ≤
        ((rows.map fun row => row.cell column).filterMap Cell.reading?).length)
    (found : findOutliers settings (rows.map fun row => row.cell column) = .ok info) :
    let cells := rows.map fun row => row.cell column
    let numbers := cells.filterMap Cell.reading?
    (∃ factor lower upper, settings.iqrMultiplier.toReal = .ok factor ∧
      bounds settings.outlierMinValues factor numbers = [lower, upper] ∧
        FlagsBeyond cells lower upper info ∧ FewBeyond numbers lower upper) ∧
    2 * info.count ≤ numbers.length ∧
    (∀ (types : Option (Assoc ColumnType)) (table : Table) (report : QualityReport),
      table.rows = rows → column ∈ table.columns →
        analyzeQuality settings types table = .ok report →
          ∃ quality, report.columns.find? column = some quality ∧
            (quality.outliers = {} ∨ quality.outliers = info) ∧
              75 * (1 - quality.missingCount / rows.length : ℚ) ≤
                  quality.exactScore rows.length ∧
                0 ≤ quality.exactScore rows.length) ∧
    ∀ order : Equiv.Perm (Fin rows.length), ∃ infoToo,
      findOutliers settings ((permutedRows rows order).map fun row => row.cell column) =
          .ok infoToo ∧
        infoToo.bounds = info.bounds ∧ infoToo.count = info.count ∧
          ∀ place : Fin rows.length,
            (place : Nat) ∈ infoToo.indices ↔ (order place : Nat) ∈ info.indices := by
  intro cells numbers
  obtain ⟨-, factor, lower, upper, isFactor, areBounds, flagged⟩ :=
    (findOutliers_eq_ok_iff enough).mp found
  have flags := flagsBeyond_of_beyond flagged
  have few : FewBeyond numbers lower upper :=
    fewBeyond_of_bounds positive enough (fun _ => Cell.isFinite_of_mem_readings)
      (notNegative.notBelowZero isFactor) areBounds
  have half : 2 * info.count ≤ numbers.length := by
    rw [flags.count_eq]
    exact few.half
  refine ⟨⟨factor, lower, upper, isFactor, areBounds, flags, few⟩, half, ?_,
    exists_findOutliers_permutedRows enough found⟩
  rintro types table report rfl isColumn reported
  have someNumbers : 1 ≤ numbers.length := by exact_mod_cast positive.trans enough
  exact exists_exactScore_bounds someNumbers found half isColumn reported

namespace Quality.Sample

/-- Five numbers in seven rows, the last one far from the others. -/
def amounts : List Row :=
  ["1", "2", "", "3", "4", "x", "100"].map fun text => .ofList [("amount", .text text)]

/-- What is far from the other amounts. -/
def farAmount : OutlierInfo where
  indices := [6]
  bounds := some { lower := .real (.ofInt (-1)), upper := .real (.ofNat 7) }

/-- The last of seven rows is flagged, and in the opposite order it is the first one. -/
theorem flags_of_amounts :
    findOutliers {} (amounts.map fun row => row.cell "amount") = .ok farAmount ∧
      2 * farAmount.count ≤ 5 ∧
        (∃ report, analyzeQuality {} none (.ofRows none amounts) = .ok report ∧
          ∃ quality, report.columns.find? "amount" = some quality ∧ 0 ≤ quality.exactScore 7) ∧
        ∃ infoToo,
          findOutliers {}
              ((permutedRows amounts Fin.revPerm).map fun row => row.cell "amount") =
            .ok infoToo ∧
          infoToo.bounds = farAmount.bounds ∧ 0 ∈ infoToo.indices := by
  have rowsTextual : ∀ row ∈ amounts, row.IsTextual := by
    intro row member
    obtain ⟨text, -, rfl⟩ := mem_map.mp member
    exact .of_values (by simp [Assoc.values, Assoc.ofList, Assoc.insert, Assoc.storeEntry,
      Assoc.empty, Cell.IsTextual])
  have textual : (Table.ofRows none amounts).IsTextual :=
    ⟨rowsTextual, by rintro rows ⟨⟩; exact rowsTextual⟩
  have areNumbers :
      (amounts.map fun row => row.cell "amount").filterMap Cell.reading? =
        [1, 2, 3, 4, 100].map Binary64.ofNat := by
    decide +kernel
  have areBounds :
      bounds 4 (.ofRatio false 3 2) ([1, 2, 3, 4, 100].map Binary64.ofNat) =
        [.ofInt (-1), .ofNat 7] := by
    have sorted : Summation.ascending ([1, 2, 3, 4, 100].map Binary64.ofNat) =
        [1, 2, 3, 4, 100].map Binary64.ofNat :=
      mergeSort_of_pairwise (by decide +kernel)
    rw [bounds, sorted]
    decide +kernel
  have enough :
      ({} : Settings).outlierMinValues ≤
        ((amounts.map fun row => row.cell "amount").filterMap Cell.reading?).length := by
    rw [areNumbers]
    decide
  have found :
      findOutliers {} (amounts.map fun row => row.cell "amount") = .ok farAmount := by
    refine (findOutliers_eq_ok_iff enough).mpr
      ⟨forall_mem_map.mpr fun row member => ⟨_, (rowsTextual row member "amount").number?_eq⟩,
        .ofRatio false 3 2, .ofInt (-1), .ofNat 7, rfl, ?_, by decide +kernel⟩
    rw [areNumbers]
    exact areBounds
  obtain ⟨types, areTypes⟩ := textual.exists_types {}
  obtain ⟨report, reported⟩ : ∃ report,
      analyzeQuality {} none (.ofRows none amounts) = .ok report := by
    refine (analyzeQuality_overflowsIff textual.rows areTypes).answers ?_
    rintro ⟨column, isColumn, -, bound, member, outsized⟩
    obtain rfl : column = "amount" := List.mem_singleton.mp isColumn
    have areReadings : (Table.ofRows none amounts).readings "amount" =
        [1, 2, 3, 4, 100].map Binary64.ofNat :=
      areNumbers
    rw [areReadings, defaultBounds, areBounds] at member
    revert outsized
    rcases List.mem_pair.mp member with rfl | rfl <;> decide +kernel
  obtain ⟨-, half, scores, permutes⟩ :=
    findOutliers_flags_few (by decide) (by decide +kernel) enough found
  obtain ⟨quality, isQuality, -, -, notBelow⟩ := scores none _ report rfl (by decide) reported
  obtain ⟨infoToo, foundToo, sameBounds, -, flagged⟩ := permutes Fin.revPerm
  rw [areNumbers] at half
  exact ⟨found, half, ⟨report, reported, quality, isQuality, notBelow⟩, infoToo, foundToo,
    sameBounds, (flagged ⟨0, by decide⟩).mpr (by decide)⟩

end Quality.Sample

end Tabular
