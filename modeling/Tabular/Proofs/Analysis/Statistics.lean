import Tabular.Analysis.Statistics
import Tabular.Proofs.Analysis.Totals
import Tabular.Proofs.Number.Nearness
import Tabular.Proofs.Outcome
import Tabular.Proofs.Table.Description

namespace Tabular

open Binary64

/-!
# Statistics of texts

The statistics of a column of texts are computed from the numbers that its cells are read as, and
the totals of a table from one running sum for each number column. Rounding is the only thing that
can fail: both overflow exactly when one of the numbers that they round is outsized.
-/

/-!
## The spread of numbers

The least and the greatest of finite numbers bound all of them. Where both can be rounded to two
decimals, their hundredfolds are in range, and so are the differences within the spread and the
quotients that place a number in a part of it.
-/

variable {values : List Binary64}

namespace Summation

/-- The best of some elements is one of them, and none is better. -/
theorem foldl_best_spec
    {α : Type}
    (better : α → α → Bool)
    (size : α → ℚ)
    {first : α}
    {rest : List α}
    (isBetter : ∀ left ∈ first :: rest, ∀ right ∈ first :: rest,
      better left right = true ↔ size left < size right) :
    let best := rest.foldl (fun best value => if better value best then value else best) first
    best ∈ first :: rest ∧ ∀ value ∈ first :: rest, size best ≤ size value := by
  induction rest generalizing first with
  | nil =>
      simp
  | cons second rest inductionHypothesis =>
      rw [List.foldl_cons]
      obtain ⟨next, isNext⟩ : ∃ next, next = if better second first then second else first :=
        ⟨_, rfl⟩
      have among : next ∈ [first, second] := by
        rw [isNext]
        split <;> simp
      have noGreater : size next ≤ size first ∧ size next ≤ size second := by
        have compared := isBetter second (by simp) first (by simp)
        rw [isNext]
        split
        · next better =>
            exact ⟨(compared.mp better).le, le_rfl⟩
        · next notBetter =>
            exact ⟨le_rfl, not_lt.mp (mt compared.mpr notBetter)⟩
      have kept : next :: rest ⊆ first :: second :: rest :=
        List.cons_subset.mpr ⟨by simp at among ⊢; tauto, by simp⟩
      rw [← isNext]
      obtain ⟨member, best⟩ := inductionHypothesis fun left isLeft right isRight =>
        isBetter left (kept isLeft) right (kept isRight)
      refine ⟨kept member, fun value isValue => ?_⟩
      have atNext := best next List.mem_cons_self
      rcases List.mem_cons.mp isValue with rfl | isLater
      · exact atNext.trans noGreater.1
      rcases List.mem_cons.mp isLater with rfl | isRest
      · exact atNext.trans noGreater.2
      · exact best value (List.mem_cons_of_mem next isRest)

/-- The value of a finite number, and zero for others. -/
def valueOf (number : Binary64) : ℚ :=
  number.value?.getD 0

theorem value?_of_isFinite
    {number : Binary64}
    (finite : number.isFinite = true) :
    number.value? = some (valueOf number) := by
  obtain ⟨value, isValue⟩ := isFinite_iff_exists_value.mp finite
  rw [valueOf, isValue, Option.getD_some]

/-- The least of finite numbers is one of them, and its value is the least. -/
theorem least_spec
    (nonempty : values ≠ [])
    (finite : ∀ number ∈ values, number.isFinite = true) :
    least values ∈ values ∧ ∀ number ∈ values, valueOf (least values) ≤ valueOf number := by
  cases values with
  | nil =>
      exact absurd rfl nonempty
  | cons first rest =>
      exact foldl_best_spec Binary64.lt valueOf fun left isLeft right isRight =>
        lt_iff_of_value (value?_of_isFinite (finite left isLeft))
          (value?_of_isFinite (finite right isRight))

/-- The greatest of finite numbers is one of them, and its value is the greatest. -/
theorem greatest_spec
    (nonempty : values ≠ [])
    (finite : ∀ number ∈ values, number.isFinite = true) :
    greatest values ∈ values ∧
      ∀ number ∈ values, valueOf number ≤ valueOf (greatest values) := by
  cases values with
  | nil =>
      exact absurd rfl nonempty
  | cons first rest =>
      obtain ⟨member, best⟩ :=
        foldl_best_spec (fun value best => best.lt value) (fun number => -valueOf number)
          fun left isLeft right isRight =>
            (lt_iff_of_value (value?_of_isFinite (finite right isRight))
              (value?_of_isFinite (finite left isLeft))).trans neg_lt_neg_iff.symm
      exact ⟨member, fun number isNumber => neg_le_neg_iff.mp (best number isNumber)⟩

end Summation

/-! ## Parts of the range -/

namespace Statistics

open Summation

variable {low high number : Binary64} {lowValue highValue value sizeValue : ℚ}

/-- The hundredfold of a finite number that can be rounded is in range. -/
theorem hundredfold_inRange
    (isValue : number.value? = some value)
    (fits : ¬number.IsOutsized) :
    |value| * 100 < intLimit := by
  have hundred : (Binary64.ofNat 100).value? = some ((100 : Nat) : ℚ) :=
    value?_ofNat (by decide)
  have finite : number.isFinite = true := isFinite_iff_exists_value.mpr ⟨value, isValue⟩
  by_contra tooLarge
  refine fits ⟨finite, Bool.eq_false_iff.mpr fun scaledFinite => tooLarge ?_⟩
  rw [isFinite_mul_iff isValue hundred, abs_mul, Nat.abs_cast] at scaledFinite
  exact_mod_cast scaledFinite

/--
The values of two bounds and of the size of the parts between them. The size is positive, and the
range is small enough for its length and for its quotient by the size to be computed.
-/
structure IsSpread (low high : Binary64) (lowValue highValue sizeValue : ℚ) : Prop where
  isLow : low.value? = some lowValue
  isHigh : high.value? = some highValue
  isSize : (bucketSize low high).value? = some sizeValue
  positive : 0 < sizeValue
  small : highValue - lowValue < intLimit
  notTooLarge : 2 * (highValue - lowValue) < intLimit * sizeValue

/-- A part of a range is the floor of the rounded quotient of a rounded distance, or the last. -/
def IsLocated (lowValue sizeValue value : ℚ) (bucket : Int) : Prop :=
  ∃ offset quotient,
    (nearest (value - lowValue)).value? = some offset ∧
      (nearest (offset / sizeValue)).value? = some quotient ∧
        bucket = min ⌊quotient⌋ (bucketCount - 1)

/--
A tenth of a range is not below zero after it has been rounded, and unless it is zero the range is
at most forty times as large: each of the two roundings at most halves.
-/
theorem exists_tenth
    (isLow : low.value? = some lowValue)
    (isHigh : high.value? = some highValue)
    (ordered : lowValue ≤ highValue)
    (small : highValue - lowValue < intLimit / 2) :
    ∃ tenth, ((high.sub low).div (Binary64.ofNat bucketCount)).value? = some tenth ∧
      0 ≤ tenth ∧ (tenth ≠ 0 → highValue - lowValue ≤ 40 * tenth) := by
  have rangeNotNegative : 0 ≤ highValue - lowValue := sub_nonneg.mpr ordered
  have isRange : |highValue - lowValue| = highValue - lowValue := abs_of_nonneg rangeNotNegative
  have rounds := value?_sub isHigh isLow
  obtain ⟨difference, isDifference, differenceSmall, differenceLarge⟩ :=
    exists_value_near rounds (by rw [isRange]; linarith)
  have differenceNotNegative : 0 ≤ difference :=
    le_nearest (rounds.symm.trans isDifference) (value?_zero false) rangeNotNegative
  rw [isRange, abs_of_nonneg differenceNotNegative] at differenceSmall differenceLarge
  have ten : (Binary64.ofNat bucketCount).value? = some ((10 : Nat) : ℚ) :=
    value?_ofNat (by decide)
  have isTenth : |difference / (10 : Nat)| = difference / 10 := by
    rw [abs_div, Nat.abs_cast, Nat.cast_ofNat, abs_of_nonneg differenceNotNegative]
  have roundsTenth := value?_div isDifference ten (by norm_num)
  obtain ⟨tenth, isRounded, -, tenthLarge⟩ :=
    exists_value_near roundsTenth (by rw [isTenth]; linarith)
  have tenthNotNegative : 0 ≤ tenth :=
    le_nearest (roundsTenth.symm.trans isRounded) (value?_zero false) (by positivity)
  rw [isTenth, abs_of_nonneg tenthNotNegative] at tenthLarge
  refine ⟨tenth, isRounded, tenthNotNegative, fun nonzero => ?_⟩
  have differenceNonzero : difference ≠ 0 := by
    rintro rfl
    rw [roundsTenth, zero_div, nearest_zero, value?_zero] at isRounded
    exact nonzero (Option.some.inj isRounded).symm
  linarith [tenthLarge nonzero, differenceLarge differenceNonzero]

/-- Bounds that can be rounded spread a range with parts of a positive size. -/
theorem exists_isSpread
    (isLow : low.value? = some lowValue)
    (isHigh : high.value? = some highValue)
    (lowFits : ¬low.IsOutsized)
    (highFits : ¬high.IsOutsized)
    (ordered : lowValue ≤ highValue) :
    ∃ sizeValue, IsSpread low high lowValue highValue sizeValue := by
  have lowSmall := hundredfold_inRange isLow lowFits
  have highSmall := hundredfold_inRange isHigh highFits
  have limitLarge : (100 : ℚ) < intLimit := by
    exact_mod_cast (by decide +kernel : 100 < intLimit)
  have rangeSmall : 50 * (highValue - lowValue) < intLimit := by
    linarith [le_abs_self highValue, neg_abs_le lowValue]
  obtain ⟨tenth, isTenth, notNegative, large⟩ :=
    exists_tenth isLow isHigh ordered (by linarith)
  cases isZero : ((high.sub low).div (Binary64.ofNat bucketCount)).isZero with
  | true =>
      have isSize : (bucketSize low high).value? = some 1 := by
        rw [bucketSize, if_pos isZero, value?_ofNat (by decide), Nat.cast_one]
      exact ⟨1, isLow, isHigh, isSize, one_pos, by linarith, by linarith⟩
  | false =>
      have isSize : (bucketSize low high).value? = some tenth := by
        rw [bucketSize, if_neg (Bool.eq_false_iff.mp isZero), isTenth]
      have nonzero : tenth ≠ 0 :=
        mt (isZero_iff_of_value isTenth).mpr (Bool.eq_false_iff.mp isZero)
      have positive : 0 < tenth := lt_of_le_of_ne notNegative nonzero.symm
      have manyParts : 100 * tenth < intLimit * tenth :=
        mul_lt_mul_of_pos_right limitLarge positive
      exact ⟨tenth, isLow, isHigh, isSize, positive, by linarith, by linarith [large nonzero]⟩

/-- Every number between the bounds of a spread has a place in the range. -/
theorem IsSpread.exists_bucketOf
    (spread : IsSpread low high lowValue highValue sizeValue)
    (isValue : number.value? = some value)
    (aboveLow : lowValue ≤ value)
    (belowHigh : value ≤ highValue) :
    ∃ bucket, bucketOf low (bucketSize low high) number = .ok bucket ∧
      IsLocated lowValue sizeValue value bucket := by
  have roundsOffset := value?_sub isValue spread.isLow
  have isDistance : |value - lowValue| = value - lowValue :=
    abs_of_nonneg (sub_nonneg.mpr aboveLow)
  obtain ⟨offset, isOffset, offsetSmall, -⟩ :=
    exists_value_near roundsOffset (by rw [isDistance]; linarith [spread.small])
  rw [isDistance] at offsetSmall
  have roundsPlace := value?_div isOffset spread.isSize spread.positive.ne'
  obtain ⟨place, isPlace, -⟩ := exists_value_near roundsPlace (by
    rw [abs_div, abs_of_pos spread.positive, div_lt_iff₀ spread.positive]
    linarith [spread.notTooLarge])
  refine ⟨min ⌊place⌋ (bucketCount - 1), ?_, offset, place, roundsOffset.symm.trans isOffset,
    roundsPlace.symm.trans isPlace, rfl⟩
  rw [bucketOf, Amount.floorOf_of_value isPlace]
  rfl

/-- Finite numbers spread a range when their least and greatest can be rounded. -/
theorem exists_isSpread_of_isFinite
    (nonempty : values ≠ [])
    (finite : ∀ number ∈ values, number.isFinite = true)
    (leastFits : ¬(least values).IsOutsized)
    (greatestFits : ¬(greatest values).IsOutsized) :
    ∃ sizeValue, IsSpread (least values) (greatest values) (valueOf (least values))
      (valueOf (greatest values)) sizeValue := by
  obtain ⟨leastMember, isLeast⟩ := least_spec nonempty finite
  obtain ⟨greatestMember, -⟩ := greatest_spec nonempty finite
  exact exists_isSpread (value?_of_isFinite (finite _ leastMember))
    (value?_of_isFinite (finite _ greatestMember)) leastFits greatestFits
    (isLeast _ greatestMember)

/-- Each of finite numbers has a place in the range that they spread. -/
theorem exists_bucketOf_of_mem
    (finite : ∀ number ∈ values, number.isFinite = true)
    (spread : IsSpread (least values) (greatest values) (valueOf (least values))
      (valueOf (greatest values)) sizeValue)
    (member : number ∈ values) :
    ∃ bucket, bucketOf (least values) (bucketSize (least values) (greatest values)) number =
        .ok bucket ∧
      IsLocated (valueOf (least values)) sizeValue (valueOf number) bucket := by
  have nonempty : values ≠ [] := List.ne_nil_of_mem member
  exact spread.exists_bucketOf (value?_of_isFinite (finite number member))
    ((least_spec nonempty finite).2 number member)
    ((greatest_spec nonempty finite).2 number member)

/-- Finite numbers have a distribution when their least and greatest can be rounded. -/
theorem exists_distribution
    (nonempty : values ≠ [])
    (finite : ∀ number ∈ values, number.isFinite = true)
    (leastFits : ¬(least values).IsOutsized)
    (greatestFits : ¬(greatest values).IsOutsized) :
    ∃ counts, distribution values (least values) (greatest values) = .ok counts := by
  obtain ⟨sizeValue, spread⟩ :=
    exists_isSpread_of_isFinite nonempty finite leastFits greatestFits
  refine Outcome.exists_bind (Outcome.exists_mapM_of_forall fun number member => ?_) fun _ =>
    ⟨_, rfl⟩
  obtain ⟨bucket, isBucket, -⟩ := exists_bucketOf_of_mem finite spread member
  exact ⟨bucket, isBucket⟩

end Statistics

/-! ## The numbers of a column -/

/-- The numbers that cells are read as are finite. -/
theorem Cell.isFinite_of_mem_readings
    {cells : List Cell}
    {number : Binary64}
    (member : number ∈ cells.filterMap Cell.reading?) :
    number.isFinite = true := by
  obtain ⟨cell, -, isReading⟩ := List.mem_filterMap.mp member
  exact isFinite_of_reading? isReading

/-- The number that a cell adds to a total. -/
def Cell.addend (cell : Cell) : Binary64 :=
  match cell.reading? with
  | some number => if number.isZero then zero false else number
  | none => zero false

namespace Table

/-- The numbers that the cells of a column are read as. -/
def readings (table : Table) (column : String) : List Binary64 :=
  (table.cells column).filterMap Cell.reading?

/-- The total of a column before it is rounded. -/
def runningSum (table : Table) (column : String) : Binary64 :=
  Summation.running ((table.cells column).map Cell.addend)

theorem cells_isTextual
    {table : Table}
    (textual : ∀ row ∈ table.rows, row.IsTextual)
    (column : String) :
    ∀ cell ∈ table.cells column, cell.IsTextual := by
  rw [cells, List.forall_mem_map]
  exact fun row member => textual row member column

end Table

namespace Statistics

theorem numbersOf_eq
    {cells : List Cell}
    (textual : ∀ cell ∈ cells, cell.IsTextual) :
    numbersOf cells = .ok (cells.filterMap Cell.reading?) := by
  induction cells with
  | nil =>
      rfl
  | cons cell rest inductionHypothesis =>
      rw [List.forall_mem_cons] at textual
      rw [numbersOf, inductionHypothesis textual.2, List.filterMap_cons]
      split
      · next blank =>
          rw [Cell.reading?_of_isBlank blank]
          rfl
      · rw [textual.1.number?_eq]
        cases cell.reading? <;> rfl

/-- The numbers that statistics round. -/
def figures (values : List Binary64) : List Binary64 :=
  if values = [] then []
  else
    [Summation.pairwise values, Summation.least values, Summation.greatest values,
        Summation.mean values, Summation.median values] ++
      (mode values).toList ++
      (if 2 ≤ values.length then some (Summation.standardDeviation values) else none).toList

theorem roundOptional_overflowsIff
    (number : Option Binary64) :
    (roundOptional number).OverflowsIff (∃ figure ∈ number.toList, figure.IsOutsized) := by
  cases number with
  | none =>
      exact (Outcome.OverflowsIff.of_ok ⟨none, rfl⟩).congr (by simp)
  | some number =>
      have rounds := (roundHalfUp_two_overflowsIff number).bind fun amount _ =>
        .of_ok ⟨some amount, rfl⟩
      exact rounds.congr (by simp)

/-- Finite numbers have statistics unless one of the figures to be rounded is outsized. -/
theorem ofNumbers_overflowsIff
    (nonempty : values ≠ [])
    (finite : ∀ number ∈ values, number.isFinite = true) :
    (ofNumbers values).OverflowsIff (∃ figure ∈ figures values, figure.IsOutsized) := by
  rw [ofNumbers]
  refine Outcome.OverflowsIff.congr
    ((roundHalfUp_two_overflowsIff _).bind fun sum _ =>
      (roundHalfUp_two_overflowsIff _).bind fun least isLeast =>
      (roundHalfUp_two_overflowsIff _).bind fun greatest isGreatest =>
      (roundHalfUp_two_overflowsIff _).bind fun average _ =>
      (roundHalfUp_two_overflowsIff _).bind fun median _ =>
      (roundOptional_overflowsIff _).bind fun mode _ =>
      (roundOptional_overflowsIff _).bind fun deviation _ => .of_ok ?_) ?_
  · obtain ⟨counts, areCounts⟩ :=
      exists_distribution nonempty finite (eq_hundredths_of_roundHalfUp_two isLeast).1
        (eq_hundredths_of_roundHalfUp_two isGreatest).1
    rw [areCounts]
    exact ⟨_, rfl⟩
  · rw [figures, if_neg nonempty]
    simp only [List.cons_append, List.nil_append, List.exists_mem_cons_iff, List.mem_append,
      or_and_right, exists_or, or_false]

end Statistics

/-- A column of texts has statistics unless one of the figures to be rounded is outsized. -/
theorem Table.columnStats_overflowsIff
    {table : Table}
    (textual : ∀ row ∈ table.rows, row.IsTextual)
    (column : String) :
    (table.columnStats column).OverflowsIff
      (∃ figure ∈ Statistics.figures (table.readings column), figure.IsOutsized) := by
  have finite : ∀ number ∈ table.readings column, number.isFinite = true :=
    fun _ => Cell.isFinite_of_mem_readings
  rw [columnStats, Statistics.numbersOf_eq (cells_isTextual textual column), ← readings]
  cases isNumbers : table.readings column with
  | nil =>
      exact (Outcome.OverflowsIff.of_ok ⟨none, rfl⟩).congr (by simp [Statistics.figures])
  | cons first rest =>
      rw [isNumbers] at finite
      have computes := (Statistics.ofNumbers_overflowsIff (List.cons_ne_nil first rest) finite).bind
        fun stats _ => .of_ok ⟨some stats, rfl⟩
      exact computes.congr (or_iff_left id)

/-! ## Totals of tables -/

namespace Table

variable {table : Table}

theorem mapM_summand
    {cells : List Cell}
    (textual : ∀ cell ∈ cells, cell.IsTextual) :
    cells.mapM summand = .ok ((cells.map Cell.addend).map .real) := by
  induction cells with
  | nil =>
      rfl
  | cons cell rest inductionHypothesis =>
      rw [List.forall_mem_cons] at textual
      have first : summand cell = .ok (.real cell.addend) := by
        rw [summand, textual.1.number?_eq, Cell.addend]
        cases cell.reading? <;> rfl
      rw [List.mapM_cons, first, inductionHypothesis textual.2]
      rfl

theorem columnSum_overflowsIff
    (textual : ∀ row ∈ table.rows, row.IsTextual)
    (column : String) :
    (table.columnSum column).OverflowsIff (table.runningSum column).IsOutsized := by
  have isTotal : table.columnSum column = (table.runningSum column).roundHalfUp 2 := by
    rw [columnSum, mapM_summand (cells_isTextual textual column), runningSum,
      ← Pivot.total_map_real]
    rfl
  rw [isTotal]
  exact roundHalfUp_two_overflowsIff _

/-- A table of texts has totals unless the running sum of a number column is outsized. -/
theorem columnSums_overflowsIff
    (textual : ∀ row ∈ table.rows, row.IsTextual)
    {settings : Settings}
    {types : Assoc ColumnType}
    (areTypes : table.types settings = .ok types) :
    (table.columnSums settings).OverflowsIff
      (∃ column ∈ table.columns,
        types.find? column = some .number ∧ (table.runningSum column).IsOutsized) := by
  rw [columnSums, areTypes]
  have sums : (table.columnSumsFor types).OverflowsIff
      (∃ column ∈ table.columns.filter fun column => types.find? column == some .number,
        (table.runningSum column).IsOutsized) :=
    Outcome.OverflowsIff.foldlM
      (fun column _ _ => (columnSum_overflowsIff textual column).map _) Assoc.empty
  exact sums.congr (by simp [List.mem_filter, and_assoc])

end Table

end Tabular
