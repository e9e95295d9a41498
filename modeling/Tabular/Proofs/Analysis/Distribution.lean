import Tabular.Proofs.Analysis.Statistics

namespace Tabular

open Binary64 Summation

/-!
# Distributions

The statistics of a column count its numbers in ten parts of the range between the least and the
greatest. The part of a number is found by a rounded difference, a rounded quotient and a floor,
and what lies beyond the last part is put into it. No number is placed before the first part,
because the least is the least and rounding does not pass zero; and rounding keeps the order.
-/

/-! ## The place of a number -/

namespace Statistics

variable {lowValue highValue sizeValue value otherValue : ℚ} {bucket otherBucket : Int}

/-- A number that is not below the least one lies in one of the parts. -/
theorem IsLocated.inRange
    (located : IsLocated lowValue sizeValue value bucket)
    (positive : 0 < sizeValue)
    (aboveLow : lowValue ≤ value) :
    0 ≤ bucket ∧ bucket < bucketCount := by
  obtain ⟨offset, quotient, isOffset, isQuotient, rfl⟩ := located
  have offsetNotNegative : 0 ≤ offset :=
    le_nearest isOffset (value?_zero false) (sub_nonneg.mpr aboveLow)
  have quotientNotNegative : 0 ≤ quotient :=
    le_nearest isQuotient (value?_zero false) (div_nonneg offsetNotNegative positive.le)
  have floorNotNegative : 0 ≤ ⌊quotient⌋ := Int.floor_nonneg.mpr quotientNotNegative
  rw [bucketCount]
  omega

/-- A smaller number does not lie in a later part. -/
theorem IsLocated.mono
    (located : IsLocated lowValue sizeValue value bucket)
    (otherLocated : IsLocated lowValue sizeValue otherValue otherBucket)
    (positive : 0 < sizeValue)
    (ordered : value ≤ otherValue) :
    bucket ≤ otherBucket := by
  obtain ⟨offset, quotient, isOffset, isQuotient, rfl⟩ := located
  obtain ⟨otherOffset, otherQuotient, isOtherOffset, isOtherQuotient, rfl⟩ := otherLocated
  have offsets : offset ≤ otherOffset :=
    nearest_mono isOffset isOtherOffset (sub_le_sub_right ordered lowValue)
  have quotients : quotient ≤ otherQuotient :=
    nearest_mono isQuotient isOtherQuotient (div_le_div_of_nonneg_right offsets positive.le)
  exact min_le_min_right _ (Int.floor_mono quotients)

/-- The least number lies in the first part. -/
theorem IsLocated.eq_zero
    (located : IsLocated lowValue sizeValue lowValue bucket) :
    bucket = 0 := by
  obtain ⟨offset, quotient, isOffset, isQuotient, rfl⟩ := located
  rw [sub_self, nearest_zero, value?_zero, Option.some.injEq] at isOffset
  rw [← isOffset, zero_div, nearest_zero, value?_zero, Option.some.injEq] at isQuotient
  rw [← isQuotient, Int.floor_zero]
  rfl

/-! ## Counting by places -/

section Counting

variable {α : Type} {place : α → Int} {elements : List α}

/-- How many elements have each of the first places. -/
def countsAt (place : α → Int) (elements : List α) (placeCount : Nat) : List Nat :=
  (List.range placeCount).map fun (index : Nat) => elements.countP (place · == (index : Int))

/-- An element with one of the places is counted once. -/
theorem sum_countsAt_singleton
    {placeCount : Nat}
    {element : α}
    (inRange : 0 ≤ place element ∧ place element < placeCount) :
    (countsAt place [element] placeCount).sum = 1 := by
  obtain ⟨index, isIndex⟩ := Int.eq_ofNat_of_zero_le inRange.1
  have below : index < placeCount := by
    omega
  have elsewhere : ∀ other, other ≠ index → other ∈ List.range placeCount →
      [element].countP (place · == (other : Int)) = 0 := by
    intro other notIndex _
    rw [List.countP_singleton, isIndex]
    simpa using notIndex.symm
  rw [countsAt, List.sum_map_eq_nsmul_single index _ elsewhere,
    List.count_eq_one_of_mem List.nodup_range (List.mem_range.mpr below), one_smul,
    List.countP_singleton, isIndex, beq_self_eq_true, if_pos rfl]

/-- Where every element has one of the places, the counts add up to the number of elements. -/
theorem sum_countsAt
    {placeCount : Nat}
    (inRange : ∀ element ∈ elements, 0 ≤ place element ∧ place element < placeCount) :
    (countsAt place elements placeCount).sum = elements.length := by
  induction elements with
  | nil =>
      simp [countsAt]
  | cons first rest inductionHypothesis =>
      rw [List.forall_mem_cons] at inRange
      have one := sum_countsAt_singleton inRange.1
      have others := inductionHypothesis inRange.2
      rw [countsAt] at one others ⊢
      rw [List.length_cons, ← others, ← one, ← List.sum_map_add]
      congr 2
      funext index
      rw [List.countP_cons, List.countP_singleton]

/-- Where all elements have the first place, nothing is counted after it. -/
theorem countsAt_of_forall_eq_zero
    (allFirst : ∀ element ∈ elements, place element = 0)
    (placeCount : Nat) :
    countsAt place elements (placeCount + 1) =
      elements.length :: List.replicate placeCount 0 := by
  have first : elements.countP (place · == ((0 : Nat) : Int)) = elements.length :=
    List.countP_eq_length.mpr fun element member => by simp [allFirst element member]
  have later : ∀ index : Nat, elements.countP (place · == (index.succ : Int)) = 0 := by
    intro index
    refine List.countP_eq_zero.mpr fun element member => ?_
    rw [allFirst element member, beq_iff_eq]
    omega
  rw [countsAt, List.range_succ_eq_map, List.map_cons, first, List.map_map]
  refine congrArg (elements.length :: ·) (List.eq_replicate_iff.mpr ⟨by simp, ?_⟩)
  intro count isCount
  obtain ⟨index, -, rfl⟩ := List.mem_map.mp isCount
  exact later index

end Counting

/-! ## Distributions of numbers -/

/--
The counts are those of the numbers in the parts of the range between two bounds. Each number has a
part, which is the one that is computed for it; so the counts add up to the number of numbers. The
parts follow the order of the numbers, and numbers that are all equal lie in the first part.
-/
structure IsDistribution
    (numbers : List Binary64)
    (low high : Binary64)
    (counts : List Nat)
    (bucket : Binary64 → Int) : Prop where
  isBucket :
    ∀ number ∈ numbers, bucketOf low (bucketSize low high) number = .ok (bucket number)
  inRange : ∀ number ∈ numbers, 0 ≤ bucket number ∧ bucket number < bucketCount
  counts_eq : counts = countsAt bucket numbers bucketCount
  total : counts.sum = numbers.length
  inOrder :
    ∀ left ∈ numbers, ∀ right ∈ numbers,
      left.le right = true → bucket left ≤ bucket right
  allFirst :
    (∀ left ∈ numbers, ∀ right ∈ numbers, left.eqv right = true) →
      counts = numbers.length :: List.replicate (bucketCount - 1) 0

variable {values : List Binary64} {counts : List Nat}

/-- The distribution of finite numbers whose least and greatest can be rounded. -/
theorem exists_isDistribution
    (finite : ∀ number ∈ values, number.isFinite = true)
    (nonempty : values ≠ [])
    (leastFits : ¬(least values).IsOutsized)
    (greatestFits : ¬(greatest values).IsOutsized)
    (areCounts : distribution values (least values) (greatest values) = .ok counts) :
    ∃ bucket, IsDistribution values (least values) (greatest values) counts bucket := by
  obtain ⟨sizeValue, spread⟩ :=
    exists_isSpread_of_isFinite nonempty finite leastFits greatestFits
  obtain ⟨leastMember, isLeast⟩ := least_spec nonempty finite
  have placed : ∀ number, ∃ bucket, number ∈ values →
      bucketOf (least values) (bucketSize (least values) (greatest values)) number = .ok bucket ∧
        IsLocated (valueOf (least values)) sizeValue (valueOf number) bucket := by
    intro number
    by_cases member : number ∈ values
    · obtain ⟨bucket, isPlace⟩ := exists_bucketOf_of_mem finite spread member
      exact ⟨bucket, fun _ => isPlace⟩
    · exact ⟨0, fun isMember => absurd isMember member⟩
  choose bucket isPlace using placed
  have inRange : ∀ number ∈ values, 0 ≤ bucket number ∧ bucket number < bucketCount :=
    fun number member =>
      (isPlace number member).2.inRange spread.positive (isLeast number member)
  have counts_eq : counts = countsAt bucket values bucketCount := by
    rw [distribution, Outcome.mapM_eq_ok_map fun number member => (isPlace number member).1]
      at areCounts
    rw [← Except.ok.inj areCounts, countsAt]
    refine List.map_congr_left fun index _ => ?_
    rw [← List.countP_eq_length_filter, List.countP_map]
    rfl
  exact ⟨bucket,
    { isBucket := fun number member => (isPlace number member).1
      inRange
      counts_eq
      total := by rw [counts_eq, sum_countsAt inRange]
      inOrder := fun left isLeft right isRight ordered =>
        (isPlace left isLeft).2.mono (isPlace right isRight).2 spread.positive
          ((le_iff_of_value (value?_of_isFinite (finite left isLeft))
            (value?_of_isFinite (finite right isRight))).mp ordered)
      allFirst := fun allEqual => by
        rw [counts_eq]
        refine countsAt_of_forall_eq_zero (fun number member => ?_) (bucketCount - 1)
        have same := (eqv_iff_of_value (value?_of_isFinite (finite number member))
          (value?_of_isFinite (finite _ leastMember))).mp
            (allEqual number member _ leastMember)
        exact IsLocated.eq_zero (same ▸ (isPlace number member).2) }⟩

/-- The statistics of numbers, once they answer. -/
theorem ofNumbers_eq_ok
    {stats : ColumnStats}
    (answered : ofNumbers values = .ok stats) :
    stats.count = values.length ∧
      ¬(least values).IsOutsized ∧ ¬(greatest values).IsOutsized ∧
        distribution values (least values) (greatest values) = .ok stats.distribution := by
  rw [ofNumbers] at answered
  simp only [Outcome.bind_eq_ok_iff] at answered
  obtain ⟨_, -, _, isLeast, _, isGreatest, _, -, _, -, _, -, _, -, counts, areCounts, isStats⟩ :=
    answered
  obtain rfl := Except.ok.inj isStats
  exact ⟨rfl, (eq_hundredths_of_roundHalfUp_two isLeast).1,
    (eq_hundredths_of_roundHalfUp_two isGreatest).1, areCounts⟩

/-- The numbers of cells are what the cells are read as. -/
theorem eq_filterMap_of_numbersOf
    {cells : List Cell}
    (areNumbers : numbersOf cells = .ok values) :
    values = cells.filterMap Cell.reading? := by
  induction cells generalizing values with
  | nil =>
      exact (Except.ok.inj areNumbers).symm
  | cons cell rest inductionHypothesis =>
      rw [numbersOf] at areNumbers
      split at areNumbers
      · next blank =>
          obtain ⟨_, ⟨⟩, areNumbers⟩ := Outcome.bind_eq_ok_iff.mp areNumbers
          obtain ⟨others, areOthers, areNumbers⟩ := Outcome.bind_eq_ok_iff.mp areNumbers
          rw [List.filterMap_cons, Cell.reading?_of_isBlank blank,
            ← inductionHypothesis areOthers]
          exact (Except.ok.inj areNumbers).symm
      · obtain ⟨number, isNumber, areNumbers⟩ := Outcome.bind_eq_ok_iff.mp areNumbers
        obtain ⟨others, areOthers, areNumbers⟩ := Outcome.bind_eq_ok_iff.mp areNumbers
        rw [List.filterMap_cons, Cell.reading?_of_number? isNumber,
          ← inductionHypothesis areOthers]
        cases number <;> exact (Except.ok.inj areNumbers).symm

end Statistics

/-! ## Distributions of columns -/

/--
The statistics of a column count the cells that are read as finite numbers, and each of these once
in the distribution. Smaller numbers are not counted in later parts than greater ones, and numbers
that are all equal are counted in the first part.
-/
theorem Table.distribution_counts_each_number_once
    {table : Table}
    {column : String}
    {stats : ColumnStats}
    (answered : table.columnStats column = .ok (some stats)) :
    stats.count = (table.cells column).countP (·.reading?.isSome) ∧
      stats.distribution.sum = stats.count ∧
        ∃ bucket, Statistics.IsDistribution (table.readings column)
          (least (table.readings column)) (greatest (table.readings column))
          stats.distribution bucket := by
  obtain ⟨numbers, areNumbers, answered⟩ := Outcome.bind_eq_ok_iff.mp answered
  have areReadings : table.readings column = numbers :=
    (Statistics.eq_filterMap_of_numbersOf areNumbers).symm
  have finite : ∀ number ∈ numbers, number.isFinite = true :=
    fun number member => Cell.isFinite_of_mem_readings (areReadings ▸ member)
  cases numbers with
  | nil =>
      cases answered
  | cons first rest =>
      obtain ⟨found, isFound, areStats⟩ := Outcome.bind_eq_ok_iff.mp answered
      obtain rfl := Option.some.inj (Except.ok.inj areStats)
      obtain ⟨isCount, leastFits, greatestFits, areCounts⟩ :=
        Statistics.ofNumbers_eq_ok isFound
      obtain ⟨bucket, isDistribution⟩ := Statistics.exists_isDistribution finite
        (List.cons_ne_nil first rest) leastFits greatestFits areCounts
      rw [areReadings]
      refine ⟨?_, isDistribution.total.trans isCount.symm, bucket, isDistribution⟩
      rw [isCount, ← areReadings, Table.readings, List.length_filterMap_eq_countP]

namespace Table.Weights

/-- Three weights, two of them equal, among cells without a number. -/
def table : Table :=
  .ofRows none (["2", "n/a", "2", "", "7"].map fun text => .ofList [("weight", .text text)])

theorem rows_isTextual : ∀ row ∈ table.rows, row.IsTextual := by
  intro row member
  obtain ⟨text, -, rfl⟩ := List.mem_map.mp member
  exact .of_values (by simp [Assoc.values, Assoc.ofList, Assoc.insert, Assoc.storeEntry,
    Assoc.empty, Cell.IsTextual])

theorem readings_eq : table.readings "weight" = [2, 2, 7].map Binary64.ofNat := by
  decide +kernel

theorem exists_stats : ∃ stats, table.columnStats "weight" = .ok (some stats) := by
  have sorted : ascending ([2, 2, 7].map Binary64.ofNat) = [2, 2, 7].map Binary64.ofNat :=
    List.mergeSort_of_pairwise (by decide +kernel)
  have fits : ¬∃ figure ∈ Statistics.figures ([2, 2, 7].map Binary64.ofNat),
      figure.IsOutsized := by
    rw [Statistics.figures, median, sorted]
    decide +kernel
  obtain ⟨stats, areStats⟩ :=
    (Statistics.ofNumbers_overflowsIff (by decide) (by decide +kernel)).answers fits
  refine ⟨stats, ?_⟩
  rw [columnStats, Statistics.numbersOf_eq (cells_isTextual rows_isTextual "weight"),
    ← readings, readings_eq]
  exact Outcome.bind_eq_ok_iff.mpr ⟨_, rfl, Outcome.bind_eq_ok_iff.mpr ⟨stats, areStats, rfl⟩⟩

/-- The two equal weights lie in the first part, and the greatest one in the last. -/
theorem distribution_eq :
    ∃ stats, table.columnStats "weight" = .ok (some stats) ∧ stats.count = 3 ∧
      stats.distribution.sum = 3 ∧ stats.distribution = [2, 0, 0, 0, 0, 0, 0, 0, 0, 1] := by
  obtain ⟨stats, answered⟩ := exists_stats
  obtain ⟨isCount, total, bucket, isDistribution⟩ :=
    distribution_counts_each_number_once answered
  have three : stats.count = 3 := isCount.trans (by decide +kernel)
  refine ⟨stats, answered, three, total.trans three, ?_⟩
  have isBucket := isDistribution.isBucket
  rw [readings_eq] at isBucket
  have atTwo : bucket (.ofNat 2) = 0 := by
    refine (Except.ok.inj ((isBucket (.ofNat 2) (by simp)).symm.trans ?_))
    decide +kernel
  have atSeven : bucket (.ofNat 7) = 9 := by
    refine (Except.ok.inj ((isBucket (.ofNat 7) (by simp)).symm.trans ?_))
    decide +kernel
  rw [isDistribution.counts_eq, readings_eq]
  simp [Statistics.countsAt, List.countP_cons, atTwo, atSeven, Statistics.bucketCount,
    List.range_succ]

end Table.Weights

end Tabular
