import Tabular.Analysis.Quality
import Tabular.Proofs.Analysis.Statistics

namespace Tabular

open Binary64

/-!
# Quality of texts

The report on a table of texts rounds percentages, scores and the bounds of outliers. Percentages
and scores can always be rounded, so the report overflows exactly when a bound of a number column is
outsized.
-/

/-! ## Percentages -/

namespace Binary64

theorem isFinite_of_mul
    {left right : Binary64}
    (finite : (left.mul right).isFinite = true) :
    left.isFinite = true := by
  cases left with
  | finite _ _ _ _ =>
      rfl
  | nan =>
      cases finite
  | infinite _ =>
      cases right with
      | nan | infinite _ =>
          cases finite
      | finite _ _ _ _ =>
          rw [mul] at finite
          split at finite <;> cases finite

/-- A part of a count is small, unless it is no finite number at all. -/
theorem abs_share_le
    {part total : Nat}
    (within : part ≤ total)
    {value : ℚ}
    (isValue : ((ofNat part).div (ofNat total)).value? = some value) :
    |value| ≤ 8 := by
  rcases Nat.eq_zero_or_pos total with rfl | positive
  · obtain rfl := Nat.le_zero.mp within
    cases isValue
  rcases lt_or_ge total intLimit with inRange | beyond
  · obtain ⟨share, isShare, small⟩ := exists_share positive within inRange
    rw [isShare] at isValue
    exact Option.some.inj isValue ▸ small
  · rw [ofNat, ofNat, (ofRatio_one_eq_infinite_iff false positive).mpr beyond] at isValue
    obtain ⟨_, _, _, finite⟩ | infinite := ofRatio_cases false part 1
    · rw [finite, div, value?_zero] at isValue
      rw [← Option.some.inj isValue, abs_zero]
      norm_num
    · rw [infinite] at isValue
      cases isValue

end Binary64

namespace Quality

/-- A percentage of a count can always be rounded to one decimal. -/
theorem exists_rounded_percent
    {part total : Nat}
    (within : part ≤ total) :
    ∃ amount, ((share part total).mul (.ofNat 100)).roundHalfUp 1 = .ok amount := by
  have hundred : (Binary64.ofNat 100).value? = some ((100 : Nat) : ℚ) := value?_ofNat (by decide)
  have ten : (Binary64.ofNat 10).value? = some ((10 : Nat) : ℚ) := value?_ofNat (by decide)
  have limit : (16000 : ℚ) < intLimit := by exact_mod_cast (by decide +kernel : 16000 < intLimit)
  have scaledFinite (finite : ((share part total).mul (.ofNat 100)).isFinite = true) :
      (((share part total).mul (.ofNat 100)).mul (.ofNat 10)).isFinite = true := by
    obtain ⟨value, isValue⟩ := isFinite_iff_exists_value.mp (isFinite_of_mul finite)
    have small : |value| ≤ 8 := abs_share_le within isValue
    have percentSmall : |value * (100 : Nat)| ≤ 800 := by
      rw [abs_mul, Nat.abs_cast]
      push_cast
      linarith
    obtain ⟨percent, isPercent, near, -⟩ :=
      exists_value_near (value?_mul isValue hundred) (by linarith)
    rw [isFinite_mul_iff isPercent ten, abs_mul, Nat.abs_cast]
    push_cast
    linarith
  obtain ⟨rounded, isRounded⟩ :=
    Amount.exists_roundHalfUp Amount.isScale_one (by decide) scaledFinite
  exact ⟨_, isRounded⟩

/-! ## Outliers -/

/-- The bounds beyond which numbers are outliers, not yet rounded; too few numbers have none. -/
def bounds (least : Int) (factor : Binary64) (values : List Binary64) : List Binary64 :=
  if (values.length : Int) < least then []
  else
    let ordered := Summation.ascending values
    match ordered[ordered.length / 4]?, ordered[3 * ordered.length / 4]? with
    | some first, some third =>
        let reach := factor.mul (third.sub first)
        [first.sub reach, third.add reach]
    | _, _ => []

theorem outliersAmong_overflowsIff
    {least : Int}
    (positive : 0 < least)
    (factor : Binary64)
    (values : List (Nat × Binary64)) :
    (outliersAmong least (.real factor) values).OverflowsIff
      (∃ bound ∈ bounds least factor (values.map Prod.snd), bound.IsOutsized) := by
  rw [outliersAmong, bounds, List.length_map]
  split
  · exact (Outcome.OverflowsIff.of_ok ⟨_, rfl⟩).congr (by simp)
  · next enough =>
      obtain ⟨ordered, isOrdered⟩ :
          ∃ ordered, ordered = Summation.ascending (values.map Prod.snd) := ⟨_, rfl⟩
      have filled : 0 < ordered.length := by
        rw [isOrdered, Summation.ascending, List.length_mergeSort, List.length_map]
        omega
      have firstQuarter : ordered.length / 4 < ordered.length := by omega
      have thirdQuarter : 3 * ordered.length / 4 < ordered.length := by omega
      simp only [← isOrdered, quantile, List.getElem?_eq_getElem firstQuarter,
        List.getElem?_eq_getElem thirdQuarter]
      generalize ordered[ordered.length / 4] = first
      generalize ordered[3 * ordered.length / 4] = third
      exact Outcome.OverflowsIff.congr
        ((roundHalfUp_two_overflowsIff (first.sub (factor.mul (third.sub first)))).bind
          fun lower _ =>
            (roundHalfUp_two_overflowsIff (third.add (factor.mul (third.sub first)))).bind
              fun upper _ => .of_ok ⟨_, rfl⟩)
        (by simp)

theorem exists_numbered
    {cells : List Cell}
    (textual : ∀ cell ∈ cells, cell.IsTextual)
    (index : Nat) :
    ∃ values, numbered index cells = .ok values ∧
      values.map Prod.snd = cells.filterMap Cell.reading? := by
  induction cells generalizing index with
  | nil =>
      exact ⟨[], rfl, rfl⟩
  | cons cell rest inductionHypothesis =>
      rw [List.forall_mem_cons] at textual
      obtain ⟨values, areValues, areReadings⟩ := inductionHypothesis textual.2 (index + 1)
      rw [numbered, textual.1.number?_eq, areValues, List.filterMap_cons]
      cases cell.reading? with
      | none =>
          exact ⟨values, rfl, areReadings⟩
      | some number =>
          exact ⟨(index, number) :: values, rfl, congrArg (number :: ·) areReadings⟩

/-- The outlier bounds of a column with the default settings. -/
def defaultBounds (values : List Binary64) : List Binary64 :=
  bounds 4 (Binary64.ofRatio false 3 2) values

theorem findOutliers_overflowsIff
    {cells : List Cell}
    (textual : ∀ cell ∈ cells, cell.IsTextual) :
    (findOutliers {} cells).OverflowsIff
      (∃ bound ∈ defaultBounds (cells.filterMap Cell.reading?), bound.IsOutsized) := by
  obtain ⟨values, areValues, areReadings⟩ := exists_numbered textual 0
  rw [findOutliers, areValues, ← areReadings]
  exact outliersAmong_overflowsIff (by decide) _ values

/-! ## Repeated rows -/

theorem exists_uniformColumn
    {cells : List Cell}
    (textual : ∀ cell ∈ cells, cell.IsTextual) :
    ∃ uniform, Frame.uniformColumn cells = .ok uniform := by
  obtain ⟨scan, isScan⟩ : ∃ scan, cells.foldlM Frame.ColumnScan.step {} = .ok scan := by
    refine Outcome.exists_foldlM_of_forall (fun cell member scan => ?_) _
    have isText := textual cell member
    unfold Frame.ColumnScan.step
    split
    · exact ⟨scan, rfl⟩
    · cases cell with
      | text _ | null =>
          exact ⟨_, rfl⟩
      | _ =>
          exact isText.elim
  rw [Frame.uniformColumn, isScan]
  exact ⟨_, rfl⟩

/-- Rows of texts can be searched for repetitions. -/
theorem exists_findDuplicates
    {rows : List Row}
    (textual : ∀ row ∈ rows, row.IsTextual)
    (columns : Option (List String)) :
    ∃ places, findDuplicates rows columns = .ok places := by
  rw [findDuplicates, duplicateIndices]
  split
  · exact ⟨[], rfl⟩
  · refine Outcome.exists_bind (Outcome.exists_bind ?_ fun _ => ⟨_, rfl⟩) fun _ => ⟨_, rfl⟩
    exact Outcome.exists_mapM_of_forall fun column _ => exists_uniformColumn
      (List.forall_mem_map.mpr fun row member => textual row member column)

/-! ## Reports -/

theorem exists_overallScore
    (scores : List Binary64) :
    ∃ score, overallScore scores = .ok score := by
  cases scores with
  | nil =>
      exact ⟨_, rfl⟩
  | cons first rest =>
      simp only [overallScore, Amount.sum_map_real, if_neg (List.cons_ne_nil first rest)]
      exact Amount.exists_roundHalfUp_zero _

/-- A column of texts has a quality unless it is a number column with an outsized bound. -/
theorem columnQuality_overflowsIff
    (columnType : Option ColumnType)
    {cells : List Cell}
    (textual : ∀ cell ∈ cells, cell.IsTextual) :
    (columnQuality {} columnType cells).OverflowsIff
      (columnType = some .number ∧
        ∃ bound ∈ defaultBounds (cells.filterMap Cell.reading?), bound.IsOutsized) := by
  have percent := exists_rounded_percent
    (Nat.sub_le cells.length (cells.filter fun cell => !cell.isBlank).length)
  rw [columnQuality]
  split
  · next isNumber =>
      refine Outcome.OverflowsIff.congr
        ((findOutliers_overflowsIff textual).bind fun outliers _ => .of_ok ?_) (by simp [isNumber])
      exact Outcome.exists_bind percent fun _ =>
        Outcome.exists_bind (Amount.exists_roundHalfUp_zero _) fun _ => ⟨_, rfl⟩
  · next notNumber =>
      refine Outcome.OverflowsIff.congr (.of_ok ?_) (by simp [notNumber])
      exact Outcome.exists_bind ⟨{}, rfl⟩ fun _ =>
        Outcome.exists_bind percent fun _ =>
          Outcome.exists_bind (Amount.exists_roundHalfUp_zero _) fun _ => ⟨_, rfl⟩

/-- A table of texts has a report unless a bound of a number column is outsized. -/
theorem reportFor_overflowsIff
    {table : Table}
    (textual : ∀ row ∈ table.rows, row.IsTextual)
    (types : Assoc ColumnType) :
    (reportFor {} types table).OverflowsIff
      (∃ column ∈ table.columns, types.find? column = some .number ∧
        ∃ bound ∈ defaultBounds (table.readings column), bound.IsOutsized) := by
  have qualities :
      (columnQualities {} types table).OverflowsIff
        (∃ column ∈ table.columns, types.find? column = some .number ∧
          ∃ bound ∈ defaultBounds (table.readings column), bound.IsOutsized) := by
    refine Outcome.OverflowsIff.mapM fun column _ => ?_
    exact ((columnQuality_overflowsIff (types.find? column)
      (table.cells_isTextual textual column)).bind fun quality _ => .of_ok ⟨_, rfl⟩).congr
        (iff_of_eq (or_false _))
  refine (qualities.bind fun found _ => .of_ok ?_).congr (iff_of_eq (or_false _))
  exact Outcome.exists_bind (exists_overallScore _) fun _ =>
    Outcome.exists_bind (exists_findDuplicates textual _) fun _ => ⟨_, rfl⟩

end Quality

/-- A table of texts has a report unless a bound of a number column is outsized. -/
theorem analyzeQuality_overflowsIff
    {table : Table}
    (textual : ∀ row ∈ table.rows, row.IsTextual)
    {types : Assoc ColumnType}
    (areTypes : table.types {} = .ok types) :
    (analyzeQuality {} none table).OverflowsIff
      (∃ column ∈ table.columns, types.find? column = some .number ∧
        ∃ bound ∈ Quality.defaultBounds (table.readings column), bound.IsOutsized) := by
  rw [analyzeQuality]
  split
  · next isEmpty =>
      have noRows : table.rows = [] := List.isEmpty_iff.mp isEmpty
      refine (Outcome.OverflowsIff.of_ok ⟨_, rfl⟩).congr ?_
      simp [Table.readings, Table.cells, noRows, Quality.defaultBounds, Quality.bounds]
  · rw [areTypes]
    exact Quality.reportFor_overflowsIff textual types

end Tabular
