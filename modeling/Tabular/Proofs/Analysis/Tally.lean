import Tabular.Proofs.Analysis.Scan
import Tabular.Proofs.Number.Counts

namespace Tabular

open List

/-!
# Pivots that count

A pivot that counts, or that adds up a one for every row, puts each row that contributes into
exactly one cell. Counts are exact in binary64 and keep their value when they are rounded, so all
totals are exact as well, and the grand total is the number of contributing rows whatever the rows
are grouped by.
-/

/-- The amount is a whole number. -/
def Amount.IsCount (amount : Amount) (count : Nat) : Prop :=
  ∃ number, amount.toReal = .ok number ∧ number.toInt? = some (count : Int)

/-- The pivot counts the numbers of the value field, or the rows when there is no value field. -/
def PivotConfig.Counts (config : PivotConfig) : Prop :=
  config.aggregation = .count ∨
    config.aggregation = .sum ∧ Pivot.chosen config.valueField = none

namespace Pivot

/-- The row has a number to contribute; every row has one when there is no value field. -/
def contributes (valueField : Option String) (row : Row) : Bool :=
  (contribution? valueField row).isSome

/-- The number of contributing rows with two keys. -/
def countAt (config : PivotConfig) (rowField : String) (rows : List Row) (row column : String) :
    Nat :=
  rows.countP fun counted =>
    contributes config.valueField counted && rowKey rowField counted == row &&
      columnKey config.columnField counted == column

end Pivot

/--
A pivot that counts rows: every row has a place in the grid, every cell is the number of
contributing rows with its keys, every total is the sum of its cells, and the totals of the rows and
those of the columns both add up to the number of all contributing rows, which is the grand total.
-/
structure PivotResult.IsTally
    (config : PivotConfig)
    (rowField : String)
    (rows : List Row)
    (result : PivotResult) :
    Prop where
  rows_distinct : result.rows.Nodup
  columns_distinct : result.columns.Nodup
  has_place :
    ∀ row ∈ rows,
      Pivot.rowKey rowField row ∈ result.rows ∧
        Pivot.columnKey config.columnField row ∈ result.columns
  cell :
    ∀ row ∈ result.rows, ∀ column ∈ result.columns, ∃ amount,
      result.amountAt? row column = some amount ∧
        amount.IsCount (Pivot.countAt config rowField rows row column)
  rowTotal :
    ∀ row ∈ result.rows, ∃ total,
      result.rowTotals.find? row = some total ∧
        total.IsCount (result.columns.map (Pivot.countAt config rowField rows row)).sum
  columnTotal :
    ∀ column ∈ result.columns, ∃ total,
      result.columnTotals.find? column = some total ∧
        total.IsCount
          (result.rows.map fun row => Pivot.countAt config rowField rows row column).sum
  grandTotal : result.grandTotal.IsCount (rows.countP (Pivot.contributes config.valueField))
  sum_rowTotals :
    (result.rows.map fun row =>
        (result.columns.map (Pivot.countAt config rowField rows row)).sum).sum =
      rows.countP (Pivot.contributes config.valueField)
  sum_columnTotals :
    (result.columns.map fun column =>
        (result.rows.map fun row => Pivot.countAt config rowField rows row column).sum).sum =
      rows.countP (Pivot.contributes config.valueField)

/-! ## Counting by keys -/

theorem sum_indicator_eq_count
    (key : String)
    (keys : List String) :
    (keys.map fun other => if key == other then 1 else 0).sum = keys.count key := by
  induction keys with
  | nil =>
      rfl
  | cons other rest inductionHypothesis =>
      rw [map_cons, sum_cons, inductionHypothesis, count_cons, Nat.add_comm, BEq.comm]

/-- Elements that are counted under each of distinct keys are all counted, each once. -/
theorem sum_countP_key
    {α : Type}
    (keyOf : α → String)
    (counted : α → Bool)
    {keys : List String}
    (distinct : keys.Nodup)
    {elements : List α}
    (covered : ∀ element ∈ elements, keyOf element ∈ keys) :
    (keys.map fun key => elements.countP fun element =>
        counted element && keyOf element == key).sum =
      elements.countP counted := by
  induction elements with
  | nil =>
      simp
  | cons element rest inductionHypothesis =>
      rw [forall_mem_cons] at covered
      have own : (keys.map fun key => if keyOf element == key then 1 else 0).sum = 1 := by
        rw [sum_indicator_eq_count, count_eq_one_of_mem distinct covered.1]
      simp only [countP_cons, sum_map_add, inductionHypothesis covered.2]
      cases counted element with
      | false =>
          simp
      | true =>
          simpa using own

namespace Pivot

variable
    {config : PivotConfig}
    {rowField : String}
    {rows : List Row}

section

variable
    {rowKeys columnKeys : List String}
    (rowsDistinct : rowKeys.Nodup)
    (rowsCovered : ∀ counted ∈ rows, rowKey rowField counted ∈ rowKeys)
    (columnsDistinct : columnKeys.Nodup)
    (columnsCovered : ∀ counted ∈ rows, columnKey config.columnField counted ∈ columnKeys)

include columnsDistinct columnsCovered in
/-- The cells of a row of a grid count the rows with its key. -/
theorem sum_countAt_columns
    (row : String) :
    (columnKeys.map (countAt config rowField rows row)).sum =
      rows.countP fun counted =>
        contributes config.valueField counted && rowKey rowField counted == row :=
  sum_countP_key _ _ columnsDistinct columnsCovered

include rowsDistinct rowsCovered in
/-- The cells of a column of a grid count the rows with its key. -/
theorem sum_countAt_rows
    (column : String) :
    (rowKeys.map fun row => countAt config rowField rows row column).sum =
      rows.countP fun counted =>
        contributes config.valueField counted &&
          columnKey config.columnField counted == column := by
  simp only [countAt, Bool.and_right_comm]
  exact sum_countP_key _ _ rowsDistinct rowsCovered

include rowsDistinct rowsCovered columnsDistinct columnsCovered in
/-- Summed up row by row, a grid counts all contributing rows. -/
theorem sum_countAt :
    (rowKeys.map fun row => (columnKeys.map (countAt config rowField rows row)).sum).sum =
      rows.countP (contributes config.valueField) := by
  simp only [sum_countAt_columns columnsDistinct columnsCovered]
  exact sum_countP_key _ _ rowsDistinct rowsCovered

end

/-! ## Counts as aggregates -/

theorem length_scan
    (row column : String) :
    (scan config rowField rows row column).length = countAt config rowField rows row column := by
  rw [scan, length_filterMap_eq_countP, countP_filter, countAt]
  apply countP_congr
  intro counted _
  simp [contributes, and_assoc]

/-- Without a value field every row contributes a one. -/
theorem scan_eq_replicate
    (noValueField : chosen config.valueField = none)
    (row column : String) :
    scan config rowField rows row column =
      replicate (countAt config rowField rows row column) (.ofNat 1) := by
  rw [← length_scan]
  apply eq_replicate_of_mem
  intro number member
  obtain ⟨counted, -, contributed⟩ := mem_filterMap.mp member
  simpa [contribution?, numericForm, noValueField, Except.toOption, eq_comm] using contributed

/-- The aggregate of a pivot that counts is the number of rows that a scan finds. -/
theorem aggregateOf_scan
    (counts : config.Counts)
    {row column : String}
    (small : countAt config rowField rows row column < Nat.pow 2 53) :
    aggregateOf config.aggregation.apply (scan config rowField rows row column) =
      .ofNat (countAt config rowField rows row column) := by
  rw [aggregateOf]
  split_ifs with isEmpty
  · rw [← length_scan, isEmpty]
    rfl
  · rcases counts with isCount | ⟨isSum, noValueField⟩
    · rw [isCount, Aggregation.apply, length_scan]
    · rw [isSum, Aggregation.apply, scan_eq_replicate noValueField,
        Summation.compensated_replicate_one small]

/-! ## Counts as totals -/

theorem total_map_ofCount
    (counts : List Nat)
    (small : counts.sum < Nat.pow 2 40) :
    total 2 (counts.map .ofCount) = .ok (.ofCount counts.sum) := by
  have limit : Nat.pow 2 40 < Nat.pow 2 53 := by decide
  rw [total, Amount.sum_map_ofCount counts (small.trans limit)]
  cases counts with
  | nil =>
      decide +kernel
  | cons first rest =>
      exact Amount.roundHalfUp_ofNat small

/-- Totals of a grid of counts are counts. -/
theorem IsTotals.find?_eq
    {amountAt? : String → String → Option Amount}
    {countOf : String → String → Nat}
    {keys others : List String}
    {totals : Assoc Amount}
    (isTotals : IsTotals 2 amountAt? keys others totals)
    (filled :
      ∀ key ∈ keys, ∀ other ∈ others, amountAt? key other = some (.ofCount (countOf key other)))
    (small : ∀ key ∈ keys, (others.map (countOf key)).sum < Nat.pow 2 40)
    {key : String}
    (isKey : key ∈ keys) :
    totals.find? key = some (.ofCount (others.map (countOf key)).sum) := by
  obtain ⟨amounts, sum, isLine, isSum, present⟩ := isTotals.total_eq key isKey
  have line :
      others.map (amountAt? key) = ((others.map (countOf key)).map Amount.ofCount).map some := by
    rw [map_map, map_map]
    exact map_congr_left (filled key isKey)
  rw [line] at isLine
  obtain rfl := map_injective_iff.mpr (Option.some_injective Amount) isLine
  rw [total_map_ofCount _ (small key isKey)] at isSum
  cases isSum
  exact present

end Pivot

theorem Amount.isCount_ofCount
    {count : Nat}
    (small : count < Nat.pow 2 40) :
    (Amount.ofCount count).IsCount count :=
  ⟨.ofNat count, rfl, Binary64.toInt?_ofNat (small.trans (by decide))⟩

/-! ## Scans that count -/

namespace PivotResult.IsScan

variable
    {digits : Int}
    {aggregate : List Binary64 → Binary64}
    {config : PivotConfig}
    {rowField : String}
    {rows : List Row}
    {result : PivotResult}

/-- The cells of a row of the grid count the rows with its key. -/
theorem sum_row
    (isScan : result.IsScan digits aggregate config rowField rows)
    (row : String) :
    (result.columns.map (Pivot.countAt config rowField rows row)).sum =
      rows.countP fun counted =>
        Pivot.contributes config.valueField counted && Pivot.rowKey rowField counted == row :=
  Pivot.sum_countAt_columns (Pivot.nodup_of_ascending isScan.columns_ascending)
    (fun counted member => (isScan.mem_columns _).mpr ⟨counted, member, rfl⟩) row

/-- The cells of a column of the grid count the rows with its key. -/
theorem sum_column
    (isScan : result.IsScan digits aggregate config rowField rows)
    (column : String) :
    (result.rows.map fun row => Pivot.countAt config rowField rows row column).sum =
      rows.countP fun counted =>
        Pivot.contributes config.valueField counted &&
          Pivot.columnKey config.columnField counted == column :=
  Pivot.sum_countAt_rows (Pivot.nodup_of_ascending isScan.rows_ascending)
    (fun counted member => (isScan.mem_rows _).mpr ⟨counted, member, rfl⟩) column

/-- Summed up row by row, the grid counts all contributing rows. -/
theorem sum_sum_row
    (isScan : result.IsScan digits aggregate config rowField rows) :
    (result.rows.map fun row =>
        (result.columns.map (Pivot.countAt config rowField rows row)).sum).sum =
      rows.countP (Pivot.contributes config.valueField) :=
  Pivot.sum_countAt (Pivot.nodup_of_ascending isScan.rows_ascending)
    (fun counted member => (isScan.mem_rows _).mpr ⟨counted, member, rfl⟩)
    (Pivot.nodup_of_ascending isScan.columns_ascending)
    fun counted member => (isScan.mem_columns _).mpr ⟨counted, member, rfl⟩

/-- Summed up column by column, the grid counts all contributing rows. -/
theorem sum_sum_column
    (isScan : result.IsScan digits aggregate config rowField rows) :
    (result.columns.map fun column =>
        (result.rows.map fun row => Pivot.countAt config rowField rows row column).sum).sum =
      rows.countP (Pivot.contributes config.valueField) := by
  simp only [isScan.sum_column]
  apply sum_countP_key _ _ (Pivot.nodup_of_ascending isScan.columns_ascending)
  intro counted member
  exact (isScan.mem_columns _).mpr ⟨counted, member, rfl⟩

variable
    (isScan : result.IsScan 2 config.aggregation.apply config rowField rows)
    (counts : config.Counts)
    (few : rows.length < Nat.pow 2 40)

include isScan counts few

theorem amountAt?_eq
    {row column : String}
    (isRow : row ∈ result.rows)
    (isColumn : column ∈ result.columns) :
    result.amountAt? row column =
      some (.ofCount (Pivot.countAt config rowField rows row column)) := by
  have small : Pivot.countAt config rowField rows row column < Nat.pow 2 40 :=
    countP_le_length.trans_lt few
  obtain ⟨amount, rounded, found⟩ := isScan.grid.amount_eq row isRow column isColumn
  rw [Pivot.aggregateOf_scan counts (small.trans (by decide)), Amount.roundHalfUp_ofNat small]
    at rounded
  cases rounded
  exact found

theorem rowTotals_eq
    {row : String}
    (isRow : row ∈ result.rows) :
    result.rowTotals.find? row =
      some (.ofCount (result.columns.map (Pivot.countAt config rowField rows row)).sum) := by
  apply isScan.grid.rowTotals.find?_eq _ _ isRow
  · intro row isRow column isColumn
    exact isScan.amountAt?_eq counts few isRow isColumn
  · intro row _
    rw [isScan.sum_row]
    exact countP_le_length.trans_lt few

theorem columnTotals_eq
    {column : String}
    (isColumn : column ∈ result.columns) :
    result.columnTotals.find? column =
      some (.ofCount
        (result.rows.map fun row => Pivot.countAt config rowField rows row column).sum) := by
  apply isScan.grid.columnTotals.find?_eq _ _ isColumn
  · intro column isColumn row isRow
    exact isScan.amountAt?_eq counts few isRow isColumn
  · intro column _
    rw [isScan.sum_column]
    exact countP_le_length.trans_lt few

theorem grandTotal_eq :
    result.grandTotal = .ofCount (rows.countP (Pivot.contributes config.valueField)) := by
  have totalKeys := isScan.grid.rowTotals.keys_eq
  have totals :
      result.rowTotals.values =
        (result.rows.map fun row =>
          (result.columns.map (Pivot.countAt config rowField rows row)).sum).map .ofCount := by
    rw [Assoc.values_eq_map_keys fun row isRow =>
      isScan.rowTotals_eq counts few (totalKeys ▸ isRow), totalKeys, map_map]
    rfl
  have isTotal := isScan.grid.grandTotal
  rw [totals, Pivot.total_map_ofCount, isScan.sum_sum_row] at isTotal
  · exact (Except.ok.inj isTotal).symm
  · rw [isScan.sum_sum_row]
    exact countP_le_length.trans_lt few

/-- A pivot by scans that counts is a tally. -/
theorem isTally :
    result.IsTally config rowField rows where
  rows_distinct := Pivot.nodup_of_ascending isScan.rows_ascending
  columns_distinct := Pivot.nodup_of_ascending isScan.columns_ascending
  has_place row member :=
    ⟨(isScan.mem_rows _).mpr ⟨row, member, rfl⟩, (isScan.mem_columns _).mpr ⟨row, member, rfl⟩⟩
  cell row isRow column isColumn :=
    ⟨_, isScan.amountAt?_eq counts few isRow isColumn,
      Amount.isCount_ofCount (countP_le_length.trans_lt few)⟩
  rowTotal row isRow := by
    refine ⟨_, isScan.rowTotals_eq counts few isRow, Amount.isCount_ofCount ?_⟩
    rw [isScan.sum_row]
    exact countP_le_length.trans_lt few
  columnTotal column isColumn := by
    refine ⟨_, isScan.columnTotals_eq counts few isColumn, Amount.isCount_ofCount ?_⟩
    rw [isScan.sum_column]
    exact countP_le_length.trans_lt few
  grandTotal := by
    rw [isScan.grandTotal_eq counts few]
    exact Amount.isCount_ofCount (countP_le_length.trans_lt few)
  sum_rowTotals := isScan.sum_sum_row
  sum_columnTotals := isScan.sum_sum_column

end PivotResult.IsScan

/-! ## Pivots of tables that count -/

/-- The pivot of no rows is a tally of them. -/
theorem PivotResult.isTally_nil
    (config : PivotConfig)
    (rowField : String) :
    ({} : PivotResult).IsTally config rowField [] where
  rows_distinct := nodup_nil
  columns_distinct := nodup_nil
  has_place := by simp
  cell := by simp
  rowTotal := by simp
  columnTotal := by simp
  grandTotal := ⟨.ofNat 0, by decide +kernel, Binary64.toInt?_ofNat (by decide)⟩
  sum_rowTotals := rfl
  sum_columnTotals := rfl

/--
A pivot that counts, of a table with less than `2 ^ 40` rows and with amounts rounded to two
decimals, is a tally of the rows of the table.
-/
theorem isTally_of_createPivot
    (settings : Settings)
    (config : PivotConfig)
    (table : Table)
    (rowField : String)
    (result : PivotResult)
    (counts : config.Counts)
    (twoDecimals : settings.pivotDecimals = 2)
    (few : table.rows.length < Nat.pow 2 40)
    (isChosen : Pivot.chosen config.rowField = some rowField)
    (created : createPivot settings config table = .ok result) :
    result.IsTally config rowField table.rows := by
  rcases eq_or_ne table.rows [] with isEmpty | nonempty
  · rw [createPivot_of_no_rows isEmpty] at created
    cases created
    rw [isEmpty]
    exact PivotResult.isTally_nil config rowField
  · rw [createPivot, createPivotWith_eq_ok_iff_isScan isChosen nonempty, twoDecimals] at created
    exact created.2.isTally counts few

namespace Pivot.Sample

/-- How many volumes are known by place and drink. -/
def known : PivotResult where
  rows := ["(Empty)", "north"]
  columns := ["ale", "tea"]
  cells :=
    .ofList
      [("(Empty)", .ofList [("ale", .ofCount 0), ("tea", .ofCount 0)]),
        ("north", .ofList [("ale", .ofCount 2), ("tea", .ofCount 1)])]
  rowTotals := .ofList [("(Empty)", .ofCount 0), ("north", .ofCount 3)]
  columnTotals := .ofList [("ale", .ofCount 2), ("tea", .ofCount 1)]
  grandTotal := .ofCount 3

/-- The known volumes of the sample are a tally of its rows. -/
theorem known_isTally :
    (volumes .count).Counts ∧
      ({} : Settings).pivotDecimals = 2 ∧
      pours.rows.length < Nat.pow 2 40 ∧
      chosen (volumes .count).rowField = some "place" ∧
      createPivot {} (volumes .count) pours = .ok known ∧
      known.IsTally (volumes .count) "place" pours.rows := by
  have counts : (volumes .count).Counts := .inl rfl
  have few : pours.rows.length < Nat.pow 2 40 := by decide
  have isChosen : chosen (volumes .count).rowField = some "place" := by decide
  have created : createPivot {} (volumes .count) pours = .ok known := by
    rw [createPivot_pours, ofEntries, sortedKeys_places, sortedKeys_drinks]
    decide +kernel
  exact ⟨counts, rfl, few, isChosen, created,
    isTally_of_createPivot {} _ pours "place" known counts rfl few isChosen created⟩

end Pivot.Sample

end Tabular
