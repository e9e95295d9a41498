import Tabular.Proofs.Analysis.Grouping
import Tabular.Proofs.Outcome

namespace Tabular

open List

/-!
# Pivots as scans of the table

A pivot collects its groups in one pass. Here it is described without groups: every cell of the
grid is found by walking all rows of the table for its two keys, and every total by adding up cells
of the grid. A table has a pivot when every number in it can be read, and then the pivot is the one
that the scans describe.
-/

namespace Pivot

/-- The key of a row by the row field. -/
def rowKey (rowField : String) (row : Row) : String :=
  keyOf (row.cell rowField)

/-- The key of a row by the column field; all rows share one when there is no column field. -/
def columnKey (columnField : Option String) (row : Row) : String :=
  match chosen columnField with
  | some field => keyOf (row.cell field)
  | none => totalKey

/-- The number of a row in the value field, if its cell is one; one without a value field. -/
def numericForm (valueField : Option String) (row : Row) : Outcome (Option Binary64) :=
  match chosen valueField with
  | some field => (row.cell field).number?
  | none => .ok (some (Binary64.ofNat 1))

/-- The number of a row that contributes to a pivot. -/
def contribution? (valueField : Option String) (row : Row) : Option Binary64 :=
  (numericForm valueField row).toOption.join

/-- The numbers of the rows with two keys, in the order of the table. -/
def scan (config : PivotConfig) (rowField : String) (rows : List Row) (row column : String) :
    List Binary64 :=
  (rows.filter fun scanned =>
      rowKey rowField scanned = row ∧ columnKey config.columnField scanned = column).filterMap
    (contribution? config.valueField)

/--
A map of totals: its keys are the given ones in their order, and under each of them is the rounded
sum of the amounts in its line of the grid.
-/
structure IsTotals
    (digits : Int)
    (amountAt? : String → String → Option Amount)
    (keys others : List String)
    (totals : Assoc Amount) :
    Prop where
  keys_eq : totals.keys = keys
  total_eq :
    ∀ key ∈ keys, ∃ amounts sum,
      others.map (amountAt? key) = amounts.map some ∧
        total digits amounts = .ok sum ∧ totals.find? key = some sum

end Pivot

namespace PivotResult

/-- The amount of a pivot at two keys. -/
def amountAt? (result : PivotResult) (row column : String) : Option Amount :=
  (result.cells.find? row).bind fun line => line.find? column

/--
A filled grid: one rounded value for each pair of a row and a column, and totals of the rounded
values.
-/
structure IsGrid
    (digits : Int)
    (valueAt : String → String → Binary64)
    (result : PivotResult) :
    Prop where
  cells_keys : result.cells.keys = result.rows
  line_keys : ∀ row line, result.cells.find? row = some line → line.keys = result.columns
  amount_eq :
    ∀ row ∈ result.rows, ∀ column ∈ result.columns, ∃ amount,
      (valueAt row column).roundHalfUp digits = .ok amount ∧
        result.amountAt? row column = some amount
  rowTotals : Pivot.IsTotals digits result.amountAt? result.rows result.columns result.rowTotals
  columnTotals :
    Pivot.IsTotals digits (fun column row => result.amountAt? row column) result.columns result.rows
      result.columnTotals
  grandTotal : Pivot.total digits result.rowTotals.values = .ok result.grandTotal

/--
The pivot of rows by scans: its rows and columns are the keys that occur, in order, and the value at
two keys is the aggregate of the numbers that a scan for these keys finds, zero when there are none.
-/
structure IsScan
    (digits : Int)
    (aggregate : List Binary64 → Binary64)
    (config : PivotConfig)
    (rowField : String)
    (rows : List Row)
    (result : PivotResult) :
    Prop where
  rows_ascending : result.rows.Pairwise (· < ·)
  mem_rows : ∀ key, key ∈ result.rows ↔ ∃ row ∈ rows, Pivot.rowKey rowField row = key
  columns_ascending : result.columns.Pairwise (· < ·)
  mem_columns :
    ∀ key, key ∈ result.columns ↔ ∃ row ∈ rows, Pivot.columnKey config.columnField row = key
  grid :
    result.IsGrid digits fun row column =>
      Pivot.aggregateOf aggregate (Pivot.scan config rowField rows row column)

end PivotResult

namespace Pivot

/-! ## What the rows contribute -/

variable {config : PivotConfig} {rowField : String} {rows : List Row}

/-- What a row contributes when its number can be read. -/
def readEntry (config : PivotConfig) (rowField : String) (row : Row) : Entry where
  row := rowKey rowField row
  column := columnKey config.columnField row
  value := contribution? config.valueField row

theorem entryOf_eq_ok_iff
    {row : Row}
    {entry : Entry} :
    entryOf config rowField row = .ok entry ↔
      (∃ number, numericForm config.valueField row = .ok number) ∧
        entry = readEntry config rowField row := by
  have chain :
      entryOf config rowField row =
        numericForm config.valueField row >>= fun value =>
          .ok {
            row := rowKey rowField row
            column := columnKey config.columnField row
            value } := by
    rw [entryOf, numericForm]
    cases chosen config.valueField <;> rfl
  rw [chain, Outcome.bind_eq_ok_iff]
  constructor
  · rintro ⟨number, isNumber, isEntry⟩
    cases isEntry
    exact ⟨⟨number, isNumber⟩, by simp [readEntry, contribution?, isNumber, Except.toOption]⟩
  · rintro ⟨⟨number, isNumber⟩, rfl⟩
    exact ⟨number, isNumber, by simp [readEntry, contribution?, isNumber, Except.toOption]⟩

/-- The entries of a table are those of its rows in turn, when every number can be read. -/
theorem mapM_entryOf_eq_ok_iff
    {entries : List Entry} :
    rows.mapM (entryOf config rowField) = .ok entries ↔
      (∀ row ∈ rows, ∃ number, numericForm config.valueField row = .ok number) ∧
        entries = rows.map (readEntry config rowField) := by
  induction rows generalizing entries with
  | nil =>
      rw [mapM_nil, Outcome.pure_eq_ok_iff]
      exact ⟨fun isEmpty => ⟨by simp, isEmpty.symm⟩, fun both => both.2.symm⟩
  | cons row rest inductionHypothesis =>
      simp only [mapM_cons, Outcome.bind_eq_ok_iff, entryOf_eq_ok_iff, inductionHypothesis,
        Outcome.pure_eq_ok_iff, forall_mem_cons, map_cons]
      constructor
      · rintro ⟨_, ⟨readable, rfl⟩, _, ⟨restReadable, rfl⟩, rfl⟩
        exact ⟨⟨readable, restReadable⟩, rfl⟩
      · rintro ⟨⟨readable, restReadable⟩, rfl⟩
        exact ⟨_, ⟨readable, rfl⟩, _, ⟨restReadable, rfl⟩, rfl⟩

/-- The numbers of the entries with two keys are found by scanning the rows. -/
theorem numbersAt_map_readEntry
    (row column : String) :
    numbersAt row column (rows.map (readEntry config rowField)) =
      scan config rowField rows row column := by
  rw [numbersAt, filter_map, filterMap_map]
  rfl

/-! ## Filling the grid -/

variable {digits : Int} {keys others : List String}

/-- A grid that is filled key by key has one rounded value for each pair of keys. -/
theorem tabulate_cells_eq_ok_iff
    {valueAt : String → String → Binary64}
    {cells : Assoc (Assoc Amount)}
    (distinct : keys.Nodup)
    (distinctOthers : others.Nodup) :
    tabulate
        (fun key => tabulate (fun other => (valueAt key other).roundHalfUp digits) others)
        keys = .ok cells ↔
      cells.keys = keys ∧
        (∀ key line, cells.find? key = some line → line.keys = others) ∧
          ∀ key ∈ keys, ∀ other ∈ others, ∃ amount,
            (valueAt key other).roundHalfUp digits = .ok amount ∧
              ((cells.find? key).bind fun line => line.find? other) = some amount := by
  simp only [tabulate_eq_ok_iff distinct, tabulate_eq_ok_iff distinctOthers]
  refine and_congr_right fun isKeys => ?_
  constructor
  · intro filled
    constructor
    · intro key line found
      have isKey : key ∈ keys := isKeys ▸ Assoc.mem_keys_iff.mpr ⟨line, found⟩
      obtain ⟨stored, ⟨storedKeys, -⟩, present⟩ := filled key isKey
      rw [found, Option.some.injEq] at present
      rw [present, storedKeys]
    · intro key isKey other isOther
      obtain ⟨line, ⟨-, amounts⟩, present⟩ := filled key isKey
      obtain ⟨amount, rounded, found⟩ := amounts other isOther
      exact ⟨amount, rounded, by rw [present, Option.bind_some, found]⟩
  · rintro ⟨lineKeys, filled⟩ key isKey
    obtain ⟨line, present⟩ := Assoc.mem_keys_iff.mp (isKeys.symm ▸ isKey)
    refine ⟨line, ⟨lineKeys key line present, fun other isOther => ?_⟩, present⟩
    obtain ⟨amount, rounded, found⟩ := filled key isKey other isOther
    rw [present, Option.bind_some] at found
    exact ⟨amount, rounded, found⟩

/-- Totals that are filled key by key are the rounded sums of the lines of a filled grid. -/
theorem tabulate_totals_eq_ok_iff
    {amountAt? : String → String → Option Amount}
    {totals : Assoc Amount}
    (distinct : keys.Nodup)
    (filled : ∀ key ∈ keys, ∀ other ∈ others, ∃ amount, amountAt? key other = some amount) :
    tabulate
        (fun key => total digits (others.map fun other => (amountAt? key other).getD (.whole 0)))
        keys = .ok totals ↔
      IsTotals digits amountAt? keys others totals := by
  have line (key : String) (isKey : key ∈ keys) :
      others.map (amountAt? key) =
        (others.map fun other => (amountAt? key other).getD (.whole 0)).map some := by
    rw [map_map]
    apply map_congr_left
    intro other isOther
    obtain ⟨amount, found⟩ := filled key isKey other isOther
    rw [Function.comp_apply, found, Option.getD_some]
  rw [tabulate_eq_ok_iff distinct]
  constructor
  · rintro ⟨isKeys, found⟩
    refine ⟨isKeys, fun key isKey => ?_⟩
    obtain ⟨sum, isSum, present⟩ := found key isKey
    exact ⟨_, sum, line key isKey, isSum, present⟩
  · rintro ⟨isKeys, found⟩
    refine ⟨isKeys, fun key isKey => ?_⟩
    obtain ⟨amounts, sum, isLine, isSum, present⟩ := found key isKey
    rw [line key isKey] at isLine
    obtain rfl := map_injective_iff.mpr (Option.some_injective Amount) isLine
    exact ⟨sum, isSum, present⟩

/-- The pivot of entries is the filled grid of their keys in order. -/
theorem ofEntries_eq_ok_iff
    {aggregate : List Binary64 → Binary64}
    {entries : List Entry}
    {result : PivotResult} :
    ofEntries digits aggregate entries = .ok result ↔
      result.rows = sortedKeys (entries.map Entry.row) ∧
        result.columns = sortedKeys (entries.map Entry.column) ∧
          result.IsGrid digits fun row column =>
            aggregateOf aggregate (numbersAt row column entries) := by
  have rowsDistinct := nodup_sortedKeys (entries.map Entry.row)
  have columnsDistinct := nodup_sortedKeys (entries.map Entry.column)
  have sameWithoutLine (cells : Assoc (Assoc Amount)) (row column : String) :
      (((cells.find? row).getD .empty).find? column).getD (.whole 0) =
        ((cells.find? row).bind fun line => line.find? column).getD (.whole 0) := by
    cases cells.find? row with
    | none =>
        rfl
    | some line =>
        rfl
  simp only [ofEntries, Outcome.bind_eq_ok_iff, Outcome.pure_eq_ok_iff, aggregateAt_groupBy,
    sameWithoutLine]
  constructor
  · rintro ⟨cells, isCells, rowTotals, isRowTotals, columnTotals, isColumnTotals, grandTotal,
      isGrandTotal, rfl⟩
    have isFilled := (tabulate_cells_eq_ok_iff rowsDistinct columnsDistinct).mp isCells
    obtain ⟨isKeys, lineKeys, filled⟩ := isFilled
    refine ⟨rfl, rfl, isKeys, lineKeys, filled, ?_, ?_, isGrandTotal⟩
    · refine (tabulate_totals_eq_ok_iff rowsDistinct fun row isRow column isColumn => ?_).mp
        isRowTotals
      exact (filled row isRow column isColumn).imp fun _ => And.right
    · refine (tabulate_totals_eq_ok_iff columnsDistinct fun column isColumn row isRow => ?_).mp
        isColumnTotals
      exact (filled row isRow column isColumn).imp fun _ => And.right
  · rintro ⟨isRows, isColumns, grid⟩
    obtain ⟨isKeys, lineKeys, filled, isRowTotals, isColumnTotals, isGrandTotal⟩ := grid
    rw [isRows] at isKeys filled isRowTotals isColumnTotals
    rw [isColumns] at lineKeys filled isRowTotals isColumnTotals
    refine ⟨result.cells, ?_, result.rowTotals, ?_, result.columnTotals, ?_, result.grandTotal,
      isGrandTotal, ?_⟩
    · exact (tabulate_cells_eq_ok_iff rowsDistinct columnsDistinct).mpr ⟨isKeys, lineKeys, filled⟩
    · refine (tabulate_totals_eq_ok_iff rowsDistinct fun row isRow column isColumn => ?_).mpr
        isRowTotals
      exact (filled row isRow column isColumn).imp fun _ => And.right
    · refine (tabulate_totals_eq_ok_iff columnsDistinct fun column isColumn row isRow => ?_).mpr
        isColumnTotals
      exact (filled row isRow column isColumn).imp fun _ => And.right
    · rw [← isRows, ← isColumns]

/-- The pivot of what rows contribute is the one that scans of the rows describe. -/
theorem ofEntries_eq_ok_iff_isScan
    {aggregate : List Binary64 → Binary64}
    {result : PivotResult} :
    ofEntries digits aggregate (rows.map (readEntry config rowField)) = .ok result ↔
      result.IsScan digits aggregate config rowField rows := by
  rw [ofEntries_eq_ok_iff]
  simp only [eq_sortedKeys_iff, map_map, numbersAt_map_readEntry, mem_map]
  constructor
  · rintro ⟨⟨rowsAscending, memRows⟩, ⟨columnsAscending, memColumns⟩, grid⟩
    exact ⟨rowsAscending, memRows, columnsAscending, memColumns, grid⟩
  · rintro ⟨rowsAscending, memRows, columnsAscending, memColumns, grid⟩
    exact ⟨⟨rowsAscending, memRows⟩, ⟨columnsAscending, memColumns⟩, grid⟩

end Pivot

/-! ## Pivots of tables -/

/-- Without a row field a pivot is empty. -/
theorem createPivot_of_not_chosen
    {settings : Settings}
    {config : PivotConfig}
    {table : Table}
    (notChosen : Pivot.chosen config.rowField = none) :
    createPivot settings config table = .ok {} := by
  rw [createPivot, createPivotWith, notChosen]
  rfl

/-- The pivot of a table without rows is empty. -/
theorem createPivot_of_no_rows
    {settings : Settings}
    {config : PivotConfig}
    {table : Table}
    (noRows : table.rows = []) :
    createPivot settings config table = .ok {} := by
  rw [createPivot, createPivotWith]
  cases Pivot.chosen config.rowField with
  | none =>
      rfl
  | some rowField =>
      simp [Table.isEmpty, noRows, pure, Except.pure]

theorem createPivotWith_eq_ok_iff
    {settings : Settings}
    {aggregate : List Binary64 → Binary64}
    {config : PivotConfig}
    {table : Table}
    {rowField : String}
    {result : PivotResult}
    (isChosen : Pivot.chosen config.rowField = some rowField)
    (nonempty : table.rows ≠ []) :
    createPivotWith settings aggregate config table = .ok result ↔
      (∀ row ∈ table.rows, ∃ number, Pivot.numericForm config.valueField row = .ok number) ∧
        Pivot.ofEntries settings.pivotDecimals aggregate
          (table.rows.map (Pivot.readEntry config rowField)) = .ok result := by
  have notEmpty : table.isEmpty = false := by
    rw [Table.isEmpty, List.isEmpty_eq_false_iff]
    exact nonempty
  simp only [createPivotWith, isChosen, notEmpty, Bool.false_eq_true, ↓reduceIte,
    Outcome.bind_eq_ok_iff, Pivot.mapM_entryOf_eq_ok_iff]
  constructor
  · rintro ⟨_, ⟨readable, rfl⟩, isResult⟩
    exact ⟨readable, isResult⟩
  · rintro ⟨readable, isResult⟩
    exact ⟨_, ⟨readable, rfl⟩, isResult⟩

theorem createPivotWith_eq_ok_iff_isScan
    {settings : Settings}
    {aggregate : List Binary64 → Binary64}
    {config : PivotConfig}
    {table : Table}
    {rowField : String}
    {result : PivotResult}
    (isChosen : Pivot.chosen config.rowField = some rowField)
    (nonempty : table.rows ≠ []) :
    createPivotWith settings aggregate config table = .ok result ↔
      (∀ row ∈ table.rows, ∃ number, Pivot.numericForm config.valueField row = .ok number) ∧
        result.IsScan settings.pivotDecimals aggregate config rowField table.rows := by
  rw [createPivotWith_eq_ok_iff isChosen nonempty, Pivot.ofEntries_eq_ok_iff_isScan]

/--
A table with rows has a pivot by a row field exactly when every number in the value field can be
read, and the pivot is then the one that scans for every pair of keys describe. It is so for every
aggregate of the numbers of a group, and so for the one that the configuration names.
-/
theorem createPivot_eq_ok_iff_isScan
    (settings : Settings)
    (config : PivotConfig)
    (table : Table)
    (rowField : String)
    (result : PivotResult)
    (isChosen : Pivot.chosen config.rowField = some rowField)
    (nonempty : table.rows ≠ []) :
    (∀ aggregate : List Binary64 → Binary64,
      createPivotWith settings aggregate config table = .ok result ↔
        (∀ row ∈ table.rows, ∃ number, Pivot.numericForm config.valueField row = .ok number) ∧
          result.IsScan settings.pivotDecimals aggregate config rowField table.rows) ∧
      (createPivot settings config table = .ok result ↔
        (∀ row ∈ table.rows, ∃ number, Pivot.numericForm config.valueField row = .ok number) ∧
          result.IsScan settings.pivotDecimals config.aggregation.apply config rowField
            table.rows) :=
  ⟨fun _ => createPivotWith_eq_ok_iff_isScan isChosen nonempty,
    createPivotWith_eq_ok_iff_isScan isChosen nonempty⟩

namespace Pivot.Sample

/-- What was poured where, with a missing place and a volume that is no number. -/
def pours : Table where
  name := some "pours"
  columns := ["place", "drink", "volume"]
  rows :=
    [.ofList [("place", .text "north"), ("drink", .text "tea"), ("volume", .text "2.005")],
      .ofList [("drink", .text "tea"), ("volume", .text "much")],
      .ofList [("place", .text "north"), ("drink", .text "ale"), ("volume", .int 1)],
      .ofList [("place", .text "north"), ("drink", .text "ale"), ("volume", .int 2)]]
  typeSource := .given .empty
  kindSource := .given .empty

/-- The volumes by place and drink. -/
def volumes (aggregation : Aggregation) : PivotConfig where
  rowField := some "place"
  columnField := some "drink"
  valueField := some "volume"
  aggregation

/-- What the rows of the sample contribute. -/
def entries : List Entry :=
  [{ row := "north", column := "tea", value := some (Binary64.ofRatio false 2005 1000) },
    { row := "(Empty)", column := "tea", value := none },
    { row := "north", column := "ale", value := some (Binary64.ofNat 1) },
    { row := "north", column := "ale", value := some (Binary64.ofNat 2) }]

theorem sortedKeys_places :
    sortedKeys (entries.map Entry.row) = ["(Empty)", "north"] := by
  refine (eq_sortedKeys_iff.mpr ⟨by decide, fun key => ?_⟩).symm
  simp +contextual [entries, or_comm]

theorem sortedKeys_drinks :
    sortedKeys (entries.map Entry.column) = ["ale", "tea"] := by
  refine (eq_sortedKeys_iff.mpr ⟨by decide, fun key => ?_⟩).symm
  simp +contextual [entries, or_comm]

theorem createPivot_pours
    {aggregation : Aggregation}
    {result : PivotResult} :
    createPivot {} (volumes aggregation) pours = .ok result ↔
      ofEntries 2 aggregation.apply entries = .ok result := by
  have contributed : pours.rows.map (readEntry (volumes aggregation) "place") = entries := rfl
  have readable : ∀ row ∈ pours.rows, ∃ number, numericForm (some "volume") row = .ok number := by
    simp only [pours, forall_mem_cons]
    exact ⟨⟨_, rfl⟩, ⟨_, rfl⟩, ⟨_, rfl⟩, ⟨_, rfl⟩, by simp⟩
  have isChosen : chosen (volumes aggregation).rowField = some "place" := rfl
  rw [createPivot, createPivotWith_eq_ok_iff isChosen (by decide), contributed]
  exact and_iff_right readable

/-- A volume in hundredths. -/
def hundredths (count : Nat) : Amount :=
  .real (Binary64.ofRatio false count 100)

/-- The mean volumes by place and drink; none is known where the place is missing. -/
def means : PivotResult where
  rows := ["(Empty)", "north"]
  columns := ["ale", "tea"]
  cells :=
    .ofList
      [("(Empty)", .ofList [("ale", hundredths 0), ("tea", hundredths 0)]),
        ("north", .ofList [("ale", hundredths 150), ("tea", hundredths 201)])]
  rowTotals := .ofList [("(Empty)", hundredths 0), ("north", hundredths 351)]
  columnTotals := .ofList [("ale", hundredths 150), ("tea", hundredths 201)]
  grandTotal := hundredths 351

/-- The mean volumes of the sample are those that scans of its table find. -/
theorem means_isScan :
    chosen (volumes .average).rowField = some "place" ∧
      pours.rows ≠ [] ∧
      createPivot {} (volumes .average) pours = .ok means ∧
      means.IsScan 2 Aggregation.average.apply (volumes .average) "place" pours.rows := by
  have isChosen : chosen (volumes .average).rowField = some "place" := by decide
  have nonempty : pours.rows ≠ [] := by decide
  have created : createPivot {} (volumes .average) pours = .ok means := by
    rw [createPivot_pours, ofEntries, sortedKeys_places, sortedKeys_drinks]
    decide +kernel
  exact ⟨isChosen, nonempty, created,
    ((createPivot_eq_ok_iff_isScan {} _ pours "place" means isChosen nonempty).2.mp created).2⟩

end Pivot.Sample

end Tabular
