import Tabular.Proofs.Analysis.Grid
import Tabular.Proofs.Analysis.Tally
import Tabular.Proofs.Filter.Listing

namespace Tabular

open List Binary64

/-!
# The rows behind a cell

A cell of a pivot that counts rows can be drilled into: the filter that wants both fields to be the
keys of the cell keeps the rows that the cell counts. A missing cell is the exception, since it is
filtered as the empty text and has a key of its own in a pivot, so the keys must be neither of these
two texts. The pivot itself never fails, as counts are far from the end of the binary64 range.
-/

/-! ## Grids of counts -/

namespace Pivot

/-- A count below `2 ^ 40` stays as it is when it is rounded, and rounding does not overflow. -/
theorem hundredths_ofNat
    {count : Nat}
    (small : count < Nat.pow 2 40) :
    ¬(Binary64.ofNat count).IsOutsized ∧ (Binary64.ofNat count).hundredths = .ofNat count := by
  obtain ⟨fits, same⟩ := eq_hundredths_of_roundHalfUp_two (Amount.roundHalfUp_ofNat small)
  exact ⟨fits, (Amount.real.inj same).symm⟩

/-- The running sum of counts is their sum. -/
theorem running_ofNat
    {counts : List Nat}
    (small : counts.sum < Nat.pow 2 53) :
    Summation.running (counts.map .ofNat) = .ofNat counts.sum := by
  by_cases isEmpty : counts = []
  · rw [isEmpty]
    rfl
  · have sums := Amount.sum_map_real (counts.map .ofNat)
    have sameSums := Amount.sum_map_ofCount counts small
    have sameAmounts :
        (counts.map Binary64.ofNat).map Amount.real = counts.map Amount.ofCount :=
      map_map
    rw [sameAmounts, sameSums, if_neg isEmpty, if_neg (mt map_eq_nil_iff.mp isEmpty)] at sums
    exact (Amount.real.inj (Except.ok.inj sums)).symm

/-- The sum of the rounded counts of a line is the sum of the counts. -/
theorem lineSum_ofNat
    {others : List String}
    {countOf : String → Nat}
    (small : (others.map countOf).sum < Nat.pow 2 40) :
    lineSum others (fun other => .ofNat (countOf other)) = .ofNat (others.map countOf).sum := by
  have rounded :
      others.map (fun other => (Binary64.ofNat (countOf other)).hundredths) =
        (others.map countOf).map .ofNat := by
    rw [map_map]
    apply map_congr_left
    intro other isOther
    have below : countOf other ≤ (others.map countOf).sum :=
      List.single_le_sum (fun _ _ => Nat.zero_le _) _ (mem_map_of_mem isOther)
    exact (hundredths_ofNat (below.trans_lt small)).2
  rw [lineSum, rounded, running_ofNat (small.trans (by decide))]

/-- In a grid of counts that are few in all no number is outsized. -/
theorem not_isOutsized_of_counts
    {rows columns : List String}
    {countOf : String → String → Nat}
    (small : (rows.map fun row => (columns.map (countOf row)).sum).sum < Nat.pow 2 40) :
    ¬∃ figure ∈ figures rows columns (fun row column => .ofNat (countOf row column)),
      figure.IsOutsized := by
  have rowFits : ∀ row ∈ rows, (columns.map (countOf row)).sum < Nat.pow 2 40 := by
    intro row isRow
    refine (List.single_le_sum (fun _ _ => Nat.zero_le _) _ ?_).trans_lt small
    exact mem_map_of_mem (f := fun row => (columns.map (countOf row)).sum) isRow
  have cellFits : ∀ row ∈ rows, ∀ column ∈ columns, countOf row column < Nat.pow 2 40 := by
    intro row isRow column isColumn
    refine (List.single_le_sum (fun _ _ => Nat.zero_le _) _ ?_).trans_lt (rowFits row isRow)
    exact mem_map_of_mem isColumn
  have columnFits :
      ∀ column ∈ columns, (rows.map fun row => countOf row column).sum < Nat.pow 2 40 := by
    intro column isColumn
    refine (List.sum_le_sum fun row _ => ?_).trans_lt small
    exact List.single_le_sum (fun _ _ => Nat.zero_le _) _ (mem_map_of_mem isColumn)
  have totals :
      lineSum rows (fun row => lineSum columns fun column => .ofNat (countOf row column)) =
        .ofNat (rows.map fun row => (columns.map (countOf row)).sum).sum := by
    rw [← lineSum_ofNat small, lineSum, lineSum]
    congr 1
    apply map_congr_left
    intro row isRow
    rw [lineSum_ofNat (rowFits row isRow)]
  rw [exists_mem_figures_iff, totals]
  rintro (⟨row, isRow, column, isColumn, outsized⟩ | ⟨row, isRow, outsized⟩ |
    ⟨column, isColumn, outsized⟩ | outsized)
  · exact (hundredths_ofNat (cellFits row isRow column isColumn)).1 outsized
  · rw [lineSum_ofNat (rowFits row isRow)] at outsized
    exact (hundredths_ofNat (rowFits row isRow)).1 outsized
  · rw [lineSum_ofNat (columnFits column isColumn)] at outsized
    exact (hundredths_ofNat (columnFits column isColumn)).1 outsized
  · exact (hundredths_ofNat small).1 outsized

end Pivot

/-- A pivot that counts what can be read, of a table with less than `2 ^ 40` rows, never fails. -/
theorem exists_createPivot_of_counts
    {settings : Settings}
    {config : PivotConfig}
    {table : Table}
    (counts : config.Counts)
    (twoDecimals : settings.pivotDecimals = 2)
    (few : table.rows.length < Nat.pow 2 40)
    (readable :
      ∀ row ∈ table.rows, ∃ number, Pivot.numericForm config.valueField row = .ok number) :
    ∃ result, createPivot settings config table = .ok result := by
  refine (createPivot_overflowsIff_of_readable readable twoDecimals).answers ?_
  rw [Table.pivotFigures]
  cases Pivot.chosen config.rowField with
  | none =>
      simp
  | some rowField =>
      have areCounts :
          (fun row column =>
              Pivot.aggregateOf config.aggregation.apply
                (Pivot.scan config rowField table.rows row column)) =
            fun row column =>
              .ofNat (Pivot.countAt config rowField table.rows row column) := by
        funext row column
        have below : Pivot.countAt config rowField table.rows row column < Nat.pow 2 53 :=
          countP_le_length.trans_lt (few.trans (by decide))
        exact Pivot.aggregateOf_scan counts below
      dsimp only
      rw [areCounts]
      apply Pivot.not_isOutsized_of_counts
      rw [Pivot.sum_countAt (Pivot.nodup_sortedKeys _)
        (fun counted member => Pivot.mem_sortedKeys.mpr (mem_map_of_mem member))
        (Pivot.nodup_sortedKeys _)
        fun counted member => Pivot.mem_sortedKeys.mpr (mem_map_of_mem member)]
      exact countP_le_length.trans_lt few

/-! ## The rows of a cell -/

/-- A missing cell shows nothing. -/
theorem Cell.display_of_isMissing
    {cell : Cell}
    (isMissing : cell.isMissing = true) :
    cell.display = "" := by
  cases cell with
  | null =>
      rfl
  | float value =>
      cases value with
      | nan =>
          rfl
      | infinite negative | finite negative significand exponent canonical =>
          cases isMissing
  | bool value | int value | text value | date value | moment value =>
      cases isMissing

/-- A key that is neither empty nor the one of missing cells is the text that its cells show. -/
theorem Pivot.keyOf_eq_iff
    {cell : Cell}
    {key : String}
    (notEmpty : key ≠ "")
    (notMissing : key ≠ emptyKey) :
    keyOf cell = key ↔ cell.display = key := by
  rw [keyOf]
  split
  · next isMissing =>
      rw [Cell.display_of_isMissing isMissing]
      exact iff_of_false notMissing.symm notEmpty.symm
  · rfl

namespace FilterNode

/-- The filter that wants two fields to be given texts. -/
def bothAre (ids : Nat → String) (firstField first secondField second : String) : FilterNode :=
  .group (ids 0) .all
    [ .condition
        { id := ids 1, field := some firstField, operator := some "is", value := .text first },
      .condition
        { id := ids 2, field := some secondField, operator := some "is", value := .text second } ]

/-- When case counts, a row meets the filter if its cells show the texts. -/
theorem evaluate_bothAre
    {firstField secondField : String}
    (namesFirst : firstField ≠ "")
    (namesSecond : secondField ≠ "")
    (ids : Nat → String)
    (first second : String)
    (row : Row) :
    evaluate true row (bothAre ids firstField first secondField second) =
      .ok
        { holds :=
            (row.cell firstField).display == first &&
              (row.cell secondField).display == second } := by
  have isNamed : Operator.ofName? "is" = some (.onText .is) := rfl
  rw [bothAre, evaluate_group_of_answers .all (cons_ne_nil _ _)
    (.cons (evaluate_comparison isNamed nofun (ids 1) (.text first))
      (.cons (evaluate_comparison isNamed nofun (ids 2) (.text second)) .nil))]
  have shown (text : String) : (Cell.text text).display = text := rfl
  simp [Logic.combineMembers, TextOperator.holds, folded, shown,
    beq_eq_false_iff_ne.mpr namesFirst, beq_eq_false_iff_ne.mpr namesSecond]

end FilterNode

/-- Filtering by two keys keeps the rows with these keys. -/
theorem filterRows_bothAre
    {firstField secondField : String}
    (namesFirst : firstField ≠ "")
    (namesSecond : secondField ≠ "")
    (ids : Nat → String)
    (first second : String)
    (table : Table) :
    filterRows true (.bothAre ids firstField first secondField second) table =
      .ok
        (table.derive
          (table.rows.filter fun row =>
            (row.cell firstField).display == first &&
              (row.cell secondField).display == second), 0) := by
  have kept := keepRows_of_answers fun row (_ : row ∈ table.rows) =>
    FilterNode.evaluate_bothAre namesFirst namesSecond ids first second row
  rw [filterRows, kept]
  rfl

/-- The pivot counts the rows of a table, whatever their cells are. -/
structure PivotConfig.CountsRows (config : PivotConfig) (rowField columnField : String) : Prop where
  byRow : Pivot.chosen config.rowField = some rowField
  byColumn : Pivot.chosen config.columnField = some columnField
  noValue : Pivot.chosen config.valueField = none
  sumOrCount : config.aggregation = .sum ∨ config.aggregation = .count

namespace PivotConfig.CountsRows

variable
    {config : PivotConfig}
    {rowField columnField : String}
    (countsRows : config.CountsRows rowField columnField)

include countsRows

theorem counts :
    config.Counts :=
  countsRows.sumOrCount.elim (fun isSum => .inr ⟨isSum, countsRows.noValue⟩) .inl

theorem readable
    (row : Row) :
    ∃ number, Pivot.numericForm config.valueField row = .ok number := by
  rw [Pivot.numericForm, countsRows.noValue]
  exact ⟨_, rfl⟩

theorem contributes
    (row : Row) :
    Pivot.contributes config.valueField row = true := by
  simp [Pivot.contributes, Pivot.contribution?, Pivot.numericForm, countsRows.noValue,
    Except.toOption]

/-- A cell counts the rows that show its keys. -/
theorem countAt_eq
    (rows : List Row)
    {row column : String}
    (rowShows : row ≠ "" ∧ row ≠ Pivot.emptyKey)
    (columnShows : column ≠ "" ∧ column ≠ Pivot.emptyKey) :
    Pivot.countAt config rowField rows row column =
      (rows.filter fun shown =>
        (shown.cell rowField).display == row &&
          (shown.cell columnField).display == column).length := by
  rw [Pivot.countAt, ← countP_eq_length_filter]
  apply countP_congr
  intro shown _
  have columnKey :
      Pivot.columnKey config.columnField shown = Pivot.keyOf (shown.cell columnField) := by
    rw [Pivot.columnKey, countsRows.byColumn]
  simp [countsRows.contributes, columnKey, Pivot.rowKey,
    Pivot.keyOf_eq_iff rowShows.1 rowShows.2, Pivot.keyOf_eq_iff columnShows.1 columnShows.2]

end PivotConfig.CountsRows

theorem Pivot.ne_empty_of_chosen
    {field : Option String}
    {name : String}
    (isChosen : chosen field = some name) :
    name ≠ "" := by
  obtain ⟨-, notEmpty⟩ := Option.filter_eq_some_iff.mp isChosen
  exact of_decide_eq_true notEmpty

/--
A pivot that counts the rows of a table by two fields can be drilled into. It can always be made,
and each of its cells whose keys are neither empty nor the key of missing cells is the number of the
rows that are kept by the filter that wants the two fields to be the keys.
-/
theorem cells_count_filtered_rows
    (settings : Settings)
    (config : PivotConfig)
    (table : Table)
    (rowField columnField : String)
    (countsRows : config.CountsRows rowField columnField)
    (twoDecimals : settings.pivotDecimals = 2)
    (few : table.rows.length < Nat.pow 2 40) :
    ∃ result, createPivot settings config table = .ok result ∧
      ∀ row ∈ result.rows, ∀ column ∈ result.columns,
        row ≠ "" ∧ row ≠ Pivot.emptyKey → column ≠ "" ∧ column ≠ Pivot.emptyKey →
          ∀ ids : Nat → String, ∃ kept amount,
            filterRows true (.bothAre ids rowField row columnField column) table = .ok (kept, 0) ∧
              result.amountAt? row column = some amount ∧ amount.IsCount kept.rows.length := by
  obtain ⟨result, created⟩ :=
    exists_createPivot_of_counts countsRows.counts twoDecimals few fun row _ =>
      countsRows.readable row
  refine ⟨result, created, fun row isRow column isColumn rowShows columnShows ids => ?_⟩
  have kept :=
    filterRows_bothAre (Pivot.ne_empty_of_chosen countsRows.byRow)
      (Pivot.ne_empty_of_chosen countsRows.byColumn) ids row column table
  have notEmpty : table.rows ≠ [] := by
    intro noRows
    rw [createPivot_of_no_rows noRows] at created
    cases created
    cases isRow
  rw [createPivot, createPivotWith_eq_ok_iff_isScan countsRows.byRow notEmpty, twoDecimals]
    at created
  obtain ⟨amount, found, isCount⟩ :=
    (created.2.isTally countsRows.counts few).cell row isRow column isColumn
  rw [countsRows.countAt_eq table.rows rowShows columnShows] at isCount
  exact ⟨_, amount, kept, found, isCount⟩

namespace Pivot.Sample

/-- Years and answers in various forms, and a visit of which nothing is known. -/
def visits : Table :=
  .ofRows (some "visits")
    [ .ofList [("year", .text "2023"), ("paid", .text "false")],
      .ofList [("year", .int 2024), ("paid", .text "true")],
      .ofList [("year", .float (.ofNat 2024)), ("paid", .bool true)],
      .ofList [("paid", .null)] ]

/-- How many visits there were in each year, paid or not. -/
def byYear : PivotConfig where
  rowField := some "year"
  columnField := some "paid"
  aggregation := .count

/-- The numbers of visits; the unknown one has a row and a column of its own. -/
def visitsByYear : PivotResult where
  rows := ["(Empty)", "2023", "2024"]
  columns := ["(Empty)", "false", "true"]
  cells :=
    .ofList
      [ ("(Empty)",
          .ofList [("(Empty)", .ofCount 1), ("false", .ofCount 0), ("true", .ofCount 0)]),
        ("2023",
          .ofList [("(Empty)", .ofCount 0), ("false", .ofCount 1), ("true", .ofCount 0)]),
        ("2024",
          .ofList [("(Empty)", .ofCount 0), ("false", .ofCount 0), ("true", .ofCount 2)]) ]
  rowTotals := .ofList [("(Empty)", .ofCount 1), ("2023", .ofCount 1), ("2024", .ofCount 2)]
  columnTotals :=
    .ofList [("(Empty)", .ofCount 1), ("false", .ofCount 1), ("true", .ofCount 2)]
  grandTotal := .ofCount 4

theorem byYear_countsRows :
    byYear.CountsRows "year" "paid" :=
  ⟨rfl, rfl, rfl, .inr rfl⟩

theorem createPivot_visits :
    createPivot {} byYear visits = .ok visitsByYear := by
  have years :
      sortedKeys ["2023", "2024", "2024", "(Empty)"] = ["(Empty)", "2023", "2024"] := by
    refine (eq_sortedKeys_iff.mpr ⟨by decide, fun key => ?_⟩).symm
    simp only [mem_cons, not_mem_nil]
    tauto
  have answers :
      sortedKeys ["false", "true", "true", "(Empty)"] = ["(Empty)", "false", "true"] := by
    refine (eq_sortedKeys_iff.mpr ⟨by decide, fun key => ?_⟩).symm
    simp only [mem_cons, not_mem_nil]
    tauto
  have rowKeys :
      (visits.rows.map (readEntry byYear "year")).map Entry.row =
        ["2023", "2024", "2024", "(Empty)"] := by
    decide +kernel
  have columnKeys :
      (visits.rows.map (readEntry byYear "year")).map Entry.column =
        ["false", "true", "true", "(Empty)"] := by
    decide +kernel
  rw [createPivot, createPivotWith_eq_ok_iff byYear_countsRows.byRow (by decide)]
  refine ⟨fun row _ => byYear_countsRows.readable row, ?_⟩
  rw [ofEntries, rowKeys, columnKeys, years, answers]
  decide +kernel

/-- The two visits that were paid in 2024 are found by the filter, though their cells differ. -/
theorem visits_of_cell :
    byYear.CountsRows "year" "paid" ∧
      ({} : Settings).pivotDecimals = 2 ∧
      visits.rows.length < Nat.pow 2 40 ∧
      createPivot {} byYear visits = .ok visitsByYear ∧
      visitsByYear.amountAt? "2024" "true" = some (.ofCount 2) ∧
      ∃ kept amount,
        filterRows true (.bothAre (fun _ => "n") "year" "2024" "paid" "true") visits =
            .ok (kept, 0) ∧
          visitsByYear.amountAt? "2024" "true" = some amount ∧
            amount.IsCount kept.rows.length := by
  have few : visits.rows.length < Nat.pow 2 40 := by decide
  obtain ⟨result, isResult, counted⟩ :=
    cells_count_filtered_rows {} byYear visits "year" "paid" byYear_countsRows rfl few
  rw [createPivot_visits] at isResult
  cases isResult
  exact ⟨byYear_countsRows, rfl, few, createPivot_visits, by decide +kernel,
    counted "2024" (by decide) "true" (by decide) (by decide) (by decide) fun _ => "n"⟩

end Pivot.Sample

end Tabular
