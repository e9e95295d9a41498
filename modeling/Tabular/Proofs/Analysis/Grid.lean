import Tabular.Proofs.Analysis.Scan
import Tabular.Proofs.Analysis.Totals
import Tabular.Proofs.Table.Description

namespace Tabular

open Binary64

/-!
# Pivots of texts

A pivot rounds the value of every cell of its grid, the sums of the rounded cells of every line, and
the sum of the rounded totals. It overflows exactly when one of these numbers is outsized; reading
the numbers of a table of texts is never a fault.
-/

namespace Pivot

variable {keys rows columns : List String} {valueAt : String → String → Binary64}

/-- The sum of the rounded values of a line. -/
def lineSum (others : List String) (valueOf : String → Binary64) : Binary64 :=
  Summation.running (others.map fun other => (valueOf other).hundredths)

/-- The numbers that a grid rounds: its values, the sums of its lines and the sum of its totals. -/
def figures (rows columns : List String) (valueAt : String → String → Binary64) :
    List Binary64 :=
  (rows.flatMap fun row => columns.map (valueAt row)) ++
    (rows.map fun row => lineSum columns (valueAt row)) ++
      (columns.map fun column => lineSum rows fun row => valueAt row column) ++
        [lineSum rows fun row => lineSum columns (valueAt row)]

theorem exists_mem_figures_iff
    {holds : Binary64 → Prop} :
    (∃ figure ∈ figures rows columns valueAt, holds figure) ↔
      (∃ row ∈ rows, ∃ column ∈ columns, holds (valueAt row column)) ∨
        (∃ row ∈ rows, holds (lineSum columns (valueAt row))) ∨
          (∃ column ∈ columns, holds (lineSum rows fun row => valueAt row column)) ∨
            holds (lineSum rows fun row => lineSum columns (valueAt row)) := by
  simp [figures, or_and_right, exists_or, and_assoc]

/-! ## Filling a grid -/

theorem tabulate_overflowsIff
    {α : Type}
    {find : String → Outcome α}
    {causeOf : String → Prop}
    (finds : ∀ key ∈ keys, (find key).OverflowsIff (causeOf key)) :
    (tabulate find keys).OverflowsIff (∃ key ∈ keys, causeOf key) := by
  rw [tabulate]
  exact Outcome.OverflowsIff.foldlM (fun key isKey map => (finds key isKey).map (map.insert key)) _

/-- The total of a line of rounded values is their sum, rounded again. -/
theorem total_line
    {others : List String}
    {amountOf : String → Amount}
    {valueOf : String → Binary64}
    (rounded : ∀ other ∈ others, amountOf other = .real (valueOf other).hundredths) :
    total 2 (others.map amountOf) = (lineSum others valueOf).roundHalfUp 2 := by
  rw [lineSum, ← total_map_real, List.map_map]
  exact congrArg (total 2) (List.map_congr_left rounded)

/-- Totals overflow where the sum of the rounded values of a line is outsized. -/
theorem tabulate_total_overflowsIff
    {others : List String}
    {amountAt : String → String → Amount}
    (rounded : ∀ key ∈ keys, ∀ other ∈ others,
      amountAt key other = .real (valueAt key other).hundredths) :
    (tabulate (fun key => total 2 (others.map (amountAt key))) keys).OverflowsIff
      (∃ key ∈ keys, (lineSum others (valueAt key)).IsOutsized) := by
  refine tabulate_overflowsIff fun key isKey => ?_
  rw [total_line (rounded key isKey)]
  exact roundHalfUp_two_overflowsIff _

variable {others : List String}

/-- A cell of a filled grid has the hundredths of the value that belongs there. -/
theorem amount_of_tabulate_cells
    {cells : Assoc (Assoc Amount)}
    (distinct : keys.Nodup)
    (distinctOthers : others.Nodup)
    (areCells :
      tabulate (fun key => tabulate (fun other => (valueAt key other).roundHalfUp 2) others)
        keys = .ok cells) :
    ∀ key ∈ keys, ∀ other ∈ others,
      (((cells.find? key).getD .empty).find? other).getD (.whole 0) =
        .real (valueAt key other).hundredths := by
  obtain ⟨-, -, filled⟩ := (tabulate_cells_eq_ok_iff distinct distinctOthers).mp areCells
  intro key isKey other isOther
  obtain ⟨amount, isAmount, found⟩ := filled key isKey other isOther
  obtain ⟨line, isLine, present⟩ := Option.bind_eq_some_iff.mp found
  rw [isLine, Option.getD_some, present, Option.getD_some,
    (eq_hundredths_of_roundHalfUp_two isAmount).2]

/-- The totals of lines are the hundredths of the sums of their rounded values. -/
theorem values_of_tabulate_total
    {amountAt : String → String → Amount}
    {totals : Assoc Amount}
    (distinct : keys.Nodup)
    (rounded : ∀ key ∈ keys, ∀ other ∈ others,
      amountAt key other = .real (valueAt key other).hundredths)
    (areTotals : tabulate (fun key => total 2 (others.map (amountAt key))) keys = .ok totals) :
    totals.values = keys.map fun key => .real (lineSum others (valueAt key)).hundredths := by
  obtain ⟨areKeys, found⟩ := (tabulate_eq_ok_iff distinct).mp areTotals
  rw [← areKeys]
  refine Assoc.values_eq_map_keys fun key isKey => ?_
  rw [areKeys] at isKey
  obtain ⟨amount, isAmount, present⟩ := found key isKey
  rw [total_line (rounded key isKey)] at isAmount
  rw [present, (eq_hundredths_of_roundHalfUp_two isAmount).2]

/-- A pivot overflows when one of the numbers of its grid is outsized, and answers otherwise. -/
theorem ofEntries_overflowsIff
    (aggregate : List Binary64 → Binary64)
    (entries : List Entry) :
    (ofEntries 2 aggregate entries).OverflowsIff
      (∃ figure ∈ figures (sortedKeys (entries.map Entry.row))
          (sortedKeys (entries.map Entry.column))
          fun row column => aggregateOf aggregate (numbersAt row column entries),
        figure.IsOutsized) := by
  have rowsDistinct := nodup_sortedKeys (entries.map Entry.row)
  have columnsDistinct := nodup_sortedKeys (entries.map Entry.column)
  obtain ⟨valueAt, isValue⟩ :
      ∃ valueAt : String → String → Binary64, ∀ row column,
        aggregateOf aggregate (numbersAt row column entries) = valueAt row column :=
    ⟨_, fun _ _ => rfl⟩
  simp only [ofEntries, aggregateAt_groupBy, isValue]
  generalize sortedKeys (entries.map Entry.row) = rows at rowsDistinct ⊢
  generalize sortedKeys (entries.map Entry.column) = columns at columnsDistinct ⊢
  have fills :
      (tabulate
        (fun row => tabulate (fun column => (valueAt row column).roundHalfUp 2) columns)
        rows).OverflowsIff
        (∃ row ∈ rows, ∃ column ∈ columns, (valueAt row column).IsOutsized) :=
    tabulate_overflowsIff fun row _ => tabulate_overflowsIff fun column _ =>
      roundHalfUp_two_overflowsIff _
  rw [exists_mem_figures_iff]
  refine fills.bind fun cells areCells => ?_
  have rounded := amount_of_tabulate_cells rowsDistinct columnsDistinct areCells
  refine (tabulate_total_overflowsIff rounded).bind fun rowTotals areRowTotals =>
    (tabulate_total_overflowsIff fun column isColumn row isRow =>
      rounded row isRow column isColumn).bind fun columnTotals _ => ?_
  rw [values_of_tabulate_total rowsDistinct rounded areRowTotals, total_line fun _ _ => rfl]
  exact ((roundHalfUp_two_overflowsIff _).bind fun grandTotal _ => .of_ok ⟨_, rfl⟩).congr
    (iff_of_eq (or_false _))

end Pivot

/-! ## Pivots of tables -/

/-- The numbers that a pivot of the table rounds; none without a row field. -/
def Table.pivotFigures (table : Table) (config : PivotConfig) : List Binary64 :=
  match Pivot.chosen config.rowField with
  | none => []
  | some rowField =>
      Pivot.figures (Pivot.sortedKeys (table.rows.map (Pivot.rowKey rowField)))
        (Pivot.sortedKeys (table.rows.map (Pivot.columnKey config.columnField)))
        fun row column =>
          Pivot.aggregateOf config.aggregation.apply
            (Pivot.scan config rowField table.rows row column)

theorem Row.IsTextual.exists_numericForm
    {row : Row}
    (textual : row.IsTextual)
    (valueField : Option String) :
    ∃ number, Pivot.numericForm valueField row = .ok number := by
  rw [Pivot.numericForm]
  cases Pivot.chosen valueField with
  | none =>
      exact ⟨_, rfl⟩
  | some field =>
      exact ⟨_, (textual field).number?_eq⟩

/-- A table whose numbers can be read has every pivot that rounds no outsized number. -/
theorem createPivot_overflowsIff_of_readable
    {table : Table}
    {config : PivotConfig}
    (readable :
      ∀ row ∈ table.rows, ∃ number, Pivot.numericForm config.valueField row = .ok number)
    {settings : Settings}
    (twoDecimals : settings.pivotDecimals = 2) :
    (createPivot settings config table).OverflowsIff
      (∃ figure ∈ table.pivotFigures config, figure.IsOutsized) := by
  cases isChosen : Pivot.chosen config.rowField with
  | none =>
      simp only [createPivot, createPivotWith, Table.pivotFigures, isChosen]
      exact (Outcome.OverflowsIff.of_ok ⟨_, rfl⟩).congr (by simp)
  | some rowField =>
      simp only [createPivot, createPivotWith, Table.pivotFigures, isChosen, twoDecimals]
      split
      · next isEmpty =>
          have noRows : table.rows = [] := List.isEmpty_iff.mp isEmpty
          have zeroFits : ¬(zero false).IsOutsized := by decide +kernel
          refine (Outcome.OverflowsIff.of_ok ⟨_, rfl⟩).congr (iff_of_false id ?_)
          rw [Pivot.exists_mem_figures_iff, noRows]
          simp [Pivot.sortedKeys, Pivot.lineSum, Summation.running, zeroFits]
      · have overflows := Pivot.ofEntries_overflowsIff config.aggregation.apply
          (table.rows.map (Pivot.readEntry config rowField))
        simp only [List.map_map, Pivot.numbersAt_map_readEntry] at overflows
        rw [Pivot.mapM_entryOf_eq_ok_iff.mpr ⟨readable, rfl⟩]
        exact overflows

/-- A table of texts has every pivot of which no number to be rounded is outsized. -/
theorem createPivot_overflowsIff
    {table : Table}
    (textual : ∀ row ∈ table.rows, row.IsTextual)
    {settings : Settings}
    (twoDecimals : settings.pivotDecimals = 2)
    (config : PivotConfig) :
    (createPivot settings config table).OverflowsIff
      (∃ figure ∈ table.pivotFigures config, figure.IsOutsized) :=
  createPivot_overflowsIff_of_readable
    (fun row member => (textual row member).exists_numericForm config.valueField) twoDecimals

end Tabular
