import Tabular.Proofs.Analysis.Grid
import Tabular.Proofs.Analysis.Quality

namespace Tabular

open Binary64

/-!
# Analyses of texts

A table of texts always has types and kinds. Its statistics, totals, pivots and reports are there as
well, however large or small the numbers in its texts are, as long as the figures that an analysis
rounds to two decimals stay a hundredfold below the limit of the binary64 range; a greater figure
makes the analysis overflow.
-/

namespace Table

/-- Every analysis of the table overflows exactly when a figure that it rounds is outsized. -/
structure OverflowsWhereOutsized (table : Table) (types : Assoc ColumnType) : Prop where
  columnStats :
    ∀ column, (table.columnStats column).OverflowsIff
      (∃ figure ∈ Statistics.figures (table.readings column), figure.IsOutsized)
  columnSums :
    (table.columnSums {}).OverflowsIff
      (∃ column ∈ table.columns,
        types.find? column = some .number ∧ (table.runningSum column).IsOutsized)
  createPivot :
    ∀ config, (createPivot {} config table).OverflowsIff
      (∃ figure ∈ table.pivotFigures config, figure.IsOutsized)
  analyzeQuality :
    (analyzeQuality {} none table).OverflowsIff
      (∃ column ∈ table.columns, types.find? column = some .number ∧
        ∃ bound ∈ Quality.defaultBounds (table.readings column), bound.IsOutsized)

end Table

/--
With the default settings a table of texts has types, and kinds too as long as the number of its
rows is in the range of binary64 numbers. Each analysis answers unless a figure that it rounds is
outsized; then it overflows.
-/
theorem analyses_overflow_where_outsized
    (table : Table)
    (textual : table.IsTextual) :
    ∃ types,
      table.types {} = .ok types ∧
        ((∀ rows, table.kindSource = .inferred rows → rows.length < intLimit) →
          ∃ kinds, table.smartTypes {} = .ok kinds) ∧
          table.OverflowsWhereOutsized types := by
  obtain ⟨types, areTypes⟩ := textual.exists_types {}
  exact ⟨types, areTypes, table.exists_smartTypes {},
    { columnStats := table.columnStats_overflowsIff textual.rows
      columnSums := table.columnSums_overflowsIff textual.rows areTypes
      createPivot := createPivot_overflowsIff textual.rows rfl
      analyzeQuality := analyzeQuality_overflowsIff textual.rows areTypes }⟩

namespace Table.Giants

/-- Four times the same number, in range but not its hundredfold. -/
def table : Table :=
  .ofRows none (List.replicate 4 (.ofList [("a", .text "1e307")]))

/-- The numbers by themselves. -/
def config : PivotConfig where
  rowField := some "a"
  valueField := some "a"

/-- The number in the texts. -/
def number : Binary64 := Decimal.toBinary64 false 1 307

theorem isTextual : table.IsTextual := by
  have rowsTextual : ∀ row ∈ table.rows, row.IsTextual := by
    intro row member
    rw [List.eq_of_mem_replicate member]
    exact .of_values (by decide)
  refine ⟨rowsTextual, ?_⟩
  rintro rows ⟨⟩
  exact rowsTextual

theorem readings_eq : table.readings "a" = List.replicate 4 number := by
  decide +kernel

theorem ascending_eq :
    Summation.ascending (List.replicate 4 number) = List.replicate 4 number :=
  List.mergeSort_of_pairwise (by decide +kernel)

/-- The sample has types and kinds, and every analysis of it overflows. -/
theorem analyses_overflow :
    table.IsTextual ∧
      (∃ types kinds, table.types {} = .ok types ∧ table.smartTypes {} = .ok kinds) ∧
      table.columnStats "a" = .error .overflow ∧
      table.columnSums {} = .error .overflow ∧
      createPivot {} config table = .error .overflow ∧
      analyzeQuality {} none table = .error .overflow := by
  obtain ⟨types, areTypes, exists_kinds, overflows⟩ :=
    analyses_overflow_where_outsized table isTextual
  obtain ⟨kinds, areKinds⟩ := exists_kinds (by rintro rows ⟨⟩; decide +kernel)
  have isNumber : types.find? "a" = some .number := by
    have computed : (table.types {}).map (fun types => types.find? "a") = .ok (some .number) := by
      decide +kernel
    rw [areTypes] at computed
    exact Except.ok.inj computed
  refine ⟨isTextual, ⟨types, kinds, areTypes, areKinds⟩, ?_, ?_, ?_, ?_⟩
  · refine (overflows.columnStats "a").overflows ⟨number, ?_, by decide +kernel⟩
    have isLeast : Summation.least (List.replicate 4 number) = number := by decide +kernel
    rw [readings_eq, Statistics.figures, if_neg (by decide), isLeast]
    simp
  · exact overflows.columnSums.overflows ⟨"a", by decide +kernel, isNumber, by decide +kernel⟩
  · refine (overflows.createPivot config).overflows (Pivot.exists_mem_figures_iff.mpr (.inl ?_))
    refine ⟨"1e307", ?_, "Total", ?_, by decide +kernel⟩
    · exact Pivot.mem_sortedKeys.mpr (by decide +kernel)
    · exact Pivot.mem_sortedKeys.mpr (by decide +kernel)
  · refine overflows.analyzeQuality.overflows
      ⟨"a", by decide +kernel, isNumber, number, ?_, by decide +kernel⟩
    rw [readings_eq, Quality.defaultBounds, Quality.bounds, ascending_eq]
    decide +kernel

end Table.Giants

end Tabular
