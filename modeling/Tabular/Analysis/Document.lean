import Tabular.Analysis.Pivot
import Tabular.Analysis.Quality
import Tabular.Analysis.Statistics
import Tabular.Json.Shape

namespace Tabular

/-!
# Analyses as documents

How pivots, quality reports and statistics are written, and how the configuration of a pivot is
read.
-/

/-! ## Pivots -/

/-- The pivot configuration that a document tells. -/
def PivotConfig.ofJson (read : Json → Cell) (document : Json) : Outcome PivotConfig := do
  let aggregation ←
    match document.member? "agg_func" with
    | some name => Aggregation.ofCell (read name)
    | none => .ok .sum
  return {
    rowField := (document.part "row_field").toText?
    columnField := (document.part "column_field").toText?
    valueField := (document.part "value_field").toText?
    aggregation }

namespace PivotResult

/-- The cells of a pivot as a document. -/
def cellsToJson (result : PivotResult) : Json :=
  result.cells.toJson (Assoc.toJson Amount.toJson)

/-- The totals of a pivot as a document. -/
def totalsToJson (result : PivotResult) : Json :=
  .object
    [("row", result.rowTotals.toJson Amount.toJson),
      ("column", result.columnTotals.toJson Amount.toJson),
      ("grand", result.grandTotal.toJson)]

/-- The members of the document of a pivot whose cells are already written. -/
def toMembers (result : PivotResult) (cells : Json) : List (String × Json) :=
  [("rows", .ofTexts result.rows), ("columns", .ofTexts result.columns), ("data", cells),
    ("totals", result.totalsToJson)]

end PivotResult

/-! ## Quality -/

/-- The bounds of outliers as a document. -/
def OutlierBounds.toJson (bounds : OutlierBounds) : Json :=
  .object [("lower", bounds.lower.toJson), ("upper", bounds.upper.toJson)]

/-- The outliers of a column as a document. -/
def OutlierInfo.toJson (outliers : OutlierInfo) : Json :=
  .object
    [("count", .int outliers.count), ("indices", .ofNats outliers.indices),
      ("bounds", .ofOption OutlierBounds.toJson outliers.bounds)]

/-- The quality of a column as a document, where `count` tells how missing cells are counted. -/
def ColumnQuality.toJson (count : Nat → Amount) (quality : ColumnQuality) : Json :=
  .object
    [("missing",
        .object
          [("count", (count quality.missingCount).toJson),
            ("percent", quality.missingPercent.toJson)]),
      ("duplicates", .object [("count", .int quality.duplicateCount)]),
      ("outliers", quality.outliers.toJson), ("score", quality.score.toJson)]

/-- A quality report as a document, where `count` tells how missing cells are counted. -/
def QualityReport.toJson (count : Nat → Amount) (report : QualityReport) : Json :=
  .object
    [("overall", report.overall.toJson), ("label", .text report.label),
      ("row_duplicates", .int report.rowDuplicates), ("total_rows", .int report.totalRows),
      ("columns", report.columns.toJson (ColumnQuality.toJson count))]

/-! ## Statistics -/

/-- The members of the document of the statistics of a column. -/
def ColumnStats.toMembers (stats : ColumnStats) : List (String × Json) :=
  [("count", .int stats.count), ("sum", stats.sum.toJson), ("min", stats.least.toJson),
    ("max", stats.greatest.toJson), ("avg", stats.average.toJson),
    ("median", stats.median.toJson), ("mode", .ofOption Amount.toJson stats.mode),
    ("std_dev", .ofOption Amount.toJson stats.deviation),
    ("distribution", .ofNats stats.distribution)]

end Tabular
