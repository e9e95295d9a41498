import Tabular.Number.Summation
import Tabular.Table.Basic
import Tabular.Table.Frame

namespace Tabular

/-!
# Quality of tables

A quality report counts, for every column, the cells that are missing, that repeat a value or that
lie far from the other numbers, and turns the counts into a score from 0 to 100. The score of the
table is the mean of the scores of its columns before rounding.
-/

/-- The bounds beyond which numbers are outliers, rounded. -/
structure OutlierBounds where
  lower : Amount
  upper : Amount
deriving DecidableEq

/-- The outliers of a column. -/
structure OutlierInfo where
  indices : List Nat := []
  bounds : Option OutlierBounds := none
deriving DecidableEq

/-- The number of outliers. -/
def OutlierInfo.count (outliers : OutlierInfo) : Nat :=
  outliers.indices.length

/-- What a report says about one column. -/
structure ColumnQuality where
  missingCount : Nat
  missingPercent : Amount
  duplicateCount : Nat
  outliers : OutlierInfo
  score : Amount

/-- What a report says about a table. -/
structure QualityReport where
  overall : Amount := .whole 0
  rowDuplicates : Nat := 0
  totalRows : Nat := 0
  columns : Assoc ColumnQuality := .empty

namespace Quality

/-- The word for a score. -/
def label (score : Amount) : String :=
  let reaches (least : Nat) : Bool :=
    match score with
    | .whole value => (least : Int) ≤ value
    | .real value => (Binary64.ofNat least).le value
  if reaches 90 then "Excellent"
  else if reaches 80 then "Good"
  else if reaches 60 then "Fair"
  else "Poor"

/-- The places and numbers of the cells that are numbers. -/
def numbered : Nat → List Cell → Outcome (List (Nat × Binary64))
  | _, [] => .ok []
  | index, cell :: rest => do
      let number ← cell.number?
      let others ← numbered (index + 1) rest
      match number with
      | some number => return (index, number) :: others
      | none => return others

/-- The number at a place of a sorted list. -/
def quantile (ordered : List Binary64) (place : Nat) : Outcome Binary64 :=
  match ordered[place]? with
  | some value => .ok value
  | none => .error .outOfRange

/-- A multiple of a number. -/
def multiple (factor : Amount) (value : Binary64) : Outcome Binary64 := do
  (← factor.mul (.real value)).toReal

/--
The outliers among numbers with their places: those further from the quartiles than the multiple of
the distance between the quartiles. Too few numbers have none.
-/
def outliersAmong (least : Int) (multiplier : Amount) (values : List (Nat × Binary64)) :
    Outcome OutlierInfo := do
  if (values.length : Int) < least then return {}
  let ordered := Summation.ascending (values.map Prod.snd)
  let first ← quantile ordered (ordered.length / 4)
  let third ← quantile ordered (3 * ordered.length / 4)
  let reach ← multiple multiplier (third.sub first)
  let lower := first.sub reach
  let upper := third.add reach
  let indices :=
    (values.filter fun entry => entry.2.lt lower || upper.lt entry.2).map Prod.fst
  return {
    indices
    bounds := some { lower := ← lower.roundHalfUp 2, upper := ← upper.roundHalfUp 2 } }

/-- The outliers among cells. -/
def findOutliers (settings : Settings) (cells : List Cell) : Outcome OutlierInfo := do
  outliersAmong settings.outlierMinValues settings.iqrMultiplier (← numbered 0 cells)

/-- The rows that repeat an earlier one, by default in the columns of the first row. -/
def findDuplicates (rows : List Row) (columns : Option (List String)) : Outcome (List Nat) :=
  duplicateIndices rows (columns.getD (columnsOf rows))

/-- A part of a total as a binary64 fraction. -/
def share (part total : Nat) : Binary64 :=
  (Binary64.ofNat part).div (Binary64.ofNat total)

/-- The score before rounding, never below zero. -/
def rawScore (missingPercent outlierShare : Binary64) : Binary64 :=
  let score :=
    ((Binary64.ofNat 100).sub missingPercent).sub (outlierShare.mul (Binary64.ofNat 50))
  if (Binary64.zero false).lt score then score else Binary64.zero false

/-- What a report says about a column with the given cells, and its score before rounding. -/
def columnQuality (settings : Settings) (columnType : Option ColumnType) (cells : List Cell) :
    Outcome (ColumnQuality × Binary64) := do
  let total := cells.length
  let filled := cells.filter fun cell => !cell.isBlank
  let missing := total - filled.length
  let distinct := (filled.map Cell.display).eraseDups.length
  let missingPercent := (share missing total).mul (Binary64.ofNat 100)
  let outliers ← if columnType = some .number then findOutliers settings cells else .ok {}
  let raw := rawScore missingPercent (share outliers.count total)
  let quality : ColumnQuality :=
    { missingCount := missing
      missingPercent := ← missingPercent.roundHalfUp 1
      duplicateCount := total - missing - distinct
      outliers
      score := ← raw.roundHalfUp 0 }
  return (quality, raw)

/-- The mean of scores, rounded; zero without any. -/
def overallScore (scores : List Binary64) : Outcome Amount := do
  match scores with
  | [] => return .whole 0
  | scores =>
      let sum ← Amount.sum (scores.map .real)
      ((← sum.toReal).div (Binary64.ofNat scores.length)).roundHalfUp 0

/-- What a report says about the columns, with their scores before rounding. -/
def columnQualities (settings : Settings) (types : Assoc ColumnType) (table : Table) :
    Outcome (List (String × ColumnQuality × Binary64)) :=
  table.columns.mapM fun column => do
    let quality ← columnQuality settings (types.find? column) (table.cells column)
    return (column, quality)

/-- The report of a table whose columns have the given types. -/
def reportFor (settings : Settings) (types : Assoc ColumnType) (table : Table) :
    Outcome QualityReport := do
  let qualities ← columnQualities settings types table
  let overall ← overallScore (qualities.map fun entry => entry.2.2)
  let duplicates ← findDuplicates table.rows (some table.columns)
  return {
    overall
    rowDuplicates := duplicates.length
    totalRows := table.rows.length
    columns := Assoc.ofList (qualities.map fun entry => (entry.1, entry.2.1)) }

end Quality

/-- The quality report of a table; `types` replace the types of the table. -/
def analyzeQuality (settings : Settings) (types : Option (Assoc ColumnType)) (table : Table) :
    Outcome QualityReport := do
  if table.isEmpty then return {}
  let types ←
    match types with
    | some types => .ok types
    | none => table.types settings
  Quality.reportFor settings types table

/-- The word for the score of a report. -/
def QualityReport.label (report : QualityReport) : String :=
  Quality.label report.overall

end Tabular
