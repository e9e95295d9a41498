import Tabular.Number.Summation
import Tabular.Table.Basic

namespace Tabular

/-!
# Pivot tables

A pivot groups the rows of a table by one or two columns and sums up the numbers of a third, or the
rows themselves, in each group. Keys are display texts; a missing cell has a key of its own. Every
cell is rounded, and the totals are sums of the rounded cells, rounded again.
-/

/-- How the numbers of a group are summed up. -/
inductive Aggregation where
  | sum
  | average
  | count
  | least
  | greatest
  | distinct
deriving DecidableEq, Inhabited

namespace Aggregation

/-- The name of an aggregation. -/
def name : Aggregation → String
  | .sum => "sum"
  | .average => "avg"
  | .count => "count"
  | .least => "min"
  | .greatest => "max"
  | .distinct => "countDistinct"

/-- All aggregations. -/
def all : List Aggregation :=
  [.sum, .average, .count, .least, .greatest, .distinct]

/-- The aggregation that a value names; any other value is a fault. -/
def ofCell (value : Cell) : Outcome Aggregation :=
  match all.find? fun aggregation => Cell.text aggregation.name == value with
  | some aggregation => .ok aggregation
  | none => .error (.config (.aggregation value))

/-- The numbers of a group summed up. -/
def apply (aggregation : Aggregation) (values : List Binary64) : Binary64 :=
  match aggregation with
  | .sum => Summation.compensated values
  | .average => (Summation.compensated values).div (Binary64.ofNat values.length)
  | .count => Binary64.ofNat values.length
  | .least => Summation.least values
  | .greatest => Summation.greatest values
  | .distinct => Binary64.ofNat (Summation.distinctCount values)

end Aggregation

/-- What a pivot groups by and sums up. -/
structure PivotConfig where
  rowField : Option String
  columnField : Option String := none
  valueField : Option String := none
  aggregation : Aggregation := .sum
deriving DecidableEq

/-- A pivot with its totals. -/
structure PivotResult where
  rows : List String := []
  columns : List String := []
  cells : Assoc (Assoc Amount) := .empty
  rowTotals : Assoc Amount := .empty
  columnTotals : Assoc Amount := .empty
  grandTotal : Amount := .whole 0
deriving DecidableEq

namespace Pivot

/-- The key of a missing cell. -/
def emptyKey : String := "(Empty)"

/-- The key of totals, and of the only column when there is no column field. -/
def totalKey : String := "Total"

/-- The key of a cell. -/
def keyOf (cell : Cell) : String :=
  if cell.isMissing then emptyKey else cell.display

/-- A field that is chosen: an empty name is no choice. -/
def chosen (field : Option String) : Option String :=
  field.filter fun name => name ≠ ""

/-- What a row contributes: its two keys, and a number unless its cell is none. -/
structure Entry where
  row : String
  column : String
  value : Option Binary64

/-- What a row contributes to a pivot by the given row field. -/
def entryOf (config : PivotConfig) (rowField : String) (row : Row) : Outcome Entry := do
  let value ←
    match chosen config.valueField with
    | some field => (row.cell field).number?
    | none => .ok (some (Binary64.ofNat 1))
  let column :=
    match chosen config.columnField with
    | some field => keyOf (row.cell field)
    | none => totalKey
  return { row := keyOf (row.cell rowField), column, value }

/-- Texts in code-point order, each once. -/
def sortedKeys (keys : List String) : List String :=
  keys.eraseDups.mergeSort fun left right => !(right < left)

/-- The numbers of the rows that share two keys. -/
structure Group where
  row : String
  column : String
  values : List Binary64

/-- The groups with one more number, in the group of its keys or in a new one at the end. -/
def addTo (row column : String) (value : Binary64) : List Group → List Group
  | [] => [{ row, column, values := [value] }]
  | group :: rest =>
      if group.row = row ∧ group.column = column then
        { group with values := group.values ++ [value] } :: rest
      else group :: addTo row column value rest

/-- The groups with what one more row contributes; a row without a number contributes nothing. -/
def collect (groups : List Group) (entry : Entry) : List Group :=
  match entry.value with
  | some value => addTo entry.row entry.column value groups
  | none => groups

/-- The groups of all rows, in one pass. -/
def groupBy (entries : List Entry) : List Group :=
  entries.foldl collect []

/-- The aggregate of each group, by its keys. -/
def aggregates (aggregate : List Binary64 → Binary64) (groups : List Group) :
    List ((String × String) × Binary64) :=
  groups.map fun group => ((group.row, group.column), aggregate group.values)

/-- The aggregate found for two keys; zero when they have no group. -/
def aggregateAt (found : List ((String × String) × Binary64)) (row column : String) : Binary64 :=
  (found.lookup (row, column)).getD (Binary64.zero false)

/-- The map of the keys to what is found for them in turn. -/
def tabulate {α : Type} (find : String → Outcome α) (keys : List String) : Outcome (Assoc α) :=
  keys.foldlM (fun map key => (find key).map (map.insert key)) .empty

/-- The rounded sum of amounts. -/
def total (digits : Int) (amounts : List Amount) : Outcome Amount := do
  (← Amount.sum amounts).roundHalfUp digits

/-- The pivot of what the rows contribute. -/
def ofEntries
    (digits : Int)
    (aggregate : List Binary64 → Binary64)
    (entries : List Entry) :
    Outcome PivotResult := do
  let rows := sortedKeys (entries.map Entry.row)
  let columns := sortedKeys (entries.map Entry.column)
  let found := aggregates aggregate (groupBy entries)
  let cells ←
    tabulate
      (fun row =>
        tabulate
          (fun column => (aggregateAt found row column).roundHalfUp digits) columns)
      rows
  let cellAt (row column : String) : Amount :=
    (((cells.find? row).getD .empty).find? column).getD (.whole 0)
  let rowTotals ←
    tabulate (fun row => total digits (columns.map fun column => cellAt row column)) rows
  let columnTotals ←
    tabulate (fun column => total digits (rows.map fun row => cellAt row column)) columns
  let grandTotal ← total digits rowTotals.values
  return { rows, columns, cells, rowTotals, columnTotals, grandTotal }

end Pivot

/--
The pivot of a table with the given aggregate of the numbers of a group; empty without rows or
without a row field.
-/
def createPivotWith
    (settings : Settings)
    (aggregate : List Binary64 → Binary64)
    (config : PivotConfig)
    (table : Table) :
    Outcome PivotResult := do
  match Pivot.chosen config.rowField with
  | none => return {}
  | some rowField =>
      if table.isEmpty then return {}
      else
        let entries ← table.rows.mapM (Pivot.entryOf config rowField)
        Pivot.ofEntries settings.pivotDecimals aggregate entries

/-- The pivot of a table with the aggregation that its configuration names. -/
def createPivot (settings : Settings) (config : PivotConfig) (table : Table) :
    Outcome PivotResult :=
  createPivotWith settings config.aggregation.apply config table

namespace PivotResult

/-- A line of an exported pivot: a key, the cells of its row and their total. -/
def exportLine (rowField key : String) (cells : Assoc Amount) (total : Amount) : Row :=
  let line := (Assoc.empty : Row).insert rowField (.text key)
  let line := cells.entries.foldl (fun line entry => line.insert entry.1 entry.2.toCell) line
  line.insert Pivot.totalKey total.toCell

/-- A pivot as rows of a table, the last one with the totals. -/
def exportRows (result : PivotResult) (rowField : String) : List Row :=
  if result.rows.isEmpty then []
  else
    result.rows.map
        (fun key =>
          exportLine rowField key ((result.cells.find? key).getD .empty)
            ((result.rowTotals.find? key).getD (.whole 0))) ++
      [exportLine rowField Pivot.totalKey result.columnTotals result.grandTotal]

end PivotResult

end Tabular
