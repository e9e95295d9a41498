import Tabular.Cell.Value
import Tabular.Number.Amount
import Tabular.Row

namespace Tabular

/-!
# Frames and repeated rows

A frame is a rectangle of cells: the rows of a table restricted to some columns. A column that holds
nothing but numbers and gaps is made uniform: when gaps or binary64 numbers are among its integers,
the integers become binary64 numbers too. Integers of more than 64 bits keep a column as it is,
unless a gap comes before them. Rows repeat one another when their cells are the same values.
-/

namespace Frame

/-- What the cells of a column have shown so far. -/
structure ColumnScan where
  /-- A cell is neither a number nor a gap, or the integers do not fit together. -/
  mixed : Bool := false
  /-- Nothing further is looked at. -/
  stopped : Bool := false
  gap : Bool := false
  real : Bool := false
  negative : Bool := false
  /-- An integer beyond the signed 64-bit range has been seen. -/
  unsigned : Bool := false

namespace ColumnScan

/-- The scan after an integer; one beyond the binary64 range is a fault. -/
def integer (scan : ColumnScan) (value : Int) : Outcome ColumnScan := do
  let _ ← Amount.realOfInt value
  if scan.gap then .ok scan
  else
    let scan :=
      { scan with
        negative := scan.negative || (-(Nat.pow 2 63 : Int) ≤ value && value < 0)
        unsigned := scan.unsigned || (Nat.pow 2 63 ≤ value && value < Nat.pow 2 64) }
    if (scan.negative && scan.unsigned) || value < -(Nat.pow 2 63 : Int) ||
        Nat.pow 2 64 ≤ value then
      .ok { scan with mixed := true, stopped := true }
    else .ok scan

/-- The scan after one more cell. -/
def step (scan : ColumnScan) (cell : Cell) : Outcome ColumnScan :=
  if scan.stopped then .ok scan
  else
    match cell with
    | .null => .ok { scan with gap := true }
    | .float _ => .ok { scan with real := true }
    | .int value => scan.integer value
    | .bool _ => .ok { scan with mixed := true }
    | .moment _ => .ok { scan with mixed := true }
    | _ => .ok { scan with mixed := true, stopped := true }

end ColumnScan

/-- A cell without the not-a-number. -/
def filledCell (cell : Cell) : Cell :=
  if cell.isMissing then .null else cell

/-- An integer as a binary64 number; other cells stay. -/
def realCell : Cell → Cell
  | .int value => .float (Binary64.ofInt value)
  | cell => cell

/-- The cells of a column, made uniform. -/
def uniformColumn (cells : List Cell) : Outcome (List Cell) := do
  let scan ← cells.foldlM ColumnScan.step {}
  let cells := if !scan.mixed && (scan.gap || scan.real) then cells.map realCell else cells
  .ok (cells.map filledCell)

/-- The lines of a rectangle that is given by its columns. -/
def linesOf (count : Nat) (columns : List (List Cell)) : List (List Cell) :=
  (List.range count).map fun index => columns.map fun column => column[index]?.getD .null

/-- The cells of the rows in the given columns. -/
def ofRows (rows : List Row) (columns : List String) : Outcome (List (List Cell)) := do
  let cells ← columns.mapM fun column => uniformColumn (rows.map fun row => row.cell column)
  .ok (linesOf rows.length cells)

/-- The places of the lines that repeat an earlier one; `earlier` are the lines before. -/
def repeatedFrom (earlier : List (List Cell)) : Nat → List (List Cell) → List Nat
  | _, [] => []
  | index, line :: rest =>
      if earlier.any (Cell.sameValues line) then index :: repeatedFrom earlier (index + 1) rest
      else repeatedFrom (line :: earlier) (index + 1) rest

end Frame

/-- The places of the rows that repeat an earlier row in the given columns. -/
def duplicateIndices (rows : List Row) (columns : List String) : Outcome (List Nat) := do
  if rows.isEmpty || columns.isEmpty then .ok []
  else .ok (Frame.repeatedFrom [] 0 (← Frame.ofRows rows columns))

end Tabular
