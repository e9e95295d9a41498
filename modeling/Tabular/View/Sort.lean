import Tabular.Table.Basic
import Tabular.Text.Case

namespace Tabular

/-!
# Sorting a table

Rows are sorted by one column: two numbers by size, and any other two cells by their lower-case
display texts. Rows that compare equal keep their order in both directions.
-/

/-- The direction of a sort. -/
inductive SortDirection where
  | ascending
  | descending
deriving DecidableEq

/-- The direction that a value names. -/
def SortDirection.ofCell (value : Cell) : Outcome SortDirection :=
  if value = .text "asc" then .ok .ascending
  else if value = .text "desc" then .ok .descending
  else .error (.config (.sortDirection value))

/-- What a cell is compared by. -/
structure SortKey where
  number : Option Binary64
  text : String

namespace SortKey

/-- The key of a cell. -/
def ofCell (cell : Cell) : Outcome SortKey := do
  return { number := ← cell.number?, text := Text.lower cell.display }

/-- The key on the left comes no later than the one on the right. -/
def notAfter (left right : SortKey) : Bool :=
  match left.number, right.number with
  | some left, some right => !right.lt left
  | _, _ => !(right.text < left.text)

/-- The key on the left comes no later in the given direction. -/
def precedes (direction : SortDirection) (left right : SortKey) : Bool :=
  match direction with
  | .ascending => left.notAfter right
  | .descending => right.notAfter left

end SortKey

/-- A row with the key of its cell in a column. -/
def keyed (column : String) (row : Row) : Outcome (SortKey × Row) := do
  return (← SortKey.ofCell (row.cell column), row)

/-- Rows sorted by a column. A single row is not looked at. -/
def sortedRows (column : String) (direction : SortDirection) (rows : List Row) :
    Outcome (List Row) := do
  if rows.length < 2 then return rows
  let rows ← rows.mapM (keyed column)
  return (rows.mergeSort fun left right => left.1.precedes direction right.1).map Prod.snd

/-- The table sorted by a column. -/
def sortRows (column : String) (direction : SortDirection) (table : Table) : Outcome Table := do
  return table.derive (← sortedRows column direction table.rows)

end Tabular
