import Tabular.Assoc
import Tabular.Cell

namespace Tabular

/-!
# Rows

A row maps column names to cells. A column that a row does not have reads as an empty cell.
-/

/-- The cells of one line of a table, by column. -/
abbrev Row := Assoc Cell

/-- The cell of a row in a column; nothing when the row does not have it. -/
def Row.cell (row : Row) (column : String) : Cell :=
  (row.find? column).getD .null

end Tabular
