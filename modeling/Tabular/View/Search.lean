import Tabular.Table.Basic
import Tabular.Text.Case

namespace Tabular

/-!
# Searching a table

A search keeps the rows that show the sought text in some cell, in whichever column. Unless case
counts, both sides are compared in lower case.
-/

/-- The row shows the text in some cell. -/
def Row.shows (row : Row) (caseSensitive : Bool) (term : String) : Bool :=
  let form (text : String) : List Char :=
    (if caseSensitive then text else Text.lower text).toList
  let needle := form term
  row.values.any fun cell => Text.occursIn needle (form cell.display)

/-- The rows that show the text. -/
def searchRows (caseSensitive : Bool) (term : String) (table : Table) : Table :=
  if term.isEmpty then table
  else table.derive (table.rows.filter fun row => row.shows caseSensitive term)

end Tabular
