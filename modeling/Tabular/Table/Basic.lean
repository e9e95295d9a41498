import Tabular.Typing.SmartType

namespace Tabular

/-!
# Tables

A table is a named list of rows with an order of columns. Its types and kinds are either given or
inferred from rows: those of the table itself, or those of the table that it was derived from, so
that a filtered view keeps the types of what it was filtered from.
-/

/-- Where the description of the columns of a table comes from. -/
inductive Description (α : Type) where
  | given (map : Assoc α)
  | inferred (rows : List Row)
deriving DecidableEq

/-- A named list of rows. -/
structure Table where
  name : Option String
  columns : List String
  rows : List Row
  typeSource : Description ColumnType
  kindSource : Description SmartTypeInfo

namespace Table

/-- The table of rows whose columns are the keys of the first row. -/
def ofRows (name : Option String) (rows : List Row) : Table where
  name
  columns := columnsOf rows
  rows
  typeSource := .inferred rows
  kindSource := .inferred rows

/-- The table of rows with the given columns, described by its own rows. -/
def ofColumns (name : Option String) (columns : List String) (rows : List Row) : Table :=
  { ofRows name rows with columns }

/-- The types of the columns. -/
def types (settings : Settings) (table : Table) : Outcome (Assoc ColumnType) :=
  match table.typeSource with
  | .given map => .ok map
  | .inferred rows => detectColumnTypes settings.typeSampleRows rows

/-- The kinds of the columns. -/
def smartTypes (settings : Settings) (table : Table) : Outcome (Assoc SmartTypeInfo) :=
  match table.kindSource with
  | .given map => .ok map
  | .inferred rows => detectSmartTypes settings.smartTypeThreshold rows

/-- The table has no rows. -/
def isEmpty (table : Table) : Bool :=
  table.rows.isEmpty

/-- The cells of a column. -/
def cells (table : Table) (column : String) : List Cell :=
  table.rows.map fun row => row.cell column

/-- The table with other rows, which keeps its columns and their description. -/
def derive (table : Table) (rows : List Row) : Table :=
  { table with rows }

/-- The table with other rows and columns, which keeps the description. -/
def deriveColumns (table : Table) (rows : List Row) (columns : List String) : Table :=
  { table with rows, columns }

/-- The table of the same name with other rows, described anew. -/
def replace (table : Table) (rows : List Row) : Table :=
  ofRows table.name rows

end Table

end Tabular
