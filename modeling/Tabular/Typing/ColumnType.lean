import Tabular.Cell.Instant
import Tabular.Cell.Number
import Tabular.Row
import Tabular.Settings
import Tabular.Slice

namespace Tabular

/-!
# Types of columns

The type of a column decides which filter operators are offered for it. It is the type of the first
sampled cell that is a number or a date; a column without such a cell holds texts.
-/

/-- The type of a column. A table may be given with types of other names. -/
inductive ColumnType where
  | string
  | number
  | date
  | other (name : String)
deriving DecidableEq, Inhabited

namespace ColumnType

/-- The name of a type. -/
def name : ColumnType → String
  | .string => "string"
  | .number => "number"
  | .date => "date"
  | .other name => name

/-- The type with a name. -/
def ofName (name : String) : ColumnType :=
  if name = "string" then .string
  else if name = "number" then .number
  else if name = "date" then .date
  else .other name

end ColumnType

/-- The type of one cell. A number is looked for before a date. -/
def Cell.columnType (cell : Cell) : Outcome ColumnType :=
  if cell.isBlank then .ok .string
  else
    match cell.number? with
    | .error fault => .error fault
    | .ok (some _) => .ok .number
    | .ok none => .ok (if cell.instant?.isSome then .date else .string)

/-- The type of the first cell that holds no plain text. -/
def columnTypeOf : List Cell → Outcome ColumnType
  | [] => .ok .string
  | cell :: rest =>
      if cell.isBlank then columnTypeOf rest
      else
        match cell.columnType with
        | .error fault => .error fault
        | .ok .string => columnTypeOf rest
        | .ok found => .ok found

/-- The columns of rows are the keys of the first one. -/
def columnsOf : List Row → List String
  | [] => []
  | first :: _ => first.keys

/-- The map from columns to what is found for each of them in turn. -/
def describeColumns {α : Type} (find : String → Outcome α) (columns : List String) :
    Outcome (Assoc α) :=
  columns.foldlM (fun found column => (find column).map (found.insert column)) .empty

/-- The types of the columns, from the cells of the first rows. -/
def detectColumnTypes (sampleRows : Int) (rows : List Row) : Outcome (Assoc ColumnType) :=
  let sample := Slice.before sampleRows rows
  describeColumns (fun column => columnTypeOf (sample.map fun row => row.cell column))
    (columnsOf rows)

end Tabular
