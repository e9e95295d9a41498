import Tabular.Json.Shape
import Tabular.Table.Basic

namespace Tabular

/-!
# Tables as documents

How rows, the types and kinds of columns, and tables are written in documents and read from them.
Documents differ in how they write cells, so the way cells are written and read is a parameter.
-/

/-- Rows as a document. -/
def rowsToJson (write : Cell → Json) (rows : List Row) : Json :=
  .array (rows.map (Assoc.toJson write))

/-- The rows that a document lists. -/
def rowsOfJson (read : Json → Cell) (document : Json) : List Row :=
  document.elements.map (Assoc.ofJson read)

/-- The types of columns as a document. -/
def typesToJson (types : Assoc ColumnType) : Json :=
  types.toJson fun columnType => .text columnType.name

/-- The types of columns that a document tells. -/
def typesOfJson (document : Json) : Assoc ColumnType :=
  .ofJson (fun name => .ofName (name.toText?.getD "")) document

namespace SmartTypeInfo

/-- The kind of a column as a document. -/
def toJson (info : SmartTypeInfo) : Json :=
  .object
    [("kind", .text info.kind.name), ("valid_count", .int info.validCount),
      ("invalid_count", .int info.invalidCount), ("valid_percent", .int info.validPercent)]

/-- The kind of a column that a document tells. -/
def ofJson (document : Json) : SmartTypeInfo where
  kind := .ofName (document.textAt "kind")
  validCount := (document.intAt "valid_count" 0).toNat
  invalidCount := (document.intAt "invalid_count" 0).toNat
  validPercent := document.intAt "valid_percent" 0

end SmartTypeInfo

/-- The kinds of columns as a document. -/
def kindsToJson (kinds : Assoc SmartTypeInfo) : Json :=
  kinds.toJson SmartTypeInfo.toJson

/-- The kinds of columns that a document tells. -/
def kindsOfJson (document : Json) : Assoc SmartTypeInfo :=
  .ofJson SmartTypeInfo.ofJson document

namespace Description

/-- The description that is given, unless there is none. -/
def orGiven {α : Type} (inferred : Description α) (map : Option (Assoc α)) : Description α :=
  (map.map .given).getD inferred

end Description

namespace Table

/-- A table as a document. -/
def toJson (write : Cell → Json) (settings : Settings) (table : Table) : Outcome Json := do
  return .object
    [("name", .ofOption .text table.name), ("count", .int table.rows.length),
      ("columns", .ofTexts table.columns), ("rows", rowsToJson write table.rows),
      ("types", typesToJson (← table.types settings)),
      ("smart_types", kindsToJson (← table.smartTypes settings))]

/--
The table that a document tells. Columns, types and kinds that it does not give are those of the
rows.
-/
def ofJson (read : Json → Cell) (document : Json) : Table :=
  let table := ofRows (document.part "name").toText? (rowsOfJson read (document.part "rows"))
  { table with
    columns := ((document.given? "columns").map Json.texts).getD table.columns
    typeSource := table.typeSource.orGiven ((document.given? "types").map typesOfJson)
    kindSource := table.kindSource.orGiven ((document.given? "smart_types").map kindsOfJson) }

end Table

end Tabular
