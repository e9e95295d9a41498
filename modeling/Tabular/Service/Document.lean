import Tabular.Analysis.Document
import Tabular.Change.Document
import Tabular.Join.Document
import Tabular.Table.Document
import Tabular.Workspace.Cleaning
import Tabular.Workspace.Filters
import Tabular.Workspace.Views

namespace Tabular.Service

/-!
# Documents of answers

What answers say about tables, workspaces, views and analyses. Numbers that an answer promises to be
binary64 numbers are written as such; other cells and amounts stay what they are.
-/

/-- An amount as a binary64 number in a document. -/
def realDocument (amount : Amount) : Outcome Json :=
  amount.toReal.map .float

/-- A map to amounts as an object with binary64 numbers. -/
def realsDocument (map : Assoc Amount) : Outcome Json := do
  return .object (← map.entries.mapM fun entry => return (entry.1, ← realDocument entry.2))

/-- Cells as they are written in answers. -/
def rowsDocument (rows : List Row) : Json :=
  rowsToJson Cell.toJson rows

/-! ## Tables and workspaces -/

/-- A table in short. -/
def summaryDocument (settings : Settings) (snapshot : Snapshot) : Action Json := do
  let types ← Action.types settings snapshot
  let kinds ← Action.smartTypes settings snapshot
  return .object
    [("name", .ofOption .text snapshot.table.name),
      ("row_count", .int snapshot.table.rows.length),
      ("columns", .ofTexts snapshot.table.columns), ("types", typesToJson types),
      ("smart_types", kindsToJson kinds)]

/-- The workspace as a document. -/
def workspaceDocument (settings : Settings) : Action Json := do
  let workspace ← Action.workspace
  let summaries ← workspace.tables.values.mapM (summaryDocument settings)
  return .object
    [("id", .text workspace.id), ("tables", .array summaries),
      ("active_table", .ofOption .text workspace.active),
      ("aliases", workspace.aliases.toJson .text),
      ("joins", .array (workspace.joins.map JoinSpec.toJson)),
      ("case_sensitive", .bool workspace.caseSensitive),
      ("filter_tree", workspace.filter.toJson)]

/-- A node that has been added, and the tree with it, as a document. -/
def addedDocument (id : String) : Action Json := do
  return .object [("id", .text id), ("filter_tree", (← Action.workspace).filter.toJson)]

/-- The rows from a place on, at most as many as the limit allows. -/
def page {α : Type} (offset : Int) (limit : Option Int) (rows : List α) : List α :=
  match limit with
  | some limit => Slice.between offset (offset + limit) rows
  | none => Slice.startingAt offset rows

/-- A page of a view, with the totals of its number columns, as a document. -/
def viewDocument (settings : Settings) (offset : Int) (limit : Option Int) (sums : Assoc Amount)
    (snapshot : Snapshot) : Action Json := do
  let types ← Action.types settings snapshot
  return .object
    [("name", .ofOption .text snapshot.table.name),
      ("row_count", .int snapshot.table.rows.length),
      ("columns", .ofTexts snapshot.table.columns), ("types", typesToJson types),
      ("rows", rowsDocument (page offset limit snapshot.table.rows)),
      ("column_sums", ← Action.ofOutcome (realsDocument sums))]

/-- The values of a column as a document. -/
def valuesDocument (column : String) (values : List String) : Json :=
  .object [("column", .text column), ("values", .ofTexts values)]

/-! ## Analyses -/

/-- A pivot as a document. -/
def pivotDocument (rowField : String) (result : PivotResult) : Outcome Json := do
  let cells ←
    result.cells.entries.mapM fun entry => return (entry.1, ← realsDocument entry.2)
  return .object
    (result.toMembers (.object cells) ++
      [("export_rows", rowsDocument (result.exportRows rowField))])

/-- A quality report as a document; missing cells are counted in binary64 numbers. -/
def qualityDocument (report : QualityReport) : Json :=
  report.toJson fun count => .real (Binary64.ofNat count)

/-- The statistics of a column as a document. -/
def statsDocument (column : String) (stats : ColumnStats) : Json :=
  .object (("column", .text column) :: stats.toMembers)

/-! ## Changes -/

/-- What cleaning would change in a column as a document. -/
def changesDocument (column operation : String) (changes : List CleaningChange) : Json :=
  .object
    [("column", .text column), ("operation", .text operation),
      ("changes", changesToJson Cell.toJson changes)]

/-- How many rows have been removed from a table, and how many are left, as a document. -/
def removedDocument (name : String) (removed : Nat) (snapshot : Snapshot) : Json :=
  .object
    [("table", .text name), ("duplicates_removed", .int removed),
      ("row_count", .int snapshot.table.rows.length)]

/-- Rows with values hidden as a document. -/
def hiddenDocument (methods : Assoc AnonymizationMethod) (columns : List String)
    (rows : List Row) : Json :=
  .object
    [("methods", methodsToJson methods), ("columns", .ofTexts columns),
      ("rows", rowsDocument rows)]

end Tabular.Service
