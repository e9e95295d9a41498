import Tabular.Json.Basic
import Tabular.Workspace.Basic

namespace Tabular.Workspace

/-!
# The tables of a workspace

Loading and removing tables, choosing the active one, naming their columns and joining them. The
first table that is loaded becomes active, and a table that is removed takes its alias and its joins
with it.
-/

/-- The snapshot of a table that is loaded. -/
def getTable (name : String) : Action Snapshot := do
  match (← Action.workspace).tables.find? name with
  | some snapshot => return snapshot
  | none => throw (.tableNotLoaded name)

/-- The workspace with the snapshot of a table. -/
def withTable (workspace : Workspace) (name : String) (snapshot : Snapshot) : Workspace :=
  { workspace with tables := workspace.tables.insert name snapshot }

/-- Load a table, or load it again. -/
def loadTable (name : String) (rows : List Row) : Action Snapshot := do
  let snapshot ← Action.newSnapshot (Table.ofRows (some name) rows)
  Action.modifyWorkspace fun workspace =>
    { workspace.withTable name snapshot with active := some (workspace.active.getD name) }
  return snapshot

/-- The workspace without a table, its alias and its joins. -/
def withoutTable (workspace : Workspace) (name : String) : Workspace :=
  let tables := workspace.tables.erase name
  { workspace with
    tables
    aliases := workspace.aliases.erase name
    joins := workspace.joins.filter fun spec => !spec.mentions name
    active := if workspace.active = some name then tables.keys.head? else workspace.active }

/-- Remove a table. -/
def removeTable (name : String) : Action Unit := do
  let _ ← getTable name
  Action.modifyWorkspace fun workspace => workspace.withoutTable name

/-- Make a table the active one. -/
def setActiveTable (name : String) : Action Unit := do
  let _ ← getTable name
  Action.modifyWorkspace fun workspace => { workspace with active := some name }

/--
Remove all tables, joins, aliases and filters, and forget all views. Whether case counts stays as it
is.
-/
def clear : Action Unit := do
  let root ← Action.ofNaming FilterNode.newRoot
  Action.modifyWorkspace fun workspace =>
    { workspace with
      tables := .empty
      active := none
      aliases := .empty
      joins := []
      filter := root
      cache := workspace.cache.clear
      memo := .empty }

/-- Set the joins. -/
def setJoins (joins : List JoinSpec) : Action Unit :=
  Action.modifyWorkspace fun workspace => { workspace with joins }

/-- The alias that is asked for, or the default one when it is blank. -/
def aliasFor (workspace : Workspace) (name asked : String) : String :=
  let trimmed := Text.trim asked
  if trimmed = "" then Alias.default name (workspace.tables.keys.idxOf name) else trimmed

/-- Set the alias of a table. -/
def setAlias (name asked : String) : Action String := do
  let _ ← getTable name
  let chosen := (← Action.workspace).aliasFor name asked
  Action.modifyWorkspace fun workspace =>
    { workspace with aliases := workspace.aliases.insert name chosen }
  return chosen

/-- Set whether case counts in filters. -/
def setCaseSensitive (caseSensitive : Bool) : Action Unit :=
  Action.modifyWorkspace fun workspace => { workspace with caseSensitive }

/-- A column that can be filtered by. -/
structure FilterColumn where
  table : String
  column : String
  name : String
  columnType : ColumnType

/-- A column that can be filtered by as a document. -/
def FilterColumn.toJson (column : FilterColumn) : Json :=
  .object
    [("table", .text column.table), ("column", .text column.column),
      ("name", .text column.name), ("type", .text column.columnType.name)]

/-- The columns of a table with their types, under its prefix. -/
def columnsOfTable (settings : Settings) (name : String) (snapshot : Snapshot) :
    Action (List FilterColumn) := do
  let types ← Action.types settings snapshot
  let shownName := (← Action.workspace).prefixOf name
  return snapshot.table.columns.map fun column =>
    { table := name
      column
      name := Join.columnName shownName column
      columnType := (types.find? column).getD .string }

/-- The columns of all tables. -/
def filterColumns (settings : Settings) : Action (List FilterColumn) := do
  let tables := (← Action.workspace).tables.entries
  return (← tables.mapM fun entry => columnsOfTable settings entry.1 entry.2).flatten

end Tabular.Workspace
