import Tabular.Change.Cleaning
import Tabular.Workspace.Tables

namespace Tabular.Workspace

/-!
# Cleaning the tables of a workspace

A cleaning step replaces the snapshot of a table, the active one unless another is named.
-/

/-- The table that a step works on, and its snapshot. -/
def target (asked : Option String) : Action (String × Snapshot) := do
  let active := (← Action.workspace).active
  match asked.filter (fun name => name ≠ "") <|> active with
  | some name => return (name, ← getTable name)
  | none => throw (.tableNotLoaded "")

/-- The table has the snapshot. -/
def replaceTable (name : String) (snapshot : Snapshot) : Action Unit :=
  Action.modifyWorkspace fun workspace => workspace.withTable name snapshot

/-- Clean a column. -/
def cleanColumn (column : String) (operation : Cell) (asked : Option String) :
    Action Snapshot := do
  let (name, snapshot) ← target asked
  let operation ← Action.ofOutcome (CleaningOperation.ofCell operation)
  let cleaned ← Action.newSnapshot (Tabular.cleanColumn column operation snapshot.table)
  replaceTable name cleaned
  return cleaned

/-- How many rows are looked at to show what cleaning would change. -/
def previewSample : Int := 100

/-- How many changes are shown. -/
def previewLimit : Int := 10

/-- The first cells that cleaning a column would change. -/
def previewCleaning (column : String) (operation : Cell) (asked : Option String) :
    Action (List CleaningChange) := do
  let (_, snapshot) ← target asked
  let operation ← Action.ofOutcome (CleaningOperation.ofCell operation)
  return Tabular.previewCleaning column operation previewSample previewLimit snapshot.table

/-- The snapshot without the rows that repeat an earlier one. -/
def withoutDuplicates (snapshot : Snapshot) : Action Snapshot := do
  if snapshot.table.isEmpty then return snapshot
  else Action.derivedSnapshot snapshot (← Action.ofOutcome (removeDuplicateRows snapshot.table))

/-- Remove the rows that repeat an earlier one; the answer is their number. -/
def removeDuplicates (asked : Option String) : Action Nat := do
  let (name, snapshot) ← target asked
  let distinct ← withoutDuplicates snapshot
  replaceTable name distinct
  return snapshot.table.rows.length - distinct.table.rows.length

/-- Fill the blank cells of a column. -/
def fillEmpty (column : String) (value : Cell) (asked : Option String) : Action Snapshot := do
  let (name, snapshot) ← target asked
  let filled ← Action.newSnapshot (Tabular.fillEmpty column value snapshot.table)
  replaceTable name filled
  return filled

end Tabular.Workspace
