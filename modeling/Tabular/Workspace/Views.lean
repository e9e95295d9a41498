import Tabular.Change.Anonymization
import Tabular.Filter.Document
import Tabular.Filter.Evaluation
import Tabular.Json.Writer
import Tabular.View.Search
import Tabular.View.Sort
import Tabular.Workspace.Basic

namespace Tabular.Workspace

/-!
# Views of a workspace

The current view is the joined table when joins are set and there are two tables or more, and the
active table otherwise. The filtered view is the current view under the filter. Everything else is
derived from these two.
-/

/-- The tables joined, as a snapshot. -/
def joinedSnapshot (settings : Settings) : Action Snapshot := do
  let workspace ← Action.workspace
  let find {α : Type} (describe : Snapshot → Action (Assoc α)) (name : String) (_ : Table) :
      Action (Assoc α) :=
    match workspace.tables.find? name with
    | some snapshot => describe snapshot
    | none => return .empty
  let joined ←
    performJoinWith (find (Action.types settings)) (find (Action.smartTypes settings))
      workspace.sources workspace.joins
  Action.newSnapshot joined.table

/-- Aliases in the order of their tables' names. -/
def sortedAliases (aliases : Assoc String) : List (String × String) :=
  aliases.entries.mergeSort fun left right => !(right.1 < left.1)

/-- The key of the joined table. -/
def joinKey (workspace : Workspace) : ViewKey :=
  .joined (workspace.tables.values.map Snapshot.version) workspace.joins
    (sortedAliases workspace.aliases)

/-- Joins are set, and there are tables to join. -/
def isJoined (workspace : Workspace) : Bool :=
  !workspace.joins.isEmpty && 2 ≤ workspace.tables.size

/-- The table that is looked at before filtering. -/
def currentView (settings : Settings) : Action Snapshot := do
  let workspace ← Action.workspace
  if workspace.isJoined then
    Action.cachedTable workspace.joinKey (joinedSnapshot settings)
  else
    match workspace.active.bind workspace.tables.find? with
    | some snapshot => return snapshot
    | none => Action.newSnapshot (Table.ofRows none [])

/-- The rows of a snapshot that satisfy a filter; a group without members keeps the snapshot. -/
def filterSnapshot (caseSensitive : Bool) (node : FilterNode) (snapshot : Snapshot) :
    Action Snapshot := do
  if node.isEmptyGroup then return snapshot
  else
    let (table, _) ← Action.ofOutcome (filterRows caseSensitive node snapshot.table)
    Action.derivedSnapshot snapshot table

/-- The current view under the filter. -/
def filteredView (settings : Settings) : Action Snapshot := do
  let view ← currentView settings
  let workspace ← Action.workspace
  Action.cachedTable
    (.filtered view.version workspace.filter.toJson.written workspace.caseSensitive)
    (filterSnapshot workspace.caseSensitive workspace.filter view)

/-- How a view is searched and sorted. The direction only counts with a column to sort by. -/
structure Arrangement where
  search : String := ""
  caseSensitive : Bool := false
  sortBy : Option String := none
  direction : Cell := .text "asc"

namespace Arrangement

/-- The column that is sorted by. -/
def sortColumn (arrangement : Arrangement) : Option String :=
  arrangement.sortBy.filter fun column => column ≠ ""

/-- The rows of a table, searched and sorted. -/
def apply (arrangement : Arrangement) (table : Table) : Outcome Table := do
  let found := searchRows arrangement.caseSensitive arrangement.search table
  match arrangement.sortColumn with
  | some column => sortRows column (← SortDirection.ofCell arrangement.direction) found
  | none => return found

/-- Nothing is searched and nothing is sorted. -/
def isTrivial (arrangement : Arrangement) : Bool :=
  arrangement.search.isEmpty && arrangement.sortColumn.isNone

/-- The key of an arranged snapshot. -/
def key (arrangement : Arrangement) (version : Nat) : ViewKey :=
  .arranged version arrangement.search arrangement.caseSensitive arrangement.sortBy
    arrangement.direction

end Arrangement

/-- The rows of a snapshot, searched and sorted. -/
def arrangeSnapshot (arrangement : Arrangement) (snapshot : Snapshot) : Action Snapshot := do
  if arrangement.isTrivial then return snapshot
  else Action.derivedSnapshot snapshot (← Action.ofOutcome (arrangement.apply snapshot.table))

/-- The filtered view, searched and sorted. -/
def dataView (settings : Settings) (arrangement : Arrangement) : Action Snapshot := do
  let view ← filteredView settings
  Action.cachedTable (arrangement.key view.version) (arrangeSnapshot arrangement view)

/-- The totals of the number columns over the rows that are found by a search. -/
def columnSums (settings : Settings) (search : String) (caseSensitive : Bool) :
    Action (Assoc Amount) := do
  let view ← dataView settings { search, caseSensitive }
  Action.remembered (.columnSums view.version) do
    Action.ofOutcome (view.table.columnSumsFor (← Action.types settings view))

/-- The pivot of the filtered view. -/
def pivot (settings : Settings) (config : PivotConfig) : Action PivotResult := do
  let view ← filteredView settings
  Action.cachedPivot (.pivot view.version config)
    (Action.ofOutcome (createPivot settings config view.table))

/-- The quality report of a snapshot. -/
def qualityOf (settings : Settings) (view : Snapshot) : Action QualityReport := do
  if view.table.isEmpty then return {}
  else Action.ofOutcome (Quality.reportFor settings (← Action.types settings view) view.table)

/-- The quality report of the filtered view. -/
def quality (settings : Settings) : Action QualityReport := do
  let view ← filteredView settings
  Action.remembered (.quality view.version) (qualityOf settings view)

/-- The statistics of a column of the filtered view. -/
def columnStats (settings : Settings) (column : String) : Action (Option ColumnStats) := do
  let view ← filteredView settings
  Action.remembered (.stats view.version column) (Action.ofOutcome (view.table.columnStats column))

/-- The different values of a column of the current view. -/
def uniqueValues (settings : Settings) (column : String) (limit : Option Int) :
    Action (List String) := do
  let view ← currentView settings
  let values ←
    Action.remembered (.uniqueValues view.version column) (return view.table.allUniqueValues column)
  return Slice.upTo limit values

/-- The columns of the filtered view that should be masked. -/
def suggestedAnonymization (settings : Settings) : Action (Assoc AnonymizationMethod) := do
  let view ← filteredView settings
  return suggestMethods (← Action.smartTypes settings view)

/-- The methods that values name for columns, or the suggested ones when none are given. -/
def methodsFor (settings : Settings) (named : Option (Assoc Cell)) (view : Snapshot) :
    Action (Assoc AnonymizationMethod) := do
  match named with
  | some named => Action.ofOutcome (checkMethods named)
  | none => return suggestMethods (← Action.smartTypes settings view)

/-- The table of a snapshot with values hidden. -/
def hidden (settings : Settings) (methods : Assoc AnonymizationMethod) (view : Snapshot) :
    Action Table := do
  return anonymizeTable settings methods (← Action.smartTypes settings view) view.table

/-- The first rows of a snapshot with values hidden. -/
def hiddenRows (settings : Settings) (methods : Assoc AnonymizationMethod) (limit : Option Int)
    (view : Snapshot) : Action (List Row) := do
  return previewAnonymized settings methods (← Action.smartTypes settings view) limit view.table

/-- The filtered view with values hidden. -/
def anonymize (settings : Settings) (named : Option (Assoc Cell)) : Action Table := do
  let view ← filteredView settings
  hidden settings (← methodsFor settings named view) view

/-- The first rows of the filtered view with values hidden. -/
def anonymizePreview (settings : Settings) (named : Option (Assoc Cell)) (limit : Option Int) :
    Action (List Row) := do
  let view ← filteredView settings
  hiddenRows settings (← methodsFor settings named view) limit view

end Tabular.Workspace
