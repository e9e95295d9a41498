import Tabular.Proofs.Workspace.Operation

namespace Tabular

/-!
# The contents of a workspace

What a workspace holds, without the versions of its snapshots and without anything remembered. All
that a workspace can be asked for follows from its contents, and is computed here from them alone.
Edits are told as what they make of the contents and of the number of the next node. These are the
definitions that a workspace with its cache and its memo is compared with.
-/

/-- The tables of a workspace, and how they are looked at. -/
structure Contents where
  tables : Assoc Table
  active : Option String
  aliases : Assoc String
  joins : List JoinSpec
  filter : FilterNode
  caseSensitive : Bool

/-- What a workspace holds. -/
def Workspace.contents (workspace : Workspace) : Contents where
  tables := workspace.tables.mapValues fun _ snapshot => snapshot.table
  active := workspace.active
  aliases := workspace.aliases
  joins := workspace.joins
  filter := workspace.filter
  caseSensitive := workspace.caseSensitive

namespace Contents

/-! ## Views -/

/-- A table that is loaded. -/
def getTable (contents : Contents) (name : String) : Outcome Table :=
  match contents.tables.find? name with
  | some table => .ok table
  | none => .error (.tableNotLoaded name)

/-- The tables and aliases that a join can draw on. -/
def sources (contents : Contents) : Join.Sources where
  tables := contents.tables
  aliases := contents.aliases

/-- Joins are set, and there are tables to join. -/
def isJoined (contents : Contents) : Bool :=
  !contents.joins.isEmpty && 2 ≤ contents.tables.size

/-- The tables joined. -/
def joinedTable (contents : Contents) (settings : Settings) : Outcome Table :=
  Joined.table <$> performJoin settings contents.sources contents.joins

/-- The table that is looked at before filtering. -/
def currentView (contents : Contents) (settings : Settings) : Outcome Table :=
  if contents.isJoined then contents.joinedTable settings
  else .ok ((contents.active.bind contents.tables.find?).getD (Table.ofRows none []))

/-- A table under the filter. -/
def filtered (contents : Contents) (view : Table) : Outcome Table :=
  Prod.fst <$> filterRows contents.caseSensitive contents.filter view

/-- The current view under the filter. -/
def filteredView (contents : Contents) (settings : Settings) : Outcome Table := do
  contents.filtered (← contents.currentView settings)

/-- The filtered view, searched and sorted. -/
def dataView (contents : Contents) (settings : Settings)
    (arrangement : Workspace.Arrangement) : Outcome Table := do
  arrangement.apply (← contents.filteredView settings)

/-- The table that a workspace can be asked for. -/
def look (contents : Contents) (settings : Settings) : Look → Outcome Table
  | .table name => contents.getTable name
  | .currentView => contents.currentView settings
  | .filteredView => contents.filteredView settings
  | .dataView arrangement => contents.dataView settings arrangement

/-! ## Analyses -/

/-- The different values of a column of the current view. -/
def uniqueValues (contents : Contents) (settings : Settings) (column : String)
    (limit : Option Int) : Outcome (List String) := do
  return Slice.upTo limit ((← contents.currentView settings).allUniqueValues column)

/-- The columns of the filtered view that should be masked. -/
def suggestedAnonymization (contents : Contents) (settings : Settings) :
    Outcome (Assoc AnonymizationMethod) := do
  return suggestMethods (← (← contents.filteredView settings).smartTypes settings)

/-- The methods that values name for columns, or the suggested ones when none are given. -/
def methodsFor (settings : Settings) (named : Option (Assoc Cell)) (view : Table) :
    Outcome (Assoc AnonymizationMethod) :=
  match named with
  | some named => checkMethods named
  | none => suggestMethods <$> view.smartTypes settings

/-- The filtered view with values hidden. -/
def anonymize (contents : Contents) (settings : Settings) (named : Option (Assoc Cell)) :
    Outcome Table := do
  let view ← contents.filteredView settings
  let methods ← methodsFor settings named view
  return anonymizeTable settings methods (← view.smartTypes settings) view

/-- The first rows of the filtered view with values hidden. -/
def anonymizePreview (contents : Contents) (settings : Settings) (named : Option (Assoc Cell))
    (limit : Option Int) : Outcome (List Row) := do
  let view ← contents.filteredView settings
  let methods ← methodsFor settings named view
  return previewAnonymized settings methods (← view.smartTypes settings) limit view

/-- The columns of a table with their types, under its prefix. -/
def columnsOfTable (contents : Contents) (settings : Settings) (name : String) (table : Table) :
    Outcome (List Workspace.FilterColumn) := do
  let types ← table.types settings
  return table.columns.map fun column =>
    { table := name
      column
      name := Join.columnName (Alias.nameIn contents.aliases name) column
      columnType := (types.find? column).getD .string }

/-- The columns of all tables. -/
def filterColumns (contents : Contents) (settings : Settings) :
    Outcome (List Workspace.FilterColumn) := do
  let columns ←
    contents.tables.entries.mapM fun entry => contents.columnsOfTable settings entry.1 entry.2
  return columns.flatten

/-- The table that a cleaning step works on, with its name. -/
def target (contents : Contents) (asked : Option String) : Outcome (String × Table) :=
  match asked.filter (fun name => name ≠ "") <|> contents.active with
  | some name => (name, ·) <$> contents.getTable name
  | none => .error (.tableNotLoaded "")

/-- The first cells that cleaning a column would change. -/
def previewCleaning (contents : Contents) (column : String) (operation : Cell)
    (asked : Option String) : Outcome (List CleaningChange) := do
  let (_, table) ← contents.target asked
  let operation ← CleaningOperation.ofCell operation
  return Tabular.previewCleaning column operation Workspace.previewSample Workspace.previewLimit
    table

end Contents

/-- What a read answers for the contents of a workspace. -/
def Read.afresh (settings : Settings) (contents : Contents) : Read → Outcome Answer
  | .view look => .table <$> contents.look settings look
  | .types look => .types <$> (contents.look settings look >>= Table.types settings)
  | .kinds look => .kinds <$> (contents.look settings look >>= Table.smartTypes settings)
  | .prefixOf name => .ok (.text (Alias.nameIn contents.aliases name))
  | .filterColumns => .columns <$> contents.filterColumns settings
  | .filterSubtree id => .ok (.node (contents.filter.find? id))
  | .columnSums search caseSensitive =>
      .sums <$> (contents.dataView settings { search, caseSensitive } >>= Table.columnSums settings)
  | .pivot config => .pivot <$> (contents.filteredView settings >>= createPivot settings config)
  | .quality => .quality <$> (contents.filteredView settings >>= analyzeQuality settings none)
  | .columnStats column =>
      .stats <$> (contents.filteredView settings >>= fun view => view.columnStats column)
  | .uniqueValues column limit => .values <$> contents.uniqueValues settings column limit
  | .suggestedAnonymization => .methods <$> contents.suggestedAnonymization settings
  | .anonymize named => .table <$> contents.anonymize settings named
  | .anonymizePreview named limit => .rows <$> contents.anonymizePreview settings named limit
  | .previewCleaning column operation asked =>
      .changes <$> contents.previewCleaning column operation asked

/-! ## Edits -/

namespace Contents

/-- The contents with a table. -/
def withTable (contents : Contents) (name : String) (table : Table) : Contents :=
  { contents with tables := contents.tables.insert name table }

/-- The contents with a table that is loaded. -/
def withLoaded (contents : Contents) (name : String) (table : Table) : Contents :=
  { contents.withTable name table with active := some (contents.active.getD name) }

/-- The contents without a table, its alias and its joins. -/
def withoutTable (contents : Contents) (name : String) : Contents :=
  let tables := contents.tables.erase name
  { contents with
    tables
    aliases := contents.aliases.erase name
    joins := contents.joins.filter fun spec => !spec.mentions name
    active := if contents.active = some name then tables.keys.head? else contents.active }

/-- The contents after everything but the case flag has been cleared, with a new root. -/
def cleared (contents : Contents) (root : FilterNode) : Contents :=
  { contents with
    tables := .empty, active := none, aliases := .empty, joins := [], filter := root }

/-- The alias that is asked for, or the default one when it is blank. -/
def aliasFor (contents : Contents) (name asked : String) : String :=
  let trimmed := Text.trim asked
  if trimmed = "" then Alias.default name (contents.tables.keys.idxOf name) else trimmed

/-- The contents with a node added to a group, the root unless one is named. -/
def withNode (contents : Contents) (parent : Option String) (node : FilterNode) :
    Outcome Contents :=
  let parent := (parent.filter fun id => id ≠ "").getD contents.filter.id
  match contents.filter.find? parent with
  | some (.group ..) =>
      .ok { contents with filter := FilterNode.insert parent node contents.filter }
  | _ => .error (.filter (.missingGroup parent))

/-- The types of the columns of the current view. -/
def currentTypes (contents : Contents) (settings : Settings) : Outcome (Assoc ColumnType) := do
  (← contents.currentView settings).types settings

/-- The contents with a node of the filter tree changed. -/
def withChanged (contents : Contents) (settings : Settings) (id : String)
    (changes : FilterNode.Changes) : Outcome Contents :=
  match contents.filter.find? id with
  | some node => do
      let types ← contents.currentTypes settings
      let filter ← Workspace.changedFilter types contents.filter node id changes
      return { contents with filter }
  | none => .error (.filter (.missingNode id))

/-- The contents with another filter tree, which has to be valid. -/
def withFilter (contents : Contents) (settings : Settings) : FilterNode → Outcome Contents
  | .condition _ => .error (.filter .rootCondition)
  | .group id logic children => do
      let root := FilterNode.group id logic children
      root.validate (← contents.currentTypes settings)
      return { contents with filter := root }

end Contents

/-- The contents of a workspace, and the number of the next node. -/
structure Holdings where
  nodes : Nat
  contents : Contents

namespace Holdings

/-- An answer with new contents is given and the contents are kept; a fault changes nothing. -/
def commit (holdings : Holdings) :
    Outcome (Answer × Contents) → Outcome Answer × Holdings
  | .ok (answer, contents) => (.ok answer, { holdings with contents })
  | .error fault => (.error fault, holdings)

/-- Identifiers are drawn first; those of a change that fails later stay drawn. -/
def commitNamed {α : Type} (holdings : Holdings) (naming : Naming α)
    (change : α → Outcome (Answer × Contents)) : Outcome Answer × Holdings :=
  match naming.run holdings.nodes with
  | .ok (value, nodes) => { holdings with nodes }.commit (change value)
  | .error fault => (.error fault, holdings)

end Holdings

/-- What an edit answers, and what is held afterwards. -/
def Edit.effect (settings : Settings) (holdings : Holdings) : Edit → Outcome Answer × Holdings
  | .loadTable name rows =>
      let table := Table.ofRows (some name) rows
      holdings.commit (.ok (.table table, holdings.contents.withLoaded name table))
  | .removeTable name => holdings.commit do
      let _ ← holdings.contents.getTable name
      return (.done, holdings.contents.withoutTable name)
  | .setActiveTable name => holdings.commit do
      let _ ← holdings.contents.getTable name
      return (.done, { holdings.contents with active := some name })
  | .clear => holdings.commitNamed FilterNode.newRoot fun root =>
      .ok (.done, holdings.contents.cleared root)
  | .setJoins joins => holdings.commit (.ok (.done, { holdings.contents with joins }))
  | .setAlias name asked => holdings.commit do
      let _ ← holdings.contents.getTable name
      let chosen := holdings.contents.aliasFor name asked
      return (.text chosen,
        { holdings.contents with aliases := holdings.contents.aliases.insert name chosen })
  | .addCondition parent field operator value =>
      holdings.commitNamed (FilterNode.newCondition field operator value) fun condition => do
        condition.validate (← holdings.contents.currentTypes settings)
        return (.text condition.id, ← holdings.contents.withNode parent (.condition condition))
  | .addGroup parent logic =>
      holdings.commitNamed (FilterNode.newGroup logic) fun group => do
        return (.text group.id, ← holdings.contents.withNode parent group)
  | .updateNode id changes => holdings.commit do
      return (.done, ← holdings.contents.withChanged settings id changes)
  | .removeNode id => holdings.commit
      (.ok (.done,
        { holdings.contents with filter := holdings.contents.filter.remove id }))
  | .setFilterTree root => holdings.commit do
      return (.done, ← holdings.contents.withFilter settings root)
  | .setCaseSensitive enabled =>
      holdings.commit (.ok (.done, { holdings.contents with caseSensitive := enabled }))
  | .cleanColumn column operation asked => holdings.commit do
      let (name, table) ← holdings.contents.target asked
      let operation ← CleaningOperation.ofCell operation
      let cleaned := Tabular.cleanColumn column operation table
      return (.table cleaned, holdings.contents.withTable name cleaned)
  | .removeDuplicates asked => holdings.commit do
      let (name, table) ← holdings.contents.target asked
      let distinct ← removeDuplicateRows table
      return (.count (table.rows.length - distinct.rows.length),
        holdings.contents.withTable name distinct)
  | .fillEmpty column value asked => holdings.commit do
      let (name, table) ← holdings.contents.target asked
      let filled := Tabular.fillEmpty column value table
      return (.table filled, holdings.contents.withTable name filled)

/-- What an operation answers, and what is held afterwards. -/
def Operation.effect (settings : Settings) (holdings : Holdings) :
    Operation → Outcome Answer × Holdings
  | .edit change => change.effect settings holdings
  | .read look => (look.afresh settings holdings.contents, holdings)

namespace Holdings

/-- What is held after operations, performed one after the other. -/
def after (settings : Settings) (holdings : Holdings) (operations : List Operation) : Holdings :=
  operations.foldl (fun current operation => (operation.effect settings current).2) holdings

end Holdings

/-- What a session holds. -/
def Session.holdings (session : Session) : Holdings where
  nodes := session.supply.nodes
  contents := session.workspace.contents

end Tabular
