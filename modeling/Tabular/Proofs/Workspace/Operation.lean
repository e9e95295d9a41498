import Tabular.Workspace.Basic
import Tabular.Workspace.Cleaning
import Tabular.Workspace.Filters
import Tabular.Workspace.Store

namespace Tabular

/-!
# Operations on workspaces

Everything that can be done with a workspace, as data: edits, which may change what it holds, and
reads, which look at it. A run performs operations one after the other, whether they answer or fail.
-/

/-!
## Performing actions

What an action answers in a session, and the session afterwards. A chain of actions goes on where
its first link has stopped, and a link that fails ends it there.
-/

/-- The session with another number for the next node. -/
def Session.withNodes (session : Session) (nodes : Nat) : Session :=
  { session with supply := { session.supply with nodes } }

namespace Action

variable {α β : Type}

/-- What an action answers in a session, and the session afterwards. -/
def perform (action : Action α) (session : Session) : Outcome α × Session :=
  action.run.run session

/-- A chain goes on in the session in which its first link has answered. -/
theorem perform_bind
    (first : Action α)
    (next : α → Action β)
    (session : Session) :
    (first >>= next).perform session =
      match first.perform session with
      | (.ok value, after) => (next value).perform after
      | (.error fault, after) => (.error fault, after) := by
  unfold perform ExceptT.run StateT.run
  simp only [bind, ExceptT.bind, ExceptT.mk, StateT.bind, ExceptT.bindCont]
  rcases first session with ⟨outcome, after⟩
  cases outcome <;> rfl

theorem perform_bind_of_ok
    {first : Action α}
    {next : α → Action β}
    {session after : Session}
    {value : α}
    (answered : first.perform session = (.ok value, after)) :
    (first >>= next).perform session = (next value).perform after := by
  rw [perform_bind, answered]

theorem perform_bind_of_error
    {first : Action α}
    {next : α → Action β}
    {session after : Session}
    {fault : Fault}
    (failed : first.perform session = (.error fault, after)) :
    (first >>= next).perform session = (.error fault, after) := by
  rw [perform_bind, failed]

/-- When a chain answers, its first link has answered, and then the rest of it. -/
theorem exists_of_perform_bind_eq_ok
    {first : Action α}
    {next : α → Action β}
    {session after : Session}
    {answer : β}
    (answered : (first >>= next).perform session = (.ok answer, after)) :
    ∃ value middle,
      first.perform session = (.ok value, middle) ∧
        (next value).perform middle = (.ok answer, after) := by
  rw [perform_bind] at answered
  rcases performed : first.perform session with ⟨fault | value, middle⟩
  · rw [performed] at answered
    exact absurd answered nofun
  · rw [performed] at answered
    exact ⟨value, middle, rfl, answered⟩

theorem perform_map
    (image : α → β)
    (action : Action α)
    (session : Session) :
    (image <$> action).perform session =
      ((action.perform session).1.map image, (action.perform session).2) := by
  rw [← bind_pure_comp, perform_bind]
  rcases action.perform session with ⟨outcome, after⟩
  cases outcome <;> rfl

@[simp] theorem perform_workspace
    (session : Session) :
    workspace.perform session = (.ok session.workspace, session) :=
  rfl

@[simp] theorem perform_ofOutcome
    (outcome : Outcome α)
    (session : Session) :
    (ofOutcome outcome).perform session = (outcome, session) := by
  cases outcome <;> rfl

/-- Drawing identifiers changes nothing but their supply. -/
theorem perform_ofNaming_of_ok
    {naming : Naming α}
    {session : Session}
    {value : α}
    {nodes : Nat}
    (drawn : naming.run session.supply.nodes = .ok (value, nodes)) :
    (ofNaming naming).perform session =
      (.ok value, session.withNodes nodes) := by
  have looked : (get : Action Session).perform session = (.ok session, session) :=
    rfl
  rw [ofNaming, perform_bind_of_ok looked, drawn]
  rfl

/-- Identifiers that cannot be drawn change nothing. -/
theorem perform_ofNaming_of_error
    {naming : Naming α}
    {session : Session}
    {fault : Fault}
    (failed : naming.run session.supply.nodes = .error fault) :
    (ofNaming naming).perform session = (.error fault, session) := by
  have looked : (get : Action Session).perform session = (.ok session, session) :=
    rfl
  rw [ofNaming, perform_bind_of_ok looked, failed]
  rfl

end Action

/-! ## Operations -/

/-- What an operation answers, without the versions of snapshots. -/
inductive Answer where
  | done
  | text (value : String)
  | count (value : Nat)
  | table (table : Table)
  | types (types : Assoc ColumnType)
  | kinds (kinds : Assoc SmartTypeInfo)
  | columns (columns : List Workspace.FilterColumn)
  | sums (sums : Assoc Amount)
  | pivot (result : PivotResult)
  | quality (report : QualityReport)
  | stats (stats : Option ColumnStats)
  | values (values : List String)
  | methods (methods : Assoc AnonymizationMethod)
  | rows (rows : List Row)
  | changes (changes : List CleaningChange)
  | node (node : Option FilterNode)

/-- The table of a snapshot as an answer. -/
def Answer.ofSnapshot (snapshot : Snapshot) : Answer :=
  .table snapshot.table

/-- An operation that may change what a workspace holds. -/
inductive Edit where
  | loadTable (name : String) (rows : List Row)
  | removeTable (name : String)
  | setActiveTable (name : String)
  | clear
  | setJoins (joins : List JoinSpec)
  | setAlias (name asked : String)
  | addCondition (parent field operator : Option String) (value : Cell)
  | addGroup (parent : Option String) (logic : Cell)
  | updateNode (id : String) (changes : FilterNode.Changes)
  | removeNode (id : String)
  | setFilterTree (root : FilterNode)
  | setCaseSensitive (enabled : Bool)
  | cleanColumn (column : String) (operation : Cell) (asked : Option String)
  | removeDuplicates (asked : Option String)
  | fillEmpty (column : String) (value : Cell) (asked : Option String)

/-- A snapshot that a workspace can be asked for. -/
inductive Look where
  | table (name : String)
  | currentView
  | filteredView
  | dataView (arrangement : Workspace.Arrangement)

/-- An operation that looks at a workspace. -/
inductive Read where
  | view (look : Look)
  | types (look : Look)
  | kinds (look : Look)
  | prefixOf (name : String)
  | filterColumns
  | filterSubtree (id : String)
  | columnSums (search : String) (caseSensitive : Bool)
  | pivot (config : PivotConfig)
  | quality
  | columnStats (column : String)
  | uniqueValues (column : String) (limit : Option Int)
  | suggestedAnonymization
  | anonymize (named : Option (Assoc Cell))
  | anonymizePreview (named : Option (Assoc Cell)) (limit : Option Int)
  | previewCleaning (column : String) (operation : Cell) (asked : Option String)

/-- An edit as an action. -/
def Edit.action (settings : Settings) : Edit → Action Answer
  | .loadTable name rows => Answer.ofSnapshot <$> Workspace.loadTable name rows
  | .removeTable name => (fun _ => .done) <$> Workspace.removeTable name
  | .setActiveTable name => (fun _ => .done) <$> Workspace.setActiveTable name
  | .clear => (fun _ => .done) <$> Workspace.clear
  | .setJoins joins => (fun _ => .done) <$> Workspace.setJoins joins
  | .setAlias name asked => .text <$> Workspace.setAlias name asked
  | .addCondition parent field operator value =>
      .text <$> Workspace.addCondition settings parent field operator value
  | .addGroup parent logic => .text <$> Workspace.addGroup parent logic
  | .updateNode id changes =>
      (fun _ => .done) <$> Workspace.updateNode settings id changes
  | .removeNode id => (fun _ => .done) <$> Workspace.removeNode id
  | .setFilterTree root => (fun _ => .done) <$> Workspace.setFilterTree settings root
  | .setCaseSensitive enabled => (fun _ => .done) <$> Workspace.setCaseSensitive enabled
  | .cleanColumn column operation asked =>
      Answer.ofSnapshot <$> Workspace.cleanColumn column operation asked
  | .removeDuplicates asked => .count <$> Workspace.removeDuplicates asked
  | .fillEmpty column value asked =>
      Answer.ofSnapshot <$> Workspace.fillEmpty column value asked

/-- Finding a snapshot as an action. -/
def Look.action (settings : Settings) : Look → Action Snapshot
  | .table name => Workspace.getTable name
  | .currentView => Workspace.currentView settings
  | .filteredView => Workspace.filteredView settings
  | .dataView arrangement => Workspace.dataView settings arrangement

/-- A read as an action. -/
def Read.action (settings : Settings) : Read → Action Answer
  | .view look => Answer.ofSnapshot <$> look.action settings
  | .types look => .types <$> (look.action settings >>= Action.types settings)
  | .kinds look => .kinds <$> (look.action settings >>= Action.smartTypes settings)
  | .prefixOf name => (fun workspace => .text (workspace.prefixOf name)) <$> Action.workspace
  | .filterColumns => .columns <$> Workspace.filterColumns settings
  | .filterSubtree id =>
      (fun workspace => .node (workspace.filter.find? id)) <$> Action.workspace
  | .columnSums search caseSensitive =>
      .sums <$> Workspace.columnSums settings search caseSensitive
  | .pivot config => .pivot <$> Workspace.pivot settings config
  | .quality => .quality <$> Workspace.quality settings
  | .columnStats column => .stats <$> Workspace.columnStats settings column
  | .uniqueValues column limit => .values <$> Workspace.uniqueValues settings column limit
  | .suggestedAnonymization => .methods <$> Workspace.suggestedAnonymization settings
  | .anonymize named => .table <$> Workspace.anonymize settings named
  | .anonymizePreview named limit =>
      .rows <$> Workspace.anonymizePreview settings named limit
  | .previewCleaning column operation asked =>
      .changes <$> Workspace.previewCleaning column operation asked

/-- An edit or a read. -/
inductive Operation where
  | edit (edit : Edit)
  | read (read : Read)

namespace Operation

/-- An operation as an action. -/
def action (settings : Settings) : Operation → Action Answer
  | .edit change => change.action settings
  | .read look => look.action settings

/-- The operation may change what the workspace holds. -/
def isEdit : Operation → Bool
  | .edit _ => true
  | .read _ => false

end Operation

namespace Session

/-- A session with a new workspace, whose numbers are drawn from a supply. -/
def start (settings : Settings) (supply : Supply) : Session :=
  let created := WorkspaceStore.newWorkspace settings supply
  { supply := created.2, workspace := created.1 }

/-- The session after operations, performed one after the other. -/
def after (settings : Settings) (session : Session) (operations : List Operation) : Session :=
  operations.foldl
    (fun current operation => ((operation.action settings).perform current).2) session

/-- What an operation answers in a session. -/
def answer (settings : Settings) (session : Session) (operation : Operation) : Outcome Answer :=
  ((operation.action settings).perform session).1

end Session

end Tabular
