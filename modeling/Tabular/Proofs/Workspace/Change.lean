import Tabular.Proofs.Table.Columns
import Tabular.Proofs.Workspace.Atomicity
import Tabular.Proofs.Workspace.Editing
import Tabular.Proofs.Workspace.Validity

namespace Tabular

/-!
# What edits can do

An edit that answers has made one of a few changes of the contents of its workspace, and one that
fails has made none. What has to hold of every workspace is proved of these changes, so that no
other proof has to look into the edits.
-/

namespace Contents

/-- A table is loaded under the name. -/
def IsLoaded (contents : Contents) (name : String) : Prop :=
  ∃ table, contents.tables.find? name = some table

/-- Everything that one edit can make of the contents of a workspace. -/
inductive Change (before : Contents) : Contents → Prop
  | loaded
      (name : String)
      (rows : List Row) :
      Change before (before.withLoaded name (.ofRows (some name) rows))
  | removed
      (name : String) :
      Change before (before.withoutTable name)
  | activated
      (name : String)
      (isLoaded : before.IsLoaded name) :
      Change before { before with active := some name }
  | cleared
      (root : FilterNode)
      (isGroup : root.isGroup = true) :
      Change before (before.cleared root)
  | joined
      (joins : List JoinSpec) :
      Change before { before with joins }
  | named
      (name chosen : String)
      (isLoaded : before.IsLoaded name) :
      Change before { before with aliases := before.aliases.insert name chosen }
  | filtered
      (filter : FilterNode)
      (staysGroup : before.filter.isGroup = true → filter.isGroup = true) :
      Change before { before with filter }
  | caseSet
      (caseSensitive : Bool) :
      Change before { before with caseSensitive }
  /-- A table is read anew from other rows. -/
  | replaced
      (name : String)
      (table : Table)
      (rows : List Row)
      (found : before.tables.find? name = some table) :
      Change before (before.withTable name (table.replace rows))
  /-- A table gets other rows of the same columns, and keeps its description. -/
  | derived
      (name : String)
      (table : Table)
      (rows : List Row)
      (found : before.tables.find? name = some table)
      (sameColumns : columnsOf rows = columnsOf table.rows) :
      Change before (before.withTable name (table.derive rows))

end Contents

/-! ## Filter trees stay groups -/

namespace FilterNode

theorem isGroup_insert
    (parent : String)
    (added root : FilterNode) :
    (insert parent added root).isGroup = root.isGroup := by
  cases root with
  | condition leaf =>
      rw [insert]
  | group id logic children =>
      rw [insert]
      split <;> rfl

theorem isGroup_remove
    (unwanted : String)
    (root : FilterNode) :
    (remove unwanted root).isGroup = root.isGroup := by
  cases root with
  | condition leaf =>
      rw [remove]
  | group id logic children =>
      rw [remove]
      rfl

theorem isGroup_of_update
    {wanted : String}
    {changes : Changes}
    {root updated : FilterNode}
    (answered : update wanted changes root = .ok updated)
    (isGroup : root.isGroup = true) :
    updated.isGroup = true := by
  rw [update] at answered
  split at answered
  · cases answered
  · cases root with
    | condition leaf =>
        cases isGroup
    | group id logic children =>
        rw [updateNodes] at answered
        split at answered
        · obtain ⟨_, -, applied⟩ := Outcome.bind_eq_ok_iff.mp answered
          dsimp only at applied
          split at applied
          · obtain ⟨_, -, applied⟩ := Outcome.bind_eq_ok_iff.mp applied
            cases applied
            rfl
          · cases applied
            rfl
        · cases found : updateAmong wanted changes children with
          | error fault =>
              rw [found] at answered
              cases answered
          | ok members =>
              rw [found] at answered
              cases answered
              rfl

end FilterNode

namespace Workspace

open Tabular.Action

variable {settings : Settings} {session after : Session}

/-! ## Looking -/

theorem contents_eq_of_same
    {before after : Workspace}
    (same : before.SameApartFromMemory after) :
    after.contents = before.contents := by
  obtain ⟨cache, memo, rfl⟩ := same
  rfl

theorem contents_eq_of_keeps
    {α : Type}
    {action : Action α}
    (keeps : action.Keeps)
    {outcome : Outcome α}
    (performed : action.perform session = (outcome, after)) :
    after.workspace.contents = session.workspace.contents := by
  have same := contents_eq_of_same (keeps.same session)
  rwa [performed] at same

theorem find?_contents
    (workspace : Workspace)
    (name : String) :
    workspace.contents.tables.find? name =
      (workspace.tables.find? name).map Snapshot.table :=
  Assoc.find?_mapValues _ workspace.tables name

theorem find?_of_getTable
    {name : String}
    {snapshot : Snapshot}
    (performed : (getTable name).perform session = (.ok snapshot, after)) :
    after = session ∧ session.workspace.tables.find? name = some snapshot := by
  obtain ⟨workspace, middle, looked, answered⟩ := exists_of_perform_bind_eq_ok performed
  cases looked
  split at answered
  · next found =>
      cases answered
      exact ⟨rfl, found⟩
  · cases answered

theorem find?_contents_of_found
    {workspace : Workspace}
    {name : String}
    {snapshot : Snapshot}
    (found : workspace.tables.find? name = some snapshot) :
    workspace.contents.tables.find? name = some snapshot.table := by
  rw [find?_contents, found]
  rfl

theorem find?_of_target
    {asked : Option String}
    {name : String}
    {snapshot : Snapshot}
    (performed : (target asked).perform session = (.ok (name, snapshot), after)) :
    after = session ∧ session.workspace.tables.find? name = some snapshot := by
  obtain ⟨workspace, middle, looked, answered⟩ := exists_of_perform_bind_eq_ok performed
  cases looked
  dsimp only at answered
  split at answered
  · obtain ⟨found, middle, isFound, answered⟩ := exists_of_perform_bind_eq_ok answered
    cases answered
    exact find?_of_getTable isFound
  · cases answered

/-! ## Edits of tables -/

theorem change_of_loadTable
    {name : String}
    {rows : List Row}
    {snapshot : Snapshot}
    (performed : (loadTable name rows).perform session = (.ok snapshot, after)) :
    session.workspace.contents.Change after.workspace.contents := by
  cases performed
  have contents :=
    contents_withTable session.workspace name
      ⟨session.supply.snapshots, session.supply.snapshots, .ofRows (some name) rows⟩
  have change :
      session.workspace.contents.Change
        (session.workspace.contents.withLoaded name (.ofRows (some name) rows)) :=
    .loaded name rows
  rw [Contents.withLoaded, ← contents] at change
  exact change

theorem contents_of_removeTable
    {name : String}
    (performed : (removeTable name).perform session = (.ok (), after)) :
    after.workspace.contents = session.workspace.contents.withoutTable name := by
  obtain ⟨snapshot, middle, found, answered⟩ := exists_of_perform_bind_eq_ok performed
  obtain ⟨rfl, -⟩ := find?_of_getTable found
  cases answered
  exact contents_withoutTable _ name

theorem change_of_setActiveTable
    {name : String}
    (performed : (setActiveTable name).perform session = (.ok (), after)) :
    session.workspace.contents.Change after.workspace.contents := by
  obtain ⟨snapshot, middle, found, answered⟩ := exists_of_perform_bind_eq_ok performed
  obtain ⟨rfl, isFound⟩ := find?_of_getTable found
  cases answered
  exact .activated name ⟨_, find?_contents_of_found isFound⟩

theorem change_of_setAlias
    {name asked chosen : String}
    (performed : (setAlias name asked).perform session = (.ok chosen, after)) :
    session.workspace.contents.Change after.workspace.contents := by
  obtain ⟨snapshot, middle, found, answered⟩ := exists_of_perform_bind_eq_ok performed
  obtain ⟨rfl, isFound⟩ := find?_of_getTable found
  obtain ⟨workspace, middle, looked, answered⟩ := exists_of_perform_bind_eq_ok answered
  cases looked
  have isAfter := congrArg Prod.snd answered
  subst isAfter
  exact .named name _ ⟨_, find?_contents_of_found isFound⟩

/-! ## Edits of the filter -/

theorem workspace_of_ofNaming
    {α : Type}
    {naming : Naming α}
    {outcome : Outcome α}
    (performed : (Action.ofNaming naming).perform session = (outcome, after)) :
    after.workspace = session.workspace := by
  rcases drawn : naming.run session.supply.nodes with fault | ⟨value, nodes⟩
  · rw [perform_ofNaming_of_error drawn] at performed
    cases performed
    rfl
  · rw [perform_ofNaming_of_ok drawn] at performed
    cases performed
    rfl

theorem change_of_addNode
    {parent : Option String}
    {node : FilterNode}
    {id : String}
    (performed : (addNode parent node).perform session = (.ok id, after)) :
    session.workspace.contents.Change after.workspace.contents := by
  obtain ⟨workspace, middle, looked, answered⟩ := exists_of_perform_bind_eq_ok performed
  cases looked
  obtain ⟨filter, middle, inserted, answered⟩ := exists_of_perform_bind_eq_ok answered
  rw [perform_ofOutcome] at inserted
  obtain ⟨isInserted, rfl⟩ := Prod.mk.inj inserted
  cases answered
  rw [insertNode] at isInserted
  split at isInserted
  · cases isInserted
    exact .filtered _ fun isGroup => (FilterNode.isGroup_insert _ _ _).trans isGroup
  · cases isInserted

theorem change_of_addCondition
    {parent field operator : Option String}
    {value : Cell}
    {id : String}
    (performed :
      (addCondition settings parent field operator value).perform session = (.ok id, after)) :
    session.workspace.contents.Change after.workspace.contents := by
  obtain ⟨condition, named, drawn, answered⟩ := exists_of_perform_bind_eq_ok performed
  obtain ⟨types, typed, typesFound, answered⟩ := exists_of_perform_bind_eq_ok answered
  obtain ⟨_, validated, checked, answered⟩ := exists_of_perform_bind_eq_ok answered
  rw [perform_ofOutcome] at checked
  obtain ⟨-, rfl⟩ := Prod.mk.inj checked
  have sameNamed := workspace_of_ofNaming drawn
  have sameTyped := contents_eq_of_keeps (keeps_currentTypes settings) typesFound
  rw [← sameNamed, ← sameTyped]
  exact change_of_addNode answered

theorem change_of_addGroup
    {parent : Option String}
    {logic : Cell}
    {id : String}
    (performed : (addGroup parent logic).perform session = (.ok id, after)) :
    session.workspace.contents.Change after.workspace.contents := by
  obtain ⟨group, named, drawn, answered⟩ := exists_of_perform_bind_eq_ok performed
  rw [← workspace_of_ofNaming drawn]
  exact change_of_addNode answered

theorem change_of_updateNode
    {id : String}
    {changes : FilterNode.Changes}
    (performed : (updateNode settings id changes).perform session = (.ok (), after)) :
    session.workspace.contents.Change after.workspace.contents := by
  obtain ⟨workspace, middle, looked, answered⟩ := exists_of_perform_bind_eq_ok performed
  cases looked
  dsimp only at answered
  split at answered
  · obtain ⟨types, typed, typesFound, answered⟩ := exists_of_perform_bind_eq_ok answered
    obtain ⟨filter, changed, isChanged, answered⟩ := exists_of_perform_bind_eq_ok answered
    rw [perform_ofOutcome] at isChanged
    obtain ⟨changedTo, rfl⟩ := Prod.mk.inj isChanged
    rw [← contents_eq_of_keeps (keeps_currentTypes settings) typesFound]
    have sameFilter := filter_eq_of_keeps (keeps_currentTypes settings) typesFound
    cases answered
    refine .filtered filter fun isGroup => ?_
    rw [changedFilter] at changedTo
    obtain ⟨updated, isUpdated, checked⟩ := Outcome.bind_eq_ok_iff.mp changedTo
    obtain ⟨-, -, isFilter⟩ := Outcome.bind_eq_ok_iff.mp checked
    cases isFilter
    exact FilterNode.isGroup_of_update isUpdated (sameFilter ▸ isGroup)
  · cases answered

theorem change_of_setFilterTree
    {root : FilterNode}
    (performed : (setFilterTree settings root).perform session = (.ok (), after)) :
    session.workspace.contents.Change after.workspace.contents := by
  cases root with
  | condition leaf =>
      cases performed
  | group id logic children =>
      obtain ⟨types, typed, typesFound, answered⟩ := exists_of_perform_bind_eq_ok performed
      obtain ⟨_, validated, checked, answered⟩ := exists_of_perform_bind_eq_ok answered
      rw [perform_ofOutcome] at checked
      obtain ⟨-, rfl⟩ := Prod.mk.inj checked
      rw [← contents_eq_of_keeps (keeps_currentTypes settings) typesFound]
      cases answered
      exact .filtered _ fun _ => rfl

/-! ## Cleaning -/

theorem table_of_newSnapshot
    {table : Table}
    {snapshot : Snapshot}
    (performed : (Action.newSnapshot table).perform session = (.ok snapshot, after)) :
    snapshot.table = table ∧ after.workspace = session.workspace := by
  cases performed
  exact ⟨rfl, rfl⟩

theorem table_of_derivedSnapshot
    {source snapshot : Snapshot}
    {table : Table}
    (performed : (Action.derivedSnapshot source table).perform session = (.ok snapshot, after)) :
    snapshot.table = table ∧ after.workspace = session.workspace := by
  cases performed
  exact ⟨rfl, rfl⟩

/-- A table that is read anew under its name has been replaced. -/
theorem change_of_newSnapshot_replaceTable
    {α : Type}
    {name : String}
    {source : Snapshot}
    {rows : List Row}
    {image : Snapshot → α}
    {answer : α}
    (found : session.workspace.tables.find? name = some source)
    (performed :
      (do
        let snapshot ← Action.newSnapshot (source.table.replace rows)
        replaceTable name snapshot
        return image snapshot : Action α).perform session = (.ok answer, after)) :
    session.workspace.contents.Change after.workspace.contents := by
  obtain ⟨snapshot, middle, issued, answered⟩ := exists_of_perform_bind_eq_ok performed
  obtain ⟨isReplaced, sameWorkspace⟩ := table_of_newSnapshot issued
  cases answered
  change session.workspace.contents.Change (middle.workspace.withTable name snapshot).contents
  rw [sameWorkspace, contents_withTable, isReplaced]
  exact .replaced name source.table rows (find?_contents_of_found found)

theorem change_of_cleanColumn
    {column : String}
    {operation : Cell}
    {asked : Option String}
    {snapshot : Snapshot}
    (performed : (cleanColumn column operation asked).perform session = (.ok snapshot, after)) :
    session.workspace.contents.Change after.workspace.contents := by
  obtain ⟨⟨name, source⟩, middle, targeted, answered⟩ := exists_of_perform_bind_eq_ok performed
  obtain ⟨rfl, found⟩ := find?_of_target targeted
  obtain ⟨operation, named, isNamed, answered⟩ := exists_of_perform_bind_eq_ok answered
  rw [perform_ofOutcome] at isNamed
  obtain ⟨-, rfl⟩ := Prod.mk.inj isNamed
  exact change_of_newSnapshot_replaceTable found answered

theorem change_of_fillEmpty
    {column : String}
    {value : Cell}
    {asked : Option String}
    {snapshot : Snapshot}
    (performed : (fillEmpty column value asked).perform session = (.ok snapshot, after)) :
    session.workspace.contents.Change after.workspace.contents := by
  obtain ⟨⟨name, source⟩, middle, targeted, answered⟩ := exists_of_perform_bind_eq_ok performed
  obtain ⟨rfl, found⟩ := find?_of_target targeted
  exact change_of_newSnapshot_replaceTable found answered

/-- The snapshot without repeated rows shows the rows that repeat no earlier one. -/
theorem table_of_withoutDuplicates
    {source distinct : Snapshot}
    (performed : (withoutDuplicates source).perform session = (.ok distinct, after)) :
    (∃ rows, distinct.table = source.table.derive rows ∧
        columnsOf rows = columnsOf source.table.rows) ∧
      after.workspace = session.workspace := by
  rw [withoutDuplicates] at performed
  split at performed
  · cases performed
    exact ⟨⟨_, rfl, rfl⟩, rfl⟩
  · obtain ⟨table, middle, removed, issued⟩ := exists_of_perform_bind_eq_ok performed
    rw [perform_ofOutcome] at removed
    obtain ⟨isRemoved, rfl⟩ := Prod.mk.inj removed
    obtain ⟨isTable, sameWorkspace⟩ := table_of_derivedSnapshot issued
    rw [isTable]
    exact ⟨derive_of_removeDuplicateRows isRemoved, sameWorkspace⟩

theorem change_of_removeDuplicates
    {asked : Option String}
    {removed : Nat}
    (performed : (removeDuplicates asked).perform session = (.ok removed, after)) :
    session.workspace.contents.Change after.workspace.contents := by
  obtain ⟨⟨name, source⟩, middle, targeted, answered⟩ := exists_of_perform_bind_eq_ok performed
  obtain ⟨rfl, found⟩ := find?_of_target targeted
  obtain ⟨distinct, middle, isDistinct, answered⟩ := exists_of_perform_bind_eq_ok answered
  obtain ⟨⟨rows, isDerived, sameColumns⟩, sameWorkspace⟩ := table_of_withoutDuplicates isDistinct
  cases answered
  change _ = _ at sameWorkspace
  rw [← sameWorkspace] at found ⊢
  rw [contents_withTable, isDerived]
  exact .derived name source.table rows (find?_contents_of_found found) sameColumns

end Workspace

/-! ## All edits -/

/-- An edit that answers has made one of the changes. -/
theorem Edit.change_of_answered
    {settings : Settings}
    {session : Session}
    {edit : Edit}
    {answer : Answer}
    (answered : session.answer settings (.edit edit) = .ok answer) :
    session.workspace.contents.Change
      (session.after settings [.edit edit]).workspace.contents := by
  cases edit with
  | loadTable name rows =>
      obtain ⟨_, performed⟩ := Action.exists_of_perform_map_eq_ok answered
      exact Workspace.change_of_loadTable performed
  | removeTable name =>
      obtain ⟨_, performed⟩ := Action.exists_of_perform_map_eq_ok answered
      exact Workspace.contents_of_removeTable performed ▸ .removed name
  | setActiveTable name =>
      obtain ⟨_, performed⟩ := Action.exists_of_perform_map_eq_ok answered
      exact Workspace.change_of_setActiveTable performed
  | clear =>
      exact .cleared _ rfl
  | setJoins joins =>
      exact .joined joins
  | setAlias name asked =>
      obtain ⟨_, performed⟩ := Action.exists_of_perform_map_eq_ok answered
      exact Workspace.change_of_setAlias performed
  | addCondition parent field operator value =>
      obtain ⟨_, performed⟩ := Action.exists_of_perform_map_eq_ok answered
      exact Workspace.change_of_addCondition performed
  | addGroup parent logic =>
      obtain ⟨_, performed⟩ := Action.exists_of_perform_map_eq_ok answered
      exact Workspace.change_of_addGroup performed
  | updateNode id changes =>
      obtain ⟨_, performed⟩ := Action.exists_of_perform_map_eq_ok answered
      exact Workspace.change_of_updateNode performed
  | removeNode id =>
      exact .filtered _ fun isGroup => (FilterNode.isGroup_remove _ _).trans isGroup
  | setFilterTree root =>
      obtain ⟨_, performed⟩ := Action.exists_of_perform_map_eq_ok answered
      exact Workspace.change_of_setFilterTree performed
  | setCaseSensitive enabled =>
      exact .caseSet enabled
  | cleanColumn column operation asked =>
      obtain ⟨_, performed⟩ := Action.exists_of_perform_map_eq_ok answered
      exact Workspace.change_of_cleanColumn performed
  | removeDuplicates asked =>
      obtain ⟨_, performed⟩ := Action.exists_of_perform_map_eq_ok answered
      exact Workspace.change_of_removeDuplicates performed
  | fillEmpty column value asked =>
      obtain ⟨_, performed⟩ := Action.exists_of_perform_map_eq_ok answered
      exact Workspace.change_of_fillEmpty performed

/-- An operation changes the contents in one of the ways of an edit, or not at all. -/
theorem Operation.contents_eq_or_change
    (settings : Settings)
    (session : Session)
    (operation : Operation) :
    (session.after settings [operation]).workspace.contents = session.workspace.contents ∨
      session.workspace.contents.Change
        (session.after settings [operation]).workspace.contents := by
  cases operation with
  | read look =>
      exact .inl (Workspace.contents_eq_of_same ((look.keeps_action settings).same session))
  | edit change =>
      cases ended : session.answer settings (.edit change) with
      | ok answer =>
          exact .inr (change.change_of_answered ended)
      | error fault =>
          exact .inl
            (Workspace.contents_eq_of_same (change.atomic_action settings session fault ended))

end Tabular
