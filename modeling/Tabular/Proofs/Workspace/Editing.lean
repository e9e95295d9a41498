import Tabular.Proofs.Workspace.Reading

namespace Tabular

/-!
# Edits as changes of contents

Every edit makes of the contents of a workspace what the plain change of the contents makes of them,
or fails with the same fault and leaves them. Versions and what is remembered play no part in it, as
long as no dates and moments come into the filter tree.
-/

/-! ## The contents of changed workspaces -/

namespace Workspace

theorem contents_withTable
    (workspace : Workspace)
    (name : String)
    (snapshot : Snapshot) :
    (workspace.withTable name snapshot).contents =
      workspace.contents.withTable name snapshot.table := by
  simp only [withTable, contents, Contents.withTable, Assoc.mapValues_insert]

theorem contents_withoutTable
    (workspace : Workspace)
    (name : String) :
    (workspace.withoutTable name).contents =
      workspace.contents.withoutTable name := by
  simp only [withoutTable, contents, Contents.withoutTable,
    ← Assoc.mapValues_erase, Assoc.keys_mapValues]

theorem aliasFor_contents
    (workspace : Workspace)
    (name asked : String) :
    workspace.contents.aliasFor name asked = workspace.aliasFor name asked := by
  simp only [Contents.aliasFor, aliasFor, contents, Assoc.keys_mapValues]

theorem withNode_contents
    (workspace : Workspace)
    (parent : Option String)
    (node : FilterNode) :
    workspace.contents.withNode parent node =
      (workspace.insertNode (workspace.parentOf parent) node).map
        fun filter => { workspace.contents with filter } := by
  have sameParent :
      (parent.filter fun id => id ≠ "").getD workspace.contents.filter.id =
        workspace.parentOf parent := by
    cases parent with
    | none =>
        rfl
    | some id =>
        by_cases isBlank : id = "" <;>
          simp [parentOf, isBlank, contents, Option.filter]
  have sameFilter : workspace.contents.filter = workspace.filter :=
    rfl
  rw [Contents.withNode, sameParent, insertNode, sameFilter]
  dsimp only
  cases workspace.filter.find? (workspace.parentOf parent) with
  | none =>
      rfl
  | some found =>
      cases found with
      | condition leaf =>
          rfl
      | group id logic children =>
          rfl

end Workspace

namespace Action

variable {α : Type} {settings : Settings} {ledger : Ledger} {contents : Contents}

/--
The action changes the contents as the plain computation tells, and the image of its answer is the
answer told.
-/
abbrev Edits (settings : Settings) (ledger : Ledger) (contents : Contents) (action : Action α)
    (image : α → Answer) (plain : Outcome (Answer × Contents)) : Prop :=
  action.Follows settings ledger contents plain Prod.snd
    fun _ value answer => image value = answer.1

/-- A change that keeps what is held and remembers no more than before edits the contents. -/
theorem Follows.modifyWorkspace
    {change : Workspace → Workspace}
    {image : Unit → Answer}
    {changed : Contents}
    (holds : ∀ wider, ledger ⊆ wider → ∀ workspace : Workspace,
      workspace.Held wider → workspace.contents = contents →
        (change workspace).Held wider ∧ (change workspace).contents = changed)
    (remembersLess : ∀ workspace : Workspace,
      (∀ entry ∈ (change workspace).cache.entries,
          entry ∈ workspace.cache.entries) ∧
        ∀ key value, (change workspace).memo key = some value →
          workspace.memo key = some value) :
    (Action.modifyWorkspace change).Edits settings ledger contents image
      (.ok (image (), changed)) := by
  intro wider grows session sound hasContents
  obtain ⟨held, contentsAfter⟩ :=
    holds wider grows session.workspace sound.held hasContents
  obtain ⟨cacheBefore, memoBefore⟩ := remembersLess session.workspace
  refine
    ⟨wider, subset_rfl, ⟨sound.consistent, held, ?_, ?_⟩, rfl,
      .answered rfl contentsAfter⟩
  · exact fun member => sound.remembers.cache (cacheBefore _ member)
  · exact fun known => sound.remembers.memo (memoBefore _ _ known)

/-- A change followed by an answer edits the contents. -/
theorem Follows.modifyWorkspace_bind
    {change : Workspace → Workspace}
    {value : α}
    {image : α → Answer}
    {changed : Contents}
    (edits : (Action.modifyWorkspace change).Edits settings ledger contents
      (fun _ => image value) (.ok (image value, changed))) :
    (Action.modifyWorkspace change >>= fun _ => Pure.pure value).Edits settings
      ledger contents image (.ok (image value, changed)) := by
  rw [bind_pure_comp]
  exact edits.mapValue fun _ _ _ same => same

end Action

namespace Workspace

open Tabular.Action

variable {settings : Settings} {ledger : Ledger} {contents : Contents}

/-- A change of nothing but what is held, which forgets nothing. -/
theorem remembersNoMore
    (workspace : Workspace) :
    (∀ entry ∈ workspace.cache.entries, entry ∈ workspace.cache.entries) ∧
      ∀ key value, workspace.memo key = some value →
        workspace.memo key = some value :=
  ⟨fun _ member => member, fun _ _ known => known⟩

/-! ## Edits of tables -/

theorem edits_loadTable
    (name : String)
    (rows : List Row) :
    (loadTable name rows).Edits settings ledger contents Answer.ofSnapshot
      (.ok
        (.table (Table.ofRows (some name) rows),
          contents.withLoaded name (Table.ofRows (some name) rows))) := by
  change (loadTable name rows).Edits settings ledger contents Answer.ofSnapshot
    (Except.ok (Table.ofRows (some name) rows) >>= fun table =>
      Except.ok (.table table, contents.withLoaded name table))
  refine (Follows.newSnapshot _).knowing.bind ?_
  rintro wider _ snapshot _ ⟨⟨issued, rfl⟩, shown⟩
  have named : snapshot.table.name = some name := by
    rw [← Except.ok.inj shown]
    rfl
  refine .modifyWorkspace_bind (.modifyWorkspace ?_ remembersNoMore)
  intro further grows workspace held isContents
  subst isContents
  refine ⟨⟨held.tables.insert (grows issued) named, held.filter⟩, ?_⟩
  rw [Contents.withLoaded, ← contents_withTable]
  rfl

/-- Giving a table a snapshot edits the contents. -/
theorem edits_replaceTable
    {α : Type}
    {name : String}
    {snapshot : Snapshot}
    (issued : snapshot ∈ ledger)
    (named : snapshot.table.name = some name)
    (value : α)
    (image : α → Answer) :
    (replaceTable name snapshot >>= fun _ => Pure.pure value).Edits settings
      ledger contents image
      (.ok (image value, contents.withTable name snapshot.table)) := by
  refine .modifyWorkspace_bind (.modifyWorkspace ?_ remembersNoMore)
  intro wider grows workspace held isContents
  subst isContents
  exact
    ⟨⟨held.tables.insert (grows issued) named, held.filter⟩,
      contents_withTable workspace name snapshot⟩

theorem edits_removeTable
    (name : String) :
    (removeTable name).Edits settings ledger contents (fun _ => .done)
      (contents.getTable name >>= fun _ =>
        .ok (.done, contents.withoutTable name)) := by
  refine (tells_getTable name).bind ?_
  rintro wider _ _ _ _
  refine .modifyWorkspace ?_ remembersNoMore
  intro further _ workspace held isContents
  subst isContents
  exact
    ⟨⟨held.tables.erase name, held.filter⟩,
      contents_withoutTable workspace name⟩

theorem edits_setActiveTable
    (name : String) :
    (setActiveTable name).Edits settings ledger contents (fun _ => .done)
      (contents.getTable name >>= fun _ =>
        .ok (.done, { contents with active := some name })) := by
  refine (tells_getTable name).bind ?_
  rintro wider _ _ _ _
  refine .modifyWorkspace ?_ remembersNoMore
  rintro further _ workspace held rfl
  exact ⟨⟨held.tables, held.filter⟩, rfl⟩

theorem edits_setAlias
    (name asked : String) :
    (setAlias name asked).Edits settings ledger contents .text
      (contents.getTable name >>= fun _ =>
        .ok
          (.text (contents.aliasFor name asked),
            { contents with
              aliases :=
                contents.aliases.insert name
                  (contents.aliasFor name asked) })) := by
  refine (tells_getTable name).bind ?_
  rintro wider _ _ _ _
  refine .workspace_bind fun further _ workspace _ isContents => ?_
  rw [← aliasFor_contents, isContents]
  refine .modifyWorkspace_bind (.modifyWorkspace ?_ remembersNoMore)
  rintro latest _ current held rfl
  exact ⟨⟨held.tables, held.filter⟩, rfl⟩

theorem edits_setJoins
    (joins : List JoinSpec) :
    (setJoins joins).Edits settings ledger contents (fun _ => .done)
      (.ok (.done, { contents with joins })) := by
  refine .modifyWorkspace ?_ remembersNoMore
  rintro wider _ workspace held rfl
  exact ⟨⟨held.tables, held.filter⟩, rfl⟩

theorem edits_setCaseSensitive
    (enabled : Bool) :
    (setCaseSensitive enabled).Edits settings ledger contents (fun _ => .done)
      (.ok (.done, { contents with caseSensitive := enabled })) := by
  refine .modifyWorkspace ?_ remembersNoMore
  rintro wider _ workspace held rfl
  exact ⟨⟨held.tables, held.filter⟩, rfl⟩

/-- Clearing a workspace edits the contents and forgets everything. -/
theorem edits_clear
    (id : String)
    (logic : Logic) :
    (Action.modifyWorkspace fun workspace =>
      { workspace with
        tables := .empty
        active := none
        aliases := .empty
        joins := []
        filter := .group id logic []
        cache := workspace.cache.clear
        memo := .empty }).Edits settings ledger contents (fun _ => .done)
      (.ok (.done, contents.cleared (.group id logic []))) := by
  refine .modifyWorkspace ?_ fun workspace => ⟨?_, ?_⟩
  · rintro wider _ workspace _ rfl
    exact ⟨⟨.empty, fun _ member => absurd member List.not_mem_nil⟩, rfl⟩
  · exact fun _ member => absurd member List.not_mem_nil
  · exact fun _ _ known => absurd known.symm (Option.some_ne_none _)

/-! ## Edits of the filter tree -/

/-- Replacing the filter tree by a plain one edits the contents. -/
theorem edits_replaceFilter
    {filter : FilterNode}
    (isPlain : filter.IsPlain)
    (image : Unit → Answer) :
    (replaceFilter filter).Edits settings ledger contents image
      (.ok (image (), { contents with filter })) := by
  refine .modifyWorkspace ?_ remembersNoMore
  rintro wider _ workspace held rfl
  exact ⟨⟨held.tables, isPlain⟩, rfl⟩

theorem edits_addNode
    (parent : Option String)
    {node : FilterNode}
    (isPlain : node.IsPlain) :
    (addNode parent node).Edits settings ledger contents .text
      (contents.withNode parent node >>= fun changed =>
        .ok (.text node.id, changed)) := by
  refine .workspace_bind fun wider _ workspace held isContents => ?_
  subst isContents
  have sameChain :
      (workspace.contents.withNode parent node >>= fun changed =>
          Except.ok (Answer.text node.id, changed)) =
        workspace.insertNode (workspace.parentOf parent) node >>= fun filter =>
          .ok (.text node.id, { workspace.contents with filter }) := by
    rw [withNode_contents]
    cases workspace.insertNode (workspace.parentOf parent) node <;> rfl
  rw [sameChain]
  refine .ofOutcome_bind fun filter inserted => ?_
  have filterIsPlain : filter.IsPlain := by
    rw [insertNode] at inserted
    split at inserted
    · rw [← Except.ok.inj inserted]
      exact held.filter.insert isPlain _
    · exact absurd inserted nofun
  exact .modifyWorkspace_bind (edits_replaceFilter filterIsPlain _)

/-- The types of the current view follow those of the contents. -/
theorem tells_currentTypes :
    (currentTypes settings).Tells settings ledger contents
      (contents.currentTypes settings) Same := by
  refine tells_currentView.bind ?_
  rintro wider _ view _ ⟨issued, rfl⟩
  exact .types issued

theorem edits_condition
    (parent : Option String)
    {condition : Condition}
    (isPlain : condition.value.isPlain) :
    (do
      Action.ofOutcome (condition.validate (← currentTypes settings))
      addNode parent (.condition condition)).Edits settings ledger contents
      .text
      (do
        condition.validate (← contents.currentTypes settings)
        return (.text condition.id,
          ← contents.withNode parent (.condition condition))) := by
  refine tells_currentTypes.bind ?_
  rintro wider _ types _ rfl
  refine .ofOutcome_bind fun _ _ => edits_addNode parent ?_
  intro leaf member
  rwa [List.mem_singleton.mp member]

/-- Completed changes are plain when the changes are. -/
theorem arePlain_completeChanges
    (types : Assoc ColumnType)
    (node : FilterNode)
    {changes : FilterNode.Changes}
    (arePlain : changes.ArePlain) :
    (completeChanges types node changes).ArePlain := by
  rw [completeChanges.eq_def]
  split
  · split
    · exact arePlain
    · refine ⟨?_, arePlain.children⟩
      have valueIsPlain := arePlain.value
      cases asked : changes.value with
      | none =>
          rfl
      | some value =>
          rwa [asked] at valueIsPlain
  · exact arePlain

/-- A plain filter tree is plain after plain changes. -/
theorem isPlain_of_changedFilter
    {types : Assoc ColumnType}
    {filter node changed : FilterNode}
    {id : String}
    {changes : FilterNode.Changes}
    (filterIsPlain : filter.IsPlain)
    (arePlain : changes.ArePlain)
    (changedTo : changedFilter types filter node id changes = .ok changed) :
    changed.IsPlain := by
  obtain ⟨updated, performed, validated⟩ :=
    Outcome.bind_eq_ok_iff.mp changedTo
  obtain ⟨_, _, isChanged⟩ := Outcome.bind_eq_ok_iff.mp validated
  rw [← Outcome.pure_eq_ok_iff.mp isChanged]
  rw [FilterNode.update] at performed
  split at performed
  · exact absurd performed nofun
  · exact filterIsPlain.updateNodes
      (arePlain_completeChanges types node arePlain) performed

theorem edits_updateNode
    (id : String)
    {changes : FilterNode.Changes}
    (arePlain : changes.ArePlain) :
    (updateNode settings id changes).Edits settings ledger contents
      (fun _ => .done)
      (contents.withChanged settings id changes >>= fun changed =>
        .ok (.done, changed)) := by
  refine .workspace_bind fun wider _ workspace held isContents => ?_
  have sameFilter : workspace.filter = contents.filter :=
    congrArg Contents.filter isContents
  have filterIsPlain := held.filter
  rw [sameFilter] at filterIsPlain
  dsimp only
  rw [sameFilter, Contents.withChanged]
  cases contents.filter.find? id with
  | none =>
      exact .throw _
  | some node =>
      dsimp only
      rw [bind_assoc]
      refine tells_currentTypes.bind ?_
      rintro further _ types _ rfl
      rw [bind_assoc]
      refine .ofOutcome_bind fun filter changedTo => ?_
      exact edits_replaceFilter
        (isPlain_of_changedFilter filterIsPlain arePlain changedTo) _

theorem edits_removeNode
    (id : String) :
    (removeNode id).Edits settings ledger contents (fun _ => .done)
      (.ok (.done, { contents with filter := contents.filter.remove id })) := by
  refine .workspace_bind fun wider _ workspace held isContents => ?_
  subst isContents
  exact edits_replaceFilter (held.filter.remove id) _

theorem edits_setFilterTree
    {root : FilterNode}
    (isPlain : root.IsPlain) :
    (setFilterTree settings root).Edits settings ledger contents
      (fun _ => .done)
      (contents.withFilter settings root >>= fun changed =>
        .ok (.done, changed)) := by
  cases root with
  | condition leaf =>
      exact .throw _
  | group id logic children =>
      rw [Contents.withFilter, bind_assoc]
      refine tells_currentTypes.bind ?_
      rintro wider _ types _ rfl
      rw [bind_assoc]
      exact .ofOutcome_bind fun _ _ => edits_replaceFilter isPlain _

/-! ## Cleaning steps -/

/-- Giving a table new rows that are described anew edits the contents. -/
theorem edits_replaced
    {name : String}
    {table : Table}
    (named : table.name = some name) :
    (do
      let cleaned ← Action.newSnapshot table
      replaceTable name cleaned
      return cleaned).Edits settings ledger contents Answer.ofSnapshot
      (.ok (.table table, contents.withTable name table)) := by
  change (Action.newSnapshot table >>= _).Edits settings ledger contents _
    (Except.ok table >>= fun table =>
      Except.ok (.table table, contents.withTable name table))
  refine (Follows.newSnapshot table).knowing.bind ?_
  rintro wider _ snapshot _ ⟨⟨issued, rfl⟩, shown⟩
  rw [Except.ok.inj shown] at named
  exact edits_replaceTable issued named snapshot Answer.ofSnapshot

theorem edits_cleanColumn
    (column : String)
    (operation : Cell)
    (asked : Option String) :
    (cleanColumn column operation asked).Edits settings ledger contents
      Answer.ofSnapshot
      (do
        let (name, table) ← contents.target asked
        let operation ← CleaningOperation.ofCell operation
        let cleaned := Tabular.cleanColumn column operation table
        return (.table cleaned, contents.withTable name cleaned)) := by
  refine (tells_target asked).bind ?_
  rintro wider _ ⟨name, snapshot⟩ ⟨_, table⟩ ⟨rfl, ⟨_, rfl⟩, named⟩
  exact .ofOutcome_bind fun operation _ => edits_replaced named

theorem edits_fillEmpty
    (column : String)
    (value : Cell)
    (asked : Option String) :
    (fillEmpty column value asked).Edits settings ledger contents
      Answer.ofSnapshot
      (do
        let (name, table) ← contents.target asked
        let filled := Tabular.fillEmpty column value table
        return (.table filled, contents.withTable name filled)) := by
  refine (tells_target asked).bind ?_
  rintro wider _ ⟨name, snapshot⟩ ⟨_, table⟩ ⟨rfl, ⟨_, rfl⟩, named⟩
  exact edits_replaced named

/-- A table without repeated rows is the table with other rows. -/
theorem exists_derive_of_removeDuplicateRows
    {table distinct : Table}
    (removed : removeDuplicateRows table = .ok distinct) :
    ∃ rows, distinct = table.derive rows := by
  rw [removeDuplicateRows] at removed
  split at removed
  · exact ⟨table.rows, (Outcome.pure_eq_ok_iff.mp removed).symm⟩
  · obtain ⟨places, _, isDistinct⟩ := Outcome.bind_eq_ok_iff.mp removed
    exact ⟨_, (Outcome.pure_eq_ok_iff.mp isDistinct).symm⟩

/-- The snapshot without repeated rows shows the table without them. -/
theorem tells_withoutDuplicates
    {snapshot : Snapshot}
    (issued : snapshot ∈ ledger) :
    (withoutDuplicates snapshot).Tells settings ledger contents
      (removeDuplicateRows snapshot.table) Ledger.Shows := by
  rw [withoutDuplicates]
  split
  · next isEmpty =>
      rw [removeDuplicateRows, if_pos isEmpty]
      exact .pure fun _ grows => ⟨grows issued, rfl⟩
  · cases removed : removeDuplicateRows snapshot.table with
    | error fault =>
        exact .throw fault
    | ok distinct =>
        obtain ⟨rows, rfl⟩ := exists_derive_of_removeDuplicateRows removed
        exact .derivedSnapshot issued rfl rfl

theorem edits_removeDuplicates
    (asked : Option String) :
    (removeDuplicates asked).Edits settings ledger contents .count
      (do
        let (name, table) ← contents.target asked
        let distinct ← removeDuplicateRows table
        return (.count (table.rows.length - distinct.rows.length),
          contents.withTable name distinct)) := by
  refine (tells_target asked).bind ?_
  rintro wider _ ⟨name, snapshot⟩ ⟨_, table⟩ ⟨rfl, ⟨issued, rfl⟩, named⟩
  refine (tells_withoutDuplicates issued).knowing.bind ?_
  rintro further _ distinct _ ⟨⟨distinctIssued, rfl⟩, removed⟩
  obtain ⟨rows, isDerived⟩ := exists_derive_of_removeDuplicateRows removed
  have distinctNamed : distinct.table.name = some name := by
    rw [isDerived]
    exact named
  exact edits_replaceTable distinctIssued distinctNamed _ _

end Workspace

end Tabular
