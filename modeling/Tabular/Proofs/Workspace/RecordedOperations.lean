import Tabular.Proofs.Workspace.Editing
import Tabular.Proofs.Workspace.Recording

namespace Tabular

/-!
# Every operation records rightly

A view that an operation computes is a new snapshot, or comes from an issued one and keeps its
description; types and kinds are asked for issued snapshots only. So whatever operations are
performed on a workspace, and whichever of them fail, what it remembers about columns stays right.
-/

namespace Workspace

open Tabular.Action

variable {settings : Settings} {ledger : Ledger}

/-! ## Views -/

theorem records_describe
    {α : Type}
    (sources : Join.Sources)
    {find : String → Table → Action (Assoc α)}
    (findRecords : ∀ wider, ledger ⊆ wider → ∀ name table,
      (find name table).Records settings wider Anything)
    (names : List String) :
    (sources.describe find names).Records settings ledger Anything := by
  refine .foldlM (fun wider grows described name => ?_) _ names
  split
  · exact (findRecords wider grows _ _).followedBy fun _ _ _ => .answer _
  · exact .answer _

theorem records_performJoinWith
    {findTypes : String → Table → Action (Assoc ColumnType)}
    {findKinds : String → Table → Action (Assoc SmartTypeInfo)}
    (typesRecord : ∀ wider, ledger ⊆ wider → ∀ name table,
      (findTypes name table).Records settings wider Anything)
    (kindsRecord : ∀ wider, ledger ⊆ wider → ∀ name table,
      (findKinds name table).Records settings wider Anything)
    (sources : Join.Sources)
    (specs : List JoinSpec) :
    (performJoinWith findTypes findKinds sources specs).Records settings ledger Anything := by
  unfold performJoinWith
  dsimp only
  split
  · exact .answer _
  · split
    · exact .answer _
    · exact (records_describe sources typesRecord _).followedBy fun wider grows _ =>
        (records_describe sources
            (fun wider' grows' => kindsRecord wider' (grows.trans grows')) _).followedBy
          fun _ _ _ => .answer _

theorem records_joinedSnapshot :
    (joinedSnapshot settings).Records settings ledger IssuedOne := by
  refine Records.workspace.bind fun wider _ workspace recorded => ?_
  refine Records.followedBy (records_performJoinWith ?_ ?_ _ _) fun _ _ joined => .newSnapshot _
  · intro further grows name _
    dsimp only
    split
    · next snapshot found =>
        exact .types (grows (recorded.tables found))
    · exact .answer _
  · intro further grows name _
    dsimp only
    split
    · next snapshot found =>
        exact .smartTypes (grows (recorded.tables found))
    · exact .answer _

theorem records_currentView :
    (currentView settings).Records settings ledger IssuedOne := by
  refine Records.workspace.bind fun wider _ workspace recorded => ?_
  split
  · exact Records.cachedTable records_joinedSnapshot
  · split
    · next snapshot found =>
        obtain ⟨name, -, isFound⟩ := Option.bind_eq_some_iff.mp found
        exact .pure fun _ grows => grows (recorded.tables isFound)
    · exact .newSnapshot _

theorem records_currentTypes :
    (currentTypes settings).Records settings ledger Anything :=
  records_currentView.bind fun _ _ _ issued => .types issued

/-- A filtered snapshot is a part of the snapshot that is filtered. -/
theorem records_filterSnapshot
    (text : String)
    (caseSensitive : Bool)
    (node : FilterNode)
    {snapshot : Snapshot}
    (issued : snapshot ∈ ledger) :
    (filterSnapshot caseSensitive node snapshot).Records settings ledger
      (Records.KeptOne (.filtered snapshot.version text caseSensitive)) := by
  unfold filterSnapshot
  split
  · exact .pure fun _ grows => ⟨grows issued, snapshot, grows issued, rfl, .refl _⟩
  · refine (Records.ofOutcome _).bind fun wider grows answer filtered => ?_
    obtain ⟨sameTypes, sameKinds⟩ := described_of_filterRows filtered
    refine (Records.derivedSnapshot (grows issued) sameTypes sameKinds).imp ?_
    rintro further growsOn part ⟨partIssued, sameTable⟩
    refine ⟨partIssued, snapshot, growsOn (grows issued), rfl, ?_⟩
    rw [sameTable]
    exact isPartOf_of_filterRows filtered

/-- The filtered view of a snapshot is a part of it, whether or not it has been cached. -/
theorem records_cached_filterSnapshot
    (text : String)
    (caseSensitive : Bool)
    (node : FilterNode)
    {snapshot : Snapshot}
    (issued : snapshot ∈ ledger) :
    (Action.cachedTable (.filtered snapshot.version text caseSensitive)
        (filterSnapshot caseSensitive node snapshot)).Records settings ledger fun wider part =>
      wider.Derives snapshot.version (fun table part => part.IsPartOf table) part :=
  Records.cachedTable (records_filterSnapshot text caseSensitive node issued)

theorem records_filteredView :
    (filteredView settings).Records settings ledger IssuedOne :=
  records_currentView.bind fun _ _ _ issued =>
    Records.workspace.bind fun _ grows _ _ =>
      (records_cached_filterSnapshot _ _ _ (grows issued)).imp fun _ _ _ derives => derives.issued

/-- An arranged snapshot has the table of the snapshot, arranged. -/
theorem records_arrangeSnapshot
    (arrangement : Arrangement)
    {snapshot : Snapshot}
    (issued : snapshot ∈ ledger) :
    (arrangeSnapshot arrangement snapshot).Records settings ledger
      (Records.KeptOne (arrangement.key snapshot.version)) := by
  unfold arrangeSnapshot
  split
  · next isTrivial =>
      exact .pure fun _ grows =>
        ⟨grows issued, snapshot, grows issued, rfl, arrangement.apply_of_isTrivial isTrivial _⟩
  · refine (Records.ofOutcome _).bind fun wider grows table applied => ?_
    obtain ⟨sameTypes, sameKinds⟩ := arrangement.described_of_apply applied
    refine (Records.derivedSnapshot (grows issued) sameTypes sameKinds).imp ?_
    rintro further growsOn arranged ⟨arrangedIssued, rfl⟩
    exact ⟨arrangedIssued, snapshot, growsOn (grows issued), rfl, applied⟩

/-- The arranged view of a snapshot is arranged, whether or not it has been cached. -/
theorem records_cached_arrangeSnapshot
    (arrangement : Arrangement)
    {snapshot : Snapshot}
    (issued : snapshot ∈ ledger) :
    (Action.cachedTable (arrangement.key snapshot.version)
        (arrangeSnapshot arrangement snapshot)).Records settings ledger fun wider arranged =>
      wider.Derives snapshot.version (fun table arranged => arrangement.apply table = .ok arranged)
        arranged :=
  Records.cachedTable (records_arrangeSnapshot arrangement issued)

theorem records_dataView
    (arrangement : Arrangement) :
    (dataView settings arrangement).Records settings ledger IssuedOne :=
  records_filteredView.bind fun _ _ _ issued =>
    (records_cached_arrangeSnapshot arrangement issued).imp fun _ _ _ derives => derives.issued

/-! ## Analyses -/

/-- The totals that are remembered for an issued snapshot are those of its table. -/
theorem records_remembered_columnSums
    {snapshot : Snapshot}
    (issued : snapshot ∈ ledger) :
    (Action.remembered (.columnSums snapshot.version) do
        Action.ofOutcome (snapshot.table.columnSumsFor (← Action.types settings snapshot))).Records
      settings ledger fun wider sums =>
        (MemoKey.columnSums snapshot.version).IsRecorded settings wider sums := by
  refine Records.remembered ((Records.types_eq issued).bind fun wider grows types areTypes => ?_)
  refine (Records.ofOutcome _).imp fun further growsOn sums areSums => ?_
  refine ⟨snapshot, growsOn (grows issued), rfl, ?_⟩
  rw [MemoKey.afresh, Table.columnSums, areTypes]
  exact areSums

theorem records_columnSums
    (search : String)
    (caseSensitive : Bool) :
    (columnSums settings search caseSensitive).Records settings ledger Anything :=
  (records_dataView _).bind fun _ _ _ issued => (records_remembered_columnSums issued).anything

theorem records_pivot
    (config : PivotConfig) :
    (pivot settings config).Records settings ledger Anything :=
  records_filteredView.bind fun _ _ _ _ =>
    .cachedPivot _ _ (Records.ofOutcome _).anything

theorem records_quality :
    (quality settings).Records settings ledger Anything := by
  refine records_filteredView.bind fun _ _ _ issued => .anything (.remembered ?_)
  unfold qualityOf
  split
  · exact .answer _
  · exact (Records.types issued).followedBy fun _ _ _ => (Records.ofOutcome _).anything

theorem records_columnStats
    (column : String) :
    (columnStats settings column).Records settings ledger Anything :=
  records_filteredView.bind fun _ _ _ _ =>
    (Records.remembered (Records.ofOutcome _).anything).anything

theorem records_uniqueValues
    (column : String)
    (limit : Option Int) :
    (uniqueValues settings column limit).Records settings ledger Anything := by
  refine records_currentView.bind fun wider _ view issued => ?_
  have records :
      (Action.remembered (.uniqueValues view.version column)
        (Pure.pure (view.table.allUniqueValues column))).Records settings wider Anything :=
    Records.anything (Records.remembered (.pure fun _ grows => ⟨view, grows issued, rfl, rfl⟩))
  exact records.followedBy fun _ _ _ => .answer _

theorem records_suggestedAnonymization :
    (suggestedAnonymization settings).Records settings ledger Anything :=
  records_filteredView.bind fun _ _ _ issued =>
    (Records.smartTypes issued).followedBy fun _ _ _ => .answer _

theorem records_methodsFor
    (named : Option (Assoc Cell))
    {view : Snapshot}
    (issued : view ∈ ledger) :
    (methodsFor settings named view).Records settings ledger Anything := by
  unfold methodsFor
  split
  · exact (Records.ofOutcome _).anything
  · exact (Records.smartTypes issued).followedBy fun _ _ _ => .answer _

theorem records_hidden
    (methods : Assoc AnonymizationMethod)
    {view : Snapshot}
    (issued : view ∈ ledger) :
    (hidden settings methods view).Records settings ledger Anything :=
  (Records.smartTypes issued).followedBy fun _ _ _ => .answer _

theorem records_hiddenRows
    (methods : Assoc AnonymizationMethod)
    (limit : Option Int)
    {view : Snapshot}
    (issued : view ∈ ledger) :
    (hiddenRows settings methods limit view).Records settings ledger Anything :=
  (Records.smartTypes issued).followedBy fun _ _ _ => .answer _

theorem records_anonymize
    (named : Option (Assoc Cell)) :
    (anonymize settings named).Records settings ledger Anything :=
  records_filteredView.bind fun _ _ _ issued =>
    (records_methodsFor named issued).followedBy fun _ grows _ =>
      records_hidden _ (grows issued)

theorem records_anonymizePreview
    (named : Option (Assoc Cell))
    (limit : Option Int) :
    (anonymizePreview settings named limit).Records settings ledger Anything :=
  records_filteredView.bind fun _ _ _ issued =>
    (records_methodsFor named issued).followedBy fun _ grows _ =>
      records_hiddenRows _ limit (grows issued)

theorem records_getTable
    (name : String) :
    (getTable name).Records settings ledger IssuedOne := by
  refine Records.workspace.bind fun wider _ workspace recorded => ?_
  split
  · next snapshot found =>
      exact .pure fun _ grows => grows (recorded.tables found)
  · exact .throw _

theorem records_target
    (asked : Option String) :
    (target asked).Records settings ledger fun wider found => found.2 ∈ wider := by
  refine Records.workspace.bind fun wider _ workspace _ => ?_
  dsimp only
  split
  · exact (records_getTable _).bind fun _ _ _ issued => .pure fun _ grows => grows issued
  · exact .throw _

theorem records_previewCleaning
    (column : String)
    (operation : Cell)
    (asked : Option String) :
    (previewCleaning column operation asked).Records settings ledger Anything :=
  (records_target asked).anything.followedBy fun _ _ _ =>
    (Records.ofOutcome _).anything.followedBy fun _ _ _ => .answer _

theorem records_filterColumns :
    (filterColumns settings).Records settings ledger Anything := by
  refine Records.workspace.bind fun wider _ workspace recorded => ?_
  refine Records.followedBy (.mapM fun further grows entry member => ?_) fun _ _ _ => .answer _
  have issued := recorded.tables (Assoc.find?_eq_some_iff.mpr member)
  exact (Records.types (grows issued)).followedBy fun _ _ _ =>
    Records.workspace.anything.followedBy fun _ _ _ => .answer _

/-! ## Edits -/

/-- A table that has been issued may be held under any name. -/
theorem IsRecorded.withTable
    {workspace : Workspace}
    (recorded : workspace.IsRecorded settings ledger)
    (name : String)
    {snapshot : Snapshot}
    (issued : snapshot ∈ ledger) :
    (workspace.withTable name snapshot).IsRecorded settings ledger := by
  refine ⟨fun found => ?_, recorded.cache, recorded.memo⟩
  rw [Workspace.withTable, Assoc.find?_insert] at found
  split at found
  · cases found
    exact issued
  · exact recorded.tables found

/-- Tables may be removed. -/
theorem IsRecorded.withoutTable
    {workspace : Workspace}
    (recorded : workspace.IsRecorded settings ledger)
    (name : String) :
    (workspace.withoutTable name).IsRecorded settings ledger := by
  refine ⟨fun found => ?_, recorded.cache, recorded.memo⟩
  rw [Workspace.withoutTable, Assoc.find?_erase] at found
  split at found
  · cases found
  · exact recorded.tables found

/-- A change of other parts than the tables and the memory records rightly. -/
theorem records_modifyOthers
    {change : Workspace → Workspace}
    (same : ∀ workspace : Workspace,
      (change workspace).tables = workspace.tables ∧
        (change workspace).cache = workspace.cache ∧ (change workspace).memo = workspace.memo) :
    (Action.modifyWorkspace change).Records settings ledger Anything :=
  .modifyWorkspace fun _ _ workspace recorded =>
    recorded.of_same (same workspace).1 (same workspace).2.1 (same workspace).2.2

theorem records_loadTable
    (name : String)
    (rows : List Row) :
    (loadTable name rows).Records settings ledger IssuedOne := by
  refine (Records.newSnapshot _).bind fun _ _ snapshot issued => ?_
  refine Records.followedBy (.modifyWorkspace fun _ grows workspace recorded => ?_)
    fun _ grows _ => .pure fun _ growsOn => growsOn (grows issued)
  exact (recorded.withTable name (grows issued)).of_same rfl rfl rfl

theorem records_replaceTable
    (name : String)
    {snapshot : Snapshot}
    (issued : snapshot ∈ ledger) :
    (replaceTable name snapshot).Records settings ledger Anything :=
  .modifyWorkspace fun _ grows _ recorded => recorded.withTable name (grows issued)

theorem records_removeTable
    (name : String) :
    (removeTable name).Records settings ledger Anything :=
  (records_getTable name).anything.followedBy fun _ _ _ =>
    .modifyWorkspace fun _ _ _ recorded => recorded.withoutTable name

theorem records_setActiveTable
    (name : String) :
    (setActiveTable name).Records settings ledger Anything :=
  (records_getTable name).anything.followedBy fun _ _ _ =>
    records_modifyOthers fun _ => ⟨rfl, rfl, rfl⟩

theorem records_clear :
    clear.Records settings ledger Anything :=
  (Records.ofNaming _).followedBy fun _ _ _ =>
    .modifyWorkspace fun _ _ _ _ =>
      ⟨fun found => absurd found nofun, fun member => absurd member List.not_mem_nil,
        fun remembered => absurd remembered nofun⟩

theorem records_setAlias
    (name asked : String) :
    (setAlias name asked).Records settings ledger Anything := by
  refine (records_getTable name).anything.followedBy fun _ _ _ => ?_
  refine Records.workspace.anything.followedBy fun _ _ workspace => ?_
  exact Records.followedBy (records_modifyOthers fun _ => ⟨rfl, rfl, rfl⟩) fun _ _ _ => .answer _

theorem records_setJoins
    (joins : List JoinSpec) :
    (setJoins joins).Records settings ledger Anything :=
  records_modifyOthers fun _ => ⟨rfl, rfl, rfl⟩

theorem records_setCaseSensitive
    (enabled : Bool) :
    (setCaseSensitive enabled).Records settings ledger Anything :=
  records_modifyOthers fun _ => ⟨rfl, rfl, rfl⟩

theorem records_replaceFilter
    (filter : FilterNode) :
    (replaceFilter filter).Records settings ledger Anything :=
  records_modifyOthers fun _ => ⟨rfl, rfl, rfl⟩

theorem records_addNode
    (parent : Option String)
    (node : FilterNode) :
    (addNode parent node).Records settings ledger Anything :=
  Records.workspace.anything.followedBy fun _ _ _ =>
    (Records.ofOutcome _).anything.followedBy fun _ _ filter =>
      (records_replaceFilter filter).followedBy fun _ _ _ => .answer _

theorem records_addCondition
    (parent field operator : Option String)
    (value : Cell) :
    (addCondition settings parent field operator value).Records settings ledger Anything :=
  (Records.ofNaming _).followedBy fun _ _ _ =>
    records_currentTypes.followedBy fun _ _ _ =>
      (Records.ofOutcome _).anything.followedBy fun _ _ _ => records_addNode parent _

theorem records_addGroup
    (parent : Option String)
    (logic : Cell) :
    (addGroup parent logic).Records settings ledger Anything :=
  (Records.ofNaming _).followedBy fun _ _ _ => records_addNode parent _

theorem records_updateNode
    (id : String)
    (changes : FilterNode.Changes) :
    (updateNode settings id changes).Records settings ledger Anything := by
  refine Records.workspace.anything.followedBy fun _ _ workspace => ?_
  dsimp only
  split
  · exact records_currentTypes.followedBy fun _ _ _ =>
      (Records.ofOutcome _).anything.followedBy fun _ _ filter => records_replaceFilter filter
  · exact .throw _

theorem records_removeNode
    (id : String) :
    (removeNode id).Records settings ledger Anything :=
  Records.workspace.anything.followedBy fun _ _ _ => records_replaceFilter _

theorem records_setFilterTree
    (root : FilterNode) :
    (setFilterTree settings root).Records settings ledger Anything := by
  unfold setFilterTree
  split
  · exact .throw _
  · exact records_currentTypes.followedBy fun _ _ _ =>
      (Records.ofOutcome _).anything.followedBy fun _ _ _ => records_replaceFilter _

theorem records_cleanColumn
    (column : String)
    (operation : Cell)
    (asked : Option String) :
    (cleanColumn column operation asked).Records settings ledger IssuedOne :=
  (records_target asked).anything.followedBy fun _ _ _ =>
    (Records.ofOutcome _).anything.followedBy fun _ _ _ =>
      (Records.newSnapshot _).bind fun _ _ _ issued =>
        (records_replaceTable _ issued).followedBy fun _ grows _ =>
          .pure fun _ growsOn => growsOn (grows issued)

theorem records_withoutDuplicates
    {snapshot : Snapshot}
    (issued : snapshot ∈ ledger) :
    (withoutDuplicates snapshot).Records settings ledger IssuedOne := by
  unfold withoutDuplicates
  split
  · exact .pure fun _ grows => grows issued
  · refine (Records.ofOutcome _).bind fun wider grows distinct removed => ?_
    obtain ⟨rows, rfl⟩ := exists_derive_of_removeDuplicateRows removed
    have derived :
        (Action.derivedSnapshot snapshot (snapshot.table.derive rows)).Records settings wider
          fun further distinct => further.Shows distinct (snapshot.table.derive rows) :=
      .derivedSnapshot (grows issued) rfl rfl
    exact derived.imp fun _ _ _ shows => shows.issued

theorem records_removeDuplicates
    (asked : Option String) :
    (removeDuplicates asked).Records settings ledger Anything :=
  (records_target asked).bind fun _ _ _ issued =>
    (records_withoutDuplicates issued).bind fun _ _ _ distinctIssued =>
      (records_replaceTable _ distinctIssued).followedBy fun _ _ _ => .answer _

theorem records_fillEmpty
    (column : String)
    (value : Cell)
    (asked : Option String) :
    (fillEmpty column value asked).Records settings ledger IssuedOne :=
  (records_target asked).anything.followedBy fun _ _ _ =>
    (Records.newSnapshot _).bind fun _ _ _ issued =>
      (records_replaceTable _ issued).followedBy fun _ grows _ =>
        .pure fun _ growsOn => growsOn (grows issued)

end Workspace

/-! ## Operations and runs -/

open Workspace Tabular.Action

variable {settings : Settings} {ledger : Ledger}

theorem Edit.records_action
    (edit : Edit) :
    (edit.action settings).Records settings ledger Anything := by
  cases edit with
  | loadTable name rows =>
      exact (records_loadTable name rows).image _
  | removeTable name =>
      exact (records_removeTable name).image _
  | setActiveTable name =>
      exact (records_setActiveTable name).image _
  | clear =>
      exact records_clear.image _
  | setJoins joins =>
      exact (records_setJoins joins).image _
  | setAlias name asked =>
      exact (records_setAlias name asked).image _
  | addCondition parent field operator value =>
      exact (records_addCondition parent field operator value).image _
  | addGroup parent logic =>
      exact (records_addGroup parent logic).image _
  | updateNode id changes =>
      exact (records_updateNode id changes).image _
  | removeNode id =>
      exact (records_removeNode id).image _
  | setFilterTree root =>
      exact (records_setFilterTree root).image _
  | setCaseSensitive enabled =>
      exact (records_setCaseSensitive enabled).image _
  | cleanColumn column operation asked =>
      exact (records_cleanColumn column operation asked).image _
  | removeDuplicates asked =>
      exact (records_removeDuplicates asked).image _
  | fillEmpty column value asked =>
      exact (records_fillEmpty column value asked).image _

theorem Look.records_action
    (look : Look) :
    (look.action settings).Records settings ledger IssuedOne := by
  cases look with
  | table name =>
      exact records_getTable name
  | currentView =>
      exact records_currentView
  | filteredView =>
      exact records_filteredView
  | dataView arrangement =>
      exact records_dataView arrangement

theorem Read.records_action
    (read : Read) :
    (read.action settings).Records settings ledger Anything := by
  cases read with
  | view look =>
      exact look.records_action.image _
  | types look =>
      exact (look.records_action.bind fun _ _ _ issued => .types issued).image _
  | kinds look =>
      exact (look.records_action.bind fun _ _ _ issued => .smartTypes issued).image _
  | prefixOf name =>
      exact Records.workspace.image _
  | filterColumns =>
      exact records_filterColumns.image _
  | filterSubtree id =>
      exact Records.workspace.image _
  | columnSums search caseSensitive =>
      exact (records_columnSums search caseSensitive).image _
  | pivot config =>
      exact (records_pivot config).image _
  | quality =>
      exact records_quality.image _
  | columnStats column =>
      exact (records_columnStats column).image _
  | uniqueValues column limit =>
      exact (records_uniqueValues column limit).image _
  | suggestedAnonymization =>
      exact records_suggestedAnonymization.image _
  | anonymize named =>
      exact (records_anonymize named).image _
  | anonymizePreview named limit =>
      exact (records_anonymizePreview named limit).image _
  | previewCleaning column operation asked =>
      exact (records_previewCleaning column operation asked).image _

theorem Operation.records_action
    (operation : Operation) :
    (operation.action settings).Records settings ledger Anything := by
  cases operation with
  | edit change =>
      exact change.records_action
  | read look =>
      exact look.records_action

namespace Session

theorem isRecorded_start
    (settings : Settings)
    (supply : Supply) :
    (start settings supply).IsRecorded settings ∅ :=
  ⟨.empty _, .new _ _⟩

/-- Every run leaves a session that is recorded in some ledger. -/
theorem exists_isRecorded_after
    {session : Session}
    (recorded : session.IsRecorded settings ledger)
    (operations : List Operation) :
    ∃ final : Ledger, (session.after settings operations).IsRecorded settings final := by
  induction operations generalizing session ledger with
  | nil =>
      exact ⟨ledger, recorded⟩
  | cons operation rest inductionHypothesis =>
      obtain ⟨middle, -, recordedAfter, -⟩ :=
        operation.records_action ledger subset_rfl session recorded
      exact inductionHypothesis recordedAfter

end Session

end Tabular
