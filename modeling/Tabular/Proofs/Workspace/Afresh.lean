import Tabular.Proofs.Join.Result
import Tabular.Proofs.Workspace.Remembering

namespace Tabular

/-!
# Views follow the contents

Every view of a workspace follows the view that is computed afresh from the contents, and so does
every analysis of a view. For the cached ones this is where their keys are looked at: the versions
of the tables tell the tables, a version tells its snapshot, and the text of the filter tree tells
the tree.
-/

/-! ## What keys leave out -/

/-- Aliases in the same order of their tables find the same alias for every table. -/
theorem Workspace.find?_eq_of_sortedAliases_eq
    {aliases others : Assoc String}
    (same : sortedAliases aliases = sortedAliases others)
    (name : String) :
    aliases.find? name = others.find? name := by
  apply Assoc.find?_eq_of_perm
  have ownOrder :=
    List.mergeSort_perm aliases.entries fun left right =>
      !decide (right.1 < left.1)
  have otherOrder :=
    List.mergeSort_perm others.entries fun left right =>
      !decide (right.1 < left.1)
  rw [sortedAliases, sortedAliases] at same
  exact (ownOrder.symm.trans (.of_eq same)).trans otherOrder

/-- A group without members keeps every row. -/
theorem filterRows_of_isEmptyGroup
    (caseSensitive : Bool)
    {node : FilterNode}
    (isEmpty : node.isEmptyGroup)
    (table : Table) :
    filterRows caseSensitive node table = .ok (table, 0) := by
  obtain ⟨id, logic, rfl⟩ : ∃ id logic, node = .group id logic [] := by
    cases node with
    | condition leaf =>
        exact absurd isEmpty (by simp [FilterNode.isEmptyGroup])
    | group id logic children =>
        cases children with
        | nil =>
            exact ⟨id, logic, rfl⟩
        | cons child rest =>
            exact absurd isEmpty (by simp [FilterNode.isEmptyGroup])
  have keepsAll (rows : List Row) :
      keepRows ((FilterNode.group id logic []).evaluate caseSensitive) rows =
        .ok (rows, 0) := by
    induction rows with
    | nil =>
        rfl
    | cons row rest inductionHypothesis =>
        rw [keepRows, inductionHypothesis]
        cases logic <;>
          rfl
  rw [filterRows, keepsAll]
  rfl

/-- Without a search and a column to sort by, a table stays as it is. -/
theorem Workspace.Arrangement.apply_of_isTrivial
    {arrangement : Arrangement}
    (isTrivial : arrangement.isTrivial)
    (table : Table) :
    arrangement.apply table = .ok table := by
  simp only [Arrangement.isTrivial, Bool.and_eq_true,
    Option.isNone_iff_eq_none] at isTrivial
  obtain ⟨noSearch, noColumn⟩ := isTrivial
  rw [apply, noColumn, searchRows, if_pos noSearch]
  rfl

/-- Filtered rows are described as the table is. -/
theorem described_of_filterRows
    {caseSensitive : Bool}
    {node : FilterNode}
    {table : Table}
    {answer : Table × Nat}
    (filtered : filterRows caseSensitive node table = .ok answer) :
    answer.1.typeSource = table.typeSource ∧
      answer.1.kindSource = table.kindSource := by
  obtain ⟨kept, _, answerIs⟩ := Outcome.bind_eq_ok_iff.mp filtered
  rw [← Outcome.pure_eq_ok_iff.mp answerIs]
  exact ⟨rfl, rfl⟩

theorem described_searchRows
    (caseSensitive : Bool)
    (term : String)
    (table : Table) :
    (searchRows caseSensitive term table).typeSource = table.typeSource ∧
      (searchRows caseSensitive term table).kindSource = table.kindSource := by
  rw [searchRows]
  split <;>
    exact ⟨rfl, rfl⟩

theorem Workspace.Arrangement.described_of_apply
    {arrangement : Arrangement}
    {table arranged : Table}
    (applied : arrangement.apply table = .ok arranged) :
    arranged.typeSource = table.typeSource ∧
      arranged.kindSource = table.kindSource := by
  rw [apply] at applied
  split at applied
  · obtain ⟨direction, _, applied⟩ := Outcome.bind_eq_ok_iff.mp applied
    obtain ⟨rows, _, arrangedIs⟩ := Outcome.bind_eq_ok_iff.mp applied
    rw [← Outcome.pure_eq_ok_iff.mp arrangedIs]
    exact described_searchRows _ _ table
  · rw [← Outcome.pure_eq_ok_iff.mp applied]
    exact described_searchRows _ _ table

namespace Workspace

open Tabular.Action

variable {settings : Settings} {ledger : Ledger} {contents : Contents}

/-! ## The current view -/

theorem isJoined_contents
    (workspace : Workspace) :
    workspace.contents.isJoined = workspace.isJoined := by
  simp [Contents.isJoined, isJoined, Workspace.contents]

/-- Describing tables follows the plain description when finding one does. -/
theorem tells_describe
    {α : Type}
    (sources : Join.Sources)
    {find : String → Table → Action (Assoc α)}
    {plainFind : String → Table → Outcome (Assoc α)}
    (findTells : ∀ name table, sources.tables.find? name = some table →
      (find name table).Tells settings ledger contents (plainFind name table)
        Same)
    (names : List String) :
    (sources.describe find names).Tells settings ledger contents
      (sources.describe plainFind names) Same := by
  refine Follows.foldlM (fun described name => ?_) _ names
  split
  · next table found =>
      refine (findTells name table found).bind ?_
      rintro wider _ map _ rfl
      exact .pure fun _ _ => rfl
  · exact .pure fun _ _ => rfl

/-- A join follows the plain join when finding descriptions does. -/
theorem tells_performJoinWith
    {sources : Join.Sources}
    {findTypes : String → Table → Action (Assoc ColumnType)}
    {findKinds : String → Table → Action (Assoc SmartTypeInfo)}
    (typesTell : ∀ wider, ledger ⊆ wider →
      ∀ name table, sources.tables.find? name = some table →
        (findTypes name table).Tells settings wider contents
          (table.types settings) Same)
    (kindsTell : ∀ wider, ledger ⊆ wider →
      ∀ name table, sources.tables.find? name = some table →
        (findKinds name table).Tells settings wider contents
          (table.smartTypes settings) Same)
    (specs : List JoinSpec) :
    (performJoinWith findTypes findKinds sources specs).Tells settings ledger
      contents (performJoin settings sources specs) Same := by
  unfold performJoin performJoinWith
  dsimp only
  split
  · exact .pure fun _ _ => rfl
  · split
    · exact .pure fun _ _ => rfl
    · refine (tells_describe sources (typesTell ledger subset_rfl) _).bind ?_
      rintro wider grows types _ rfl
      refine (tells_describe sources (kindsTell wider grows) _).bind ?_
      rintro wider _ kinds _ rfl
      exact .pure fun _ _ => rfl

/-- The joined snapshot shows the tables joined. -/
theorem tells_joinedSnapshot :
    (joinedSnapshot settings).Tells settings ledger contents
      (contents.joinedTable settings) Ledger.Shows := by
  refine .workspace_bind fun wider _ workspace held isContents => ?_
  subst isContents
  rw [Contents.joinedTable, ← bind_pure_comp]
  have snapshot_of_source {name : String} {table : Table}
      (found : workspace.sources.tables.find? name = some table) :
      ∃ snapshot, workspace.tables.find? name = some snapshot ∧
        snapshot ∈ wider ∧ snapshot.table = table := by
    rw [sources, Assoc.find?_mapValues, Option.map_eq_some_iff] at found
    obtain ⟨snapshot, isFound, rfl⟩ := found
    exact ⟨snapshot, isFound, held.tables.mem isFound, rfl⟩
  refine Follows.bind
    (tells_performJoinWith ?_ ?_ workspace.joins) ?_
  · intro wider grows name table found
    obtain ⟨snapshot, isFound, issued, rfl⟩ := snapshot_of_source found
    dsimp only
    rw [isFound]
    exact .types (grows issued)
  · intro wider grows name table found
    obtain ⟨snapshot, isFound, issued, rfl⟩ := snapshot_of_source found
    dsimp only
    rw [isFound]
    exact .smartTypes (grows issued)
  · rintro wider _ joined _ rfl
    exact .newSnapshot joined.table

/--
Workspaces whose issued tables are joined under the same key have the same joined table: the
versions tell the tables, and the aliases count only through the names they give.
-/
theorem joinedTable_eq_of_joinKey_eq
    {bound : Nat}
    (consistent : ledger.Consistent bound)
    {workspace other : Workspace}
    (issued : ledger.Issued workspace.tables)
    (otherIssued : ledger.Issued other.tables)
    (sameKey : workspace.joinKey = other.joinKey) :
    workspace.contents.joinedTable settings = other.contents.joinedTable settings := by
  obtain ⟨sameVersions, sameJoins, sameAliases⟩ := ViewKey.joined.inj sameKey
  have sameTables : workspace.tables = other.tables :=
    issued.eq_of_versions consistent otherIssued sameVersions
  have alike : Join.Sources.Alike workspace.contents.sources other.contents.sources := by
    refine ⟨?_, funext fun name => ?_⟩
    · simp only [Contents.sources, Workspace.contents, sameTables]
    · have sameAlias := find?_eq_of_sortedAliases_eq sameAliases name
      simp only [Join.Sources.aliasOf, Alias.nameIn, Contents.sources, Workspace.contents,
        sameAlias]
  rw [Contents.joinedTable, Contents.joinedTable, performJoin_eq_of_alike settings alike]
  exact congrArg (fun joins => Joined.table <$> performJoin settings _ joins) sameJoins

/-- What is recorded for the tables and aliases of a workspace is its joined table. -/
theorem joinedTable_of_isRecorded
    {bound : Nat}
    (consistent : ledger.Consistent bound)
    {workspace : Workspace}
    (held : workspace.Held ledger)
    {view : View}
    (recorded : workspace.joinKey.IsRecorded settings ledger view) :
    ∃ table, workspace.contents.joinedTable settings = .ok table ∧
      Follows.ShowsTable ledger view table := by
  cases view with
  | pivot result =>
      exact recorded.elim
  | table snapshot =>
      obtain ⟨issued, tables, names, tablesIssued, sameVersions, sameAliases,
        computed⟩ := recorded
      have sameKey :
          workspace.joinKey = joinKey { workspace with tables, aliases := names } := by
        rw [joinKey, joinKey, sameVersions, sameAliases]
      refine ⟨snapshot.table, ?_, snapshot, rfl, issued, rfl⟩
      exact (joinedTable_eq_of_joinKey_eq consistent held.tables tablesIssued sameKey).trans
        computed

/-- The joined table may be recorded for the tables and aliases of a workspace. -/
theorem isRecorded_joinKey
    {workspace : Workspace}
    (held : workspace.Held ledger)
    {snapshot : Snapshot}
    (issued : snapshot ∈ ledger)
    (computed : workspace.contents.joinedTable settings = .ok snapshot.table) :
    workspace.joinKey.IsRecorded settings ledger (.table snapshot) :=
  ⟨issued, workspace.tables, workspace.aliases, held.tables, rfl, rfl, computed⟩

theorem activeTable_contents
    (workspace : Workspace) :
    workspace.contents.active.bind workspace.contents.tables.find? =
      (workspace.active.bind workspace.tables.find?).map Snapshot.table := by
  rw [Workspace.contents]
  cases workspace.active with
  | none =>
      rfl
  | some name =>
      exact Assoc.find?_mapValues _ workspace.tables name

/-- The current view shows what is looked at before filtering. -/
theorem tells_currentView :
    (currentView settings).Tells settings ledger contents
      (contents.currentView settings) Ledger.Shows := by
  refine .workspace_bind fun wider _ workspace held isContents => ?_
  subst isContents
  rw [Contents.currentView, isJoined_contents]
  split
  · refine .cachedTable ?_ ?_ tells_joinedSnapshot
    · intro further bound grows consistent view recorded
      exact joinedTable_of_isRecorded consistent (held.mono grows) recorded
    · intro further grows snapshot issued computed
      exact isRecorded_joinKey (held.mono grows) issued computed
  · rw [activeTable_contents]
    split
    · next snapshot found =>
        obtain ⟨name, _, isFound⟩ := Option.bind_eq_some_iff.mp found
        rw [found]
        exact .pure fun _ grows =>
          ⟨grows (held.tables.mem isFound), rfl⟩
    · next missing =>
        rw [missing]
        exact .newSnapshot _

/-! ## Filtered, searched and sorted views -/

theorem tells_filterSnapshot
    {view : Snapshot}
    (issued : view ∈ ledger) :
    (filterSnapshot contents.caseSensitive contents.filter view).Tells settings
      ledger contents (contents.filtered view.table) Ledger.Shows := by
  rw [filterSnapshot, Contents.filtered]
  split
  · next isEmpty =>
      rw [filterRows_of_isEmptyGroup _ isEmpty]
      exact .pure fun _ grows => ⟨grows issued, rfl⟩
  · rw [← bind_pure_comp]
    cases filtered :
        filterRows contents.caseSensitive contents.filter view.table with
    | error fault =>
        exact .throw fault
    | ok answer =>
        obtain ⟨sameTypes, sameKinds⟩ := described_of_filterRows filtered
        exact .derivedSnapshot issued sameTypes sameKinds

theorem tells_filteredView :
    (filteredView settings).Tells settings ledger contents
      (contents.filteredView settings) Ledger.Shows := by
  refine tells_currentView.bind ?_
  rintro wider _ view _ ⟨viewIssued, rfl⟩
  refine .workspace_bind fun further grows workspace held isContents => ?_
  have issued := grows viewIssued
  subst isContents
  refine .cachedTable ?_ ?_ (tells_filterSnapshot issued)
  · intro latest bound growsOn consistent cachedView recorded
    cases cachedView with
    | pivot result =>
        exact recorded.elim
    | table snapshot =>
        obtain ⟨isIssued, source, sourceIssued, sameVersion, node, isPlain,
          sameText, computed⟩ := recorded
        have sameSource : source = view :=
          consistent.eq_of_version source sourceIssued view (growsOn issued)
            sameVersion
        have sameNode : node = workspace.filter :=
          FilterNode.eq_of_written_toJson_eq isPlain held.filter sameText
        subst sameSource sameNode
        exact ⟨snapshot.table, computed, snapshot, rfl, isIssued, rfl⟩
  · intro latest growsOn snapshot isIssued computed
    exact
      ⟨isIssued, view, growsOn issued, rfl, workspace.filter, held.filter, rfl,
        computed⟩

theorem tells_arrangeSnapshot
    (arrangement : Arrangement)
    {view : Snapshot}
    (issued : view ∈ ledger) :
    (arrangeSnapshot arrangement view).Tells settings ledger contents
      (arrangement.apply view.table) Ledger.Shows := by
  rw [arrangeSnapshot]
  split
  · next isTrivial =>
      rw [arrangement.apply_of_isTrivial isTrivial]
      exact .pure fun _ grows => ⟨grows issued, rfl⟩
  · cases applied : arrangement.apply view.table with
    | error fault =>
        exact .throw fault
    | ok table =>
        obtain ⟨sameTypes, sameKinds⟩ :=
          arrangement.described_of_apply applied
        exact .derivedSnapshot issued sameTypes sameKinds

theorem tells_dataView
    (arrangement : Arrangement) :
    (dataView settings arrangement).Tells settings ledger contents
      (contents.dataView settings arrangement) Ledger.Shows := by
  refine tells_filteredView.bind ?_
  rintro wider _ view _ ⟨issued, rfl⟩
  refine .cachedTable ?_ ?_ (tells_arrangeSnapshot arrangement issued)
  · intro further bound grows consistent cachedView recorded
    cases cachedView with
    | pivot result =>
        exact recorded.elim
    | table snapshot =>
        obtain ⟨isIssued, source, sourceIssued, sameVersion, computed⟩ :=
          recorded
        have sameSource : source = view :=
          consistent.eq_of_version source sourceIssued view (grows issued)
            sameVersion
        subst sameSource
        exact ⟨snapshot.table, computed, snapshot, rfl, isIssued, rfl⟩
  · intro further grows snapshot isIssued computed
    exact ⟨isIssued, view, grows issued, rfl, computed⟩

theorem tells_getTable
    (name : String) :
    (getTable name).Tells settings ledger contents (contents.getTable name)
      fun wider snapshot table =>
        wider.Shows snapshot table ∧ table.name = some name := by
  refine .workspace_bind fun wider _ workspace held isContents => ?_
  subst isContents
  have sameTable :
      workspace.contents.tables.find? name =
        (workspace.tables.find? name).map Snapshot.table :=
    Assoc.find?_mapValues _ workspace.tables name
  rw [Contents.getTable, sameTable]
  cases found : workspace.tables.find? name with
  | none =>
      exact .throw _
  | some snapshot =>
      exact .pure fun _ grows =>
        ⟨⟨grows (held.tables.mem found), rfl⟩, held.tables.name_eq found⟩

/-- A snapshot that can be asked for shows the table that is asked for. -/
theorem tells_look
    (look : Look) :
    (look.action settings).Tells settings ledger contents
      (contents.look settings look) Ledger.Shows := by
  cases look with
  | table name =>
      rw [Look.action, Contents.look]
      exact (tells_getTable name).imp fun _ _ _ shows => shows.1
  | currentView =>
      exact tells_currentView
  | filteredView =>
      exact tells_filteredView
  | dataView arrangement =>
      exact tells_dataView arrangement

end Workspace

end Tabular
