import Tabular.Proofs.Workspace.Afresh

namespace Tabular

/-!
# Reads follow the contents

Every read answers what is computed afresh from the contents of the workspace. Its links are a view,
which follows the contents, and an analysis of the snapshot that shows the view.
-/

namespace Workspace

open Tabular.Action

variable {settings : Settings} {ledger : Ledger} {contents : Contents}

/-! ## Analyses of views -/

/-- The report of a table without given types. -/
theorem analyzeQuality_none
    (settings : Settings)
    (table : Table) :
    analyzeQuality settings none table =
      if table.isEmpty then .ok {}
      else table.types settings >>= fun types =>
        Quality.reportFor settings types table := by
  rw [analyzeQuality]
  split <;>
    rfl

theorem tells_columnSums
    (search : String)
    (caseSensitive : Bool) :
    (columnSums settings search caseSensitive).Tells settings ledger contents
      (contents.dataView settings { search, caseSensitive } >>=
        Table.columnSums settings)
      Same := by
  refine (tells_dataView _).bind ?_
  rintro wider _ view _ ⟨issued, rfl⟩
  refine .remembered issued (.columnSums view.version) rfl ?_
  refine (Follows.types issued).bind ?_
  rintro further _ types _ rfl
  exact .ofOutcome _

theorem tells_pivot
    (config : PivotConfig) :
    (pivot settings config).Tells settings ledger contents
      (contents.filteredView settings >>= createPivot settings config) Same := by
  refine tells_filteredView.bind ?_
  rintro wider _ view _ ⟨issued, rfl⟩
  refine .cachedPivot ?_ ?_ (.ofOutcome _)
  · intro further bound grows consistent cachedView recorded
    cases cachedView with
    | table snapshot =>
        exact recorded.elim
    | pivot result =>
        obtain ⟨source, sourceIssued, sameVersion, computed⟩ := recorded
        have sameSource : source = view :=
          consistent.eq_of_version source sourceIssued view (grows issued)
            sameVersion
        subst sameSource
        exact ⟨result, computed, rfl⟩
  · intro further grows result computed
    exact ⟨view, grows issued, rfl, computed⟩

theorem tells_quality :
    (quality settings).Tells settings ledger contents
      (contents.filteredView settings >>= analyzeQuality settings none)
      Same := by
  refine tells_filteredView.bind ?_
  rintro wider _ view _ ⟨issued, rfl⟩
  refine .remembered issued (.quality view.version) rfl ?_
  rw [MemoKey.afresh, analyzeQuality_none, qualityOf]
  split
  · exact .pure fun _ _ => rfl
  · refine (Follows.types issued).bind ?_
    rintro further _ types _ rfl
    exact .ofOutcome _

theorem tells_columnStats
    (column : String) :
    (columnStats settings column).Tells settings ledger contents
      (contents.filteredView settings >>= fun view => view.columnStats column)
      Same := by
  refine tells_filteredView.bind ?_
  rintro wider _ view _ ⟨issued, rfl⟩
  exact .remembered issued (.stats view.version column) rfl (.ofOutcome _)

theorem tells_uniqueValues
    (column : String)
    (limit : Option Int) :
    (uniqueValues settings column limit).Tells settings ledger contents
      (contents.uniqueValues settings column limit) Same := by
  refine tells_currentView.bind ?_
  rintro wider _ view _ ⟨issued, rfl⟩
  let values := view.table.allUniqueValues column
  have valuesTell :
      (Action.remembered (.uniqueValues view.version column)
        (Pure.pure values)).Tells settings wider contents (Pure.pure values)
        Same :=
    .remembered issued (.uniqueValues view.version column) rfl
      (.pure fun _ _ => rfl)
  rw [← pure_bind values fun values =>
    (Pure.pure (Slice.upTo limit values) : Outcome (List String))]
  refine valuesTell.bind ?_
  rintro further _ found _ rfl
  exact .pure fun _ _ => rfl

theorem tells_suggestedAnonymization :
    (suggestedAnonymization settings).Tells settings ledger contents
      (contents.suggestedAnonymization settings) Same := by
  refine tells_filteredView.bind ?_
  rintro wider _ view _ ⟨issued, rfl⟩
  refine (Follows.smartTypes issued).bind ?_
  rintro further _ kinds _ rfl
  exact .pure fun _ _ => rfl

/-- The methods for columns follow those for the table of the view. -/
theorem tells_methodsFor
    (named : Option (Assoc Cell))
    {view : Snapshot}
    (issued : view ∈ ledger) :
    (methodsFor settings named view).Tells settings ledger contents
      (Contents.methodsFor settings named view.table) Same := by
  cases named with
  | some named =>
      exact .ofOutcome _
  | none =>
      rw [Contents.methodsFor, ← bind_pure_comp]
      refine (Follows.smartTypes issued).bind ?_
      rintro wider _ kinds _ rfl
      exact .pure fun _ _ => rfl

theorem tells_anonymize
    (named : Option (Assoc Cell)) :
    (anonymize settings named).Tells settings ledger contents
      (contents.anonymize settings named) Same := by
  refine tells_filteredView.bind ?_
  rintro wider _ view _ ⟨issued, rfl⟩
  refine (tells_methodsFor named issued).bind ?_
  rintro further grows methods _ rfl
  refine (Follows.smartTypes (grows issued)).bind ?_
  rintro latest _ kinds _ rfl
  exact .pure fun _ _ => rfl

theorem tells_anonymizePreview
    (named : Option (Assoc Cell))
    (limit : Option Int) :
    (anonymizePreview settings named limit).Tells settings ledger contents
      (contents.anonymizePreview settings named limit) Same := by
  refine tells_filteredView.bind ?_
  rintro wider _ view _ ⟨issued, rfl⟩
  refine (tells_methodsFor named issued).bind ?_
  rintro further grows methods _ rfl
  refine (Follows.smartTypes (grows issued)).bind ?_
  rintro latest _ kinds _ rfl
  exact .pure fun _ _ => rfl

/-! ## Tables and their columns -/

theorem tells_filterColumns :
    (filterColumns settings).Tells settings ledger contents
      (contents.filterColumns settings) Same := by
  refine .workspace_bind fun wider _ workspace held isContents => ?_
  have columnsTell :
      List.Forall₂
        (fun entry other =>
          (columnsOfTable settings entry.1 entry.2).Tells settings wider
            contents (contents.columnsOfTable settings other.1 other.2) Same)
        workspace.tables.entries contents.tables.entries := by
    rw [← isContents]
    refine List.forall₂_map_right_iff.mpr (List.forall₂_same.mpr ?_)
    intro entry member
    have issued := held.tables.mem (Assoc.find?_eq_some_iff.mpr member)
    refine (Follows.types issued).bind ?_
    rintro further _ types _ rfl
    refine .workspace_bind fun latest _ current _ sameContents => ?_
    have sameAliases : current.aliases = workspace.aliases :=
      congrArg Contents.aliases sameContents
    rw [prefixOf, sameAliases]
    exact .pure fun _ _ => rfl
  refine (Follows.mapM columnsTell).bind ?_
  rintro further _ columns _ rfl
  exact .pure fun _ _ => rfl

/-- The table that a step works on shows that of the contents. -/
theorem tells_target
    (asked : Option String) :
    (target asked).Tells settings ledger contents (contents.target asked)
      fun wider found table =>
        found.1 = table.1 ∧ wider.Shows found.2 table.2 ∧
          table.2.name = some table.1 := by
  refine .workspace_bind fun wider _ workspace _ isContents => ?_
  have sameActive : workspace.active = contents.active :=
    congrArg Contents.active isContents
  dsimp only
  rw [Contents.target, sameActive]
  generalize
    (asked.filter (fun name => name ≠ "") <|> contents.active) = chosen
  cases chosen with
  | none =>
      exact .throw _
  | some name =>
      dsimp only
      rw [← bind_pure_comp]
      refine (tells_getTable name).bind ?_
      rintro further _ snapshot table ⟨shows, named⟩
      exact .pure fun _ grows => ⟨rfl, shows.mono grows, named⟩

theorem tells_previewCleaning
    (column : String)
    (operation : Cell)
    (asked : Option String) :
    (previewCleaning column operation asked).Tells settings ledger contents
      (contents.previewCleaning column operation asked) Same := by
  refine (tells_target asked).bind ?_
  rintro wider _ ⟨name, snapshot⟩ ⟨_, table⟩ ⟨rfl, ⟨issued, rfl⟩, named⟩
  refine (Follows.ofOutcome _).bind ?_
  rintro further _ operation _ rfl
  exact .pure fun _ _ => rfl

end Workspace

/-! ## Reads -/

namespace Read

open Tabular.Action Workspace

/-- Every read follows the contents. -/
theorem tells_action
    {settings : Settings}
    {ledger : Ledger}
    {contents : Contents}
    (read : Read) :
    (read.action settings).Tells settings ledger contents
      (read.afresh settings contents) Same := by
  have same {α : Type} (image : α → Answer) {action : Action α}
      {plain : Outcome α}
      (tells : action.Tells settings ledger contents plain Same) :
      (image <$> action).Tells settings ledger contents (image <$> plain)
        Same :=
    tells.map (fun _ => rfl) fun _ _ _ answers => congrArg image answers
  cases read with
  | view look =>
      exact (tells_look look).map (fun _ => rfl)
        fun _ _ _ shows => congrArg Answer.table shows.table_eq
  | types look =>
      refine same .types ((tells_look look).bind ?_)
      rintro wider _ view _ ⟨issued, rfl⟩
      exact .types issued
  | kinds look =>
      refine same .kinds ((tells_look look).bind ?_)
      rintro wider _ view _ ⟨issued, rfl⟩
      exact .smartTypes issued
  | prefixOf name =>
      rw [Read.action, ← bind_pure_comp]
      refine .workspace_bind fun wider _ workspace _ isContents => ?_
      subst isContents
      exact .pure fun _ _ => rfl
  | filterColumns =>
      exact same .columns tells_filterColumns
  | filterSubtree id =>
      rw [Read.action, ← bind_pure_comp]
      refine .workspace_bind fun wider _ workspace _ isContents => ?_
      subst isContents
      exact .pure fun _ _ => rfl
  | columnSums search caseSensitive =>
      exact same .sums (tells_columnSums search caseSensitive)
  | pivot config =>
      exact same .pivot (tells_pivot config)
  | quality =>
      exact same .quality tells_quality
  | columnStats column =>
      exact same .stats (tells_columnStats column)
  | uniqueValues column limit =>
      exact same .values (tells_uniqueValues column limit)
  | suggestedAnonymization =>
      exact same .methods tells_suggestedAnonymization
  | anonymize named =>
      exact same .table (tells_anonymize named)
  | anonymizePreview named limit =>
      exact same .rows (tells_anonymizePreview named limit)
  | previewCleaning column operation asked =>
      exact same .changes (tells_previewCleaning column operation asked)

end Read

end Tabular
