import Tabular.Proofs.Workspace.Operation

namespace Tabular

/-!
# Actions that only remember

An action keeps a workspace when nothing but its cache and its memo differs afterwards, whether it
answers or fails, and when it neither draws identifiers of nodes nor depends on them. Looking at a
workspace in any way keeps it: what is kept by the links of a chain is kept by the chain, and every
view is such a chain.
-/

/-- The workspaces differ in what they remember at most. -/
def Workspace.SameApartFromMemory (before after : Workspace) : Prop :=
  ∃ cache memo, after = { before with cache, memo }

namespace Workspace.SameApartFromMemory

theorem refl
    (workspace : Workspace) :
    workspace.SameApartFromMemory workspace :=
  ⟨workspace.cache, workspace.memo, rfl⟩

theorem trans
    {first second third : Workspace}
    (firstSecond : first.SameApartFromMemory second)
    (secondThird : second.SameApartFromMemory third) :
    first.SameApartFromMemory third := by
  obtain ⟨_, _, rfl⟩ := firstSecond
  obtain ⟨cache, memo, rfl⟩ := secondThird
  exact ⟨cache, memo, rfl⟩

end Workspace.SameApartFromMemory

namespace Action

variable {α β : Type}

/--
Whatever the action answers, the workspace is the same apart from what it remembers, and the numbers
of nodes play no part in it.
-/
structure Keeps (action : Action α) : Prop where
  same : ∀ session : Session,
    session.workspace.SameApartFromMemory
      (action.perform session).2.workspace
  ignoresNodes : ∀ (session : Session) (nodes : Nat),
    action.perform (session.withNodes nodes) =
      ((action.perform session).1,
        (action.perform session).2.withNodes nodes)

namespace Keeps

/-- A chain keeps a workspace when all of its links do. -/
theorem bind
    {first : Action α}
    {next : α → Action β}
    (firstKeeps : first.Keeps)
    (nextKeeps : ∀ value, (next value).Keeps) :
    (first >>= next).Keeps where
  same := by
    intro session
    have firstSame := firstKeeps.same session
    rw [perform_bind]
    rcases performed : first.perform session with ⟨fault | value, after⟩
    · rw [performed] at firstSame
      exact firstSame
    · rw [performed] at firstSame
      exact firstSame.trans ((nextKeeps value).same after)
  ignoresNodes := by
    intro session nodes
    rw [perform_bind, perform_bind, firstKeeps.ignoresNodes session nodes]
    rcases first.perform session with ⟨fault | value, after⟩
    · rfl
    · exact (nextKeeps value).ignoresNodes after nodes

theorem pure
    (value : α) :
    (Pure.pure value : Action α).Keeps :=
  ⟨fun session => .refl session.workspace, fun _ _ => rfl⟩

theorem throw
    (fault : Fault) :
    (MonadExcept.throw fault : Action α).Keeps :=
  ⟨fun session => .refl session.workspace, fun _ _ => rfl⟩

theorem map
    (image : α → β)
    {action : Action α}
    (keeps : action.Keeps) :
    (image <$> action).Keeps := by
  rw [← bind_pure_comp]
  exact keeps.bind fun value => pure (image value)

theorem workspace :
    Action.workspace.Keeps :=
  ⟨fun session => .refl session.workspace, fun _ _ => rfl⟩

theorem ofOutcome
    (outcome : Outcome α) :
    (Action.ofOutcome outcome).Keeps := by
  cases outcome with
  | error fault =>
      exact throw fault
  | ok value =>
      exact pure value

theorem freshVersion :
    Action.freshVersion.Keeps :=
  ⟨fun session => .refl session.workspace, fun _ _ => rfl⟩

/-- A change of what is remembered keeps the workspace. -/
theorem modifyWorkspace
    {change : Workspace → Workspace}
    (remembers : ∀ workspace : Workspace,
      workspace.SameApartFromMemory (change workspace)) :
    (Action.modifyWorkspace change).Keeps :=
  ⟨fun session => remembers session.workspace, fun _ _ => rfl⟩

theorem newSnapshot
    (table : Table) :
    (Action.newSnapshot table).Keeps :=
  freshVersion.bind fun _ => pure _

theorem derivedSnapshot
    (source : Snapshot)
    (table : Table) :
    (Action.derivedSnapshot source table).Keeps :=
  freshVersion.bind fun _ => pure _

theorem foldlM
    {step : β → α → Action β}
    (stepKeeps : ∀ state element, (step state element).Keeps)
    (initial : β)
    (elements : List α) :
    (elements.foldlM step initial).Keeps := by
  induction elements generalizing initial with
  | nil =>
      exact pure initial
  | cons element rest inductionHypothesis =>
      rw [List.foldlM_cons]
      exact (stepKeeps initial element).bind fun next =>
        inductionHypothesis next

theorem mapM
    {step : α → Action β}
    (stepKeeps : ∀ element, (step element).Keeps)
    (elements : List α) :
    (elements.mapM step).Keeps := by
  induction elements with
  | nil =>
      exact pure []
  | cons element rest inductionHypothesis =>
      rw [List.mapM_cons]
      exact (stepKeeps element).bind fun _ =>
        inductionHypothesis.bind fun _ => pure _

/-! ## What is remembered -/

/-- A remembered answer keeps the workspace when computing it does. -/
theorem remembered
    {key : MemoKey}
    {compute : Action key.Value}
    (computeKeeps : compute.Keeps) :
    (Action.remembered key compute).Keeps := by
  refine workspace.bind fun current => ?_
  split
  · exact pure _
  · exact computeKeeps.bind fun value =>
      (modifyWorkspace fun before => ⟨before.cache, _, rfl⟩).bind
        fun _ => pure value

/-- A cached view keeps the workspace when computing it does. -/
theorem cached
    (key : ViewKey)
    {compute : Action View}
    (computeKeeps : compute.Keeps) :
    (Action.cached key compute).Keeps := by
  refine workspace.bind fun current => ?_
  split
  · exact (modifyWorkspace fun before => ⟨_, before.memo, rfl⟩).bind
      fun _ => pure _
  · exact computeKeeps.bind fun view =>
      (modifyWorkspace fun before => ⟨_, before.memo, rfl⟩).bind
        fun _ => pure view

theorem cachedTable
    (key : ViewKey)
    {compute : Action Snapshot}
    (computeKeeps : compute.Keeps) :
    (Action.cachedTable key compute).Keeps := by
  refine (cached key (computeKeeps.map _)).bind fun view => ?_
  split
  · exact pure _
  · exact computeKeeps

theorem cachedPivot
    (key : ViewKey)
    {compute : Action PivotResult}
    (computeKeeps : compute.Keeps) :
    (Action.cachedPivot key compute).Keeps := by
  refine (cached key (computeKeeps.map _)).bind fun view => ?_
  split
  · exact pure _
  · exact computeKeeps

theorem types
    (settings : Settings)
    (snapshot : Snapshot) :
    (Action.types settings snapshot).Keeps := by
  unfold Action.types
  split
  · exact pure _
  · exact remembered (ofOutcome _)

theorem smartTypes
    (settings : Settings)
    (snapshot : Snapshot) :
    (Action.smartTypes settings snapshot).Keeps := by
  unfold Action.smartTypes
  split
  · exact pure _
  · exact remembered (ofOutcome _)

end Keeps

end Action

namespace Workspace

open Tabular.Action

/-! ## Views -/

/-- Describing named tables keeps the workspace when finding a description does. -/
theorem keeps_describe
    {α : Type}
    (sources : Join.Sources)
    {find : String → Table → Action (Assoc α)}
    (findKeeps : ∀ name table, (find name table).Keeps)
    (names : List String) :
    (sources.describe find names).Keeps := by
  refine .foldlM (fun described name => ?_) _ names
  split
  · exact (findKeeps _ _).bind fun _ => .pure _
  · exact .pure _

/-- Joining keeps the workspace when finding descriptions does. -/
theorem keeps_performJoinWith
    {findTypes : String → Table → Action (Assoc ColumnType)}
    {findKinds : String → Table → Action (Assoc SmartTypeInfo)}
    (typesKeep : ∀ name table, (findTypes name table).Keeps)
    (kindsKeep : ∀ name table, (findKinds name table).Keeps)
    (sources : Join.Sources)
    (specs : List JoinSpec) :
    (performJoinWith findTypes findKinds sources specs).Keeps := by
  unfold performJoinWith
  dsimp only
  split
  · exact .pure _
  · split
    · exact .pure _
    · exact (keeps_describe sources typesKeep _).bind fun _ =>
        (keeps_describe sources kindsKeep _).bind fun _ => .pure _

/-- The joined table keeps the workspace. -/
theorem keeps_joinedSnapshot
    (settings : Settings) :
    (joinedSnapshot settings).Keeps := by
  refine Keeps.workspace.bind fun workspace => ?_
  refine Keeps.bind (keeps_performJoinWith ?_ ?_ _ _) fun joined => .newSnapshot _
  · intro name _
    dsimp only
    split
    · exact .types settings _
    · exact .pure _
  · intro name _
    dsimp only
    split
    · exact .smartTypes settings _
    · exact .pure _

theorem keeps_currentView
    (settings : Settings) :
    (currentView settings).Keeps := by
  refine Keeps.workspace.bind fun workspace => ?_
  split
  · exact .cachedTable _ (keeps_joinedSnapshot settings)
  · split
    · exact .pure _
    · exact .newSnapshot _

theorem keeps_currentTypes
    (settings : Settings) :
    (currentTypes settings).Keeps :=
  (keeps_currentView settings).bind fun view => .types settings view

theorem keeps_filterSnapshot
    (caseSensitive : Bool)
    (node : FilterNode)
    (snapshot : Snapshot) :
    (filterSnapshot caseSensitive node snapshot).Keeps := by
  unfold filterSnapshot
  split
  · exact .pure _
  · exact (Keeps.ofOutcome _).bind fun _ => .derivedSnapshot _ _

theorem keeps_filteredView
    (settings : Settings) :
    (filteredView settings).Keeps :=
  (keeps_currentView settings).bind fun _ =>
    Keeps.workspace.bind fun _ =>
      .cachedTable _ (keeps_filterSnapshot _ _ _)

theorem keeps_arrangeSnapshot
    (arrangement : Arrangement)
    (snapshot : Snapshot) :
    (arrangeSnapshot arrangement snapshot).Keeps := by
  unfold arrangeSnapshot
  split
  · exact .pure _
  · exact (Keeps.ofOutcome _).bind fun _ => .derivedSnapshot _ _

theorem keeps_dataView
    (settings : Settings)
    (arrangement : Arrangement) :
    (dataView settings arrangement).Keeps :=
  (keeps_filteredView settings).bind fun _ =>
    .cachedTable _ (keeps_arrangeSnapshot _ _)

theorem keeps_columnSums
    (settings : Settings)
    (search : String)
    (caseSensitive : Bool) :
    (columnSums settings search caseSensitive).Keeps :=
  (keeps_dataView settings _).bind fun view =>
    .remembered ((Keeps.types settings view).bind fun _ => .ofOutcome _)

theorem keeps_pivot
    (settings : Settings)
    (config : PivotConfig) :
    (pivot settings config).Keeps :=
  (keeps_filteredView settings).bind fun _ =>
    .cachedPivot _ (.ofOutcome _)

theorem keeps_quality
    (settings : Settings) :
    (quality settings).Keeps := by
  refine (keeps_filteredView settings).bind fun view => .remembered ?_
  unfold qualityOf
  split
  · exact .pure _
  · exact (Keeps.types settings view).bind fun _ => .ofOutcome _

theorem keeps_columnStats
    (settings : Settings)
    (column : String) :
    (columnStats settings column).Keeps :=
  (keeps_filteredView settings).bind fun _ => .remembered (.ofOutcome _)

theorem keeps_uniqueValues
    (settings : Settings)
    (column : String)
    (limit : Option Int) :
    (uniqueValues settings column limit).Keeps :=
  (keeps_currentView settings).bind fun _ =>
    (Keeps.remembered (.pure _)).bind fun _ => .pure _

theorem keeps_suggestedAnonymization
    (settings : Settings) :
    (suggestedAnonymization settings).Keeps :=
  (keeps_filteredView settings).bind fun view =>
    (Keeps.smartTypes settings view).bind fun _ => .pure _

theorem keeps_methodsFor
    (settings : Settings)
    (named : Option (Assoc Cell))
    (view : Snapshot) :
    (methodsFor settings named view).Keeps := by
  unfold methodsFor
  split
  · exact .ofOutcome _
  · exact (Keeps.smartTypes settings view).bind fun _ => .pure _

theorem keeps_hidden
    (settings : Settings)
    (methods : Assoc AnonymizationMethod)
    (view : Snapshot) :
    (hidden settings methods view).Keeps :=
  (Keeps.smartTypes settings view).bind fun _ => .pure _

theorem keeps_hiddenRows
    (settings : Settings)
    (methods : Assoc AnonymizationMethod)
    (limit : Option Int)
    (view : Snapshot) :
    (hiddenRows settings methods limit view).Keeps :=
  (Keeps.smartTypes settings view).bind fun _ => .pure _

theorem keeps_anonymize
    (settings : Settings)
    (named : Option (Assoc Cell)) :
    (anonymize settings named).Keeps :=
  (keeps_filteredView settings).bind fun view =>
    (keeps_methodsFor settings named view).bind fun methods =>
      keeps_hidden settings methods view

theorem keeps_anonymizePreview
    (settings : Settings)
    (named : Option (Assoc Cell))
    (limit : Option Int) :
    (anonymizePreview settings named limit).Keeps :=
  (keeps_filteredView settings).bind fun view =>
    (keeps_methodsFor settings named view).bind fun methods =>
      keeps_hiddenRows settings methods limit view

theorem keeps_getTable
    (name : String) :
    (getTable name).Keeps := by
  refine Keeps.workspace.bind fun workspace => ?_
  split
  · exact .pure _
  · exact .throw _

theorem keeps_target
    (asked : Option String) :
    (target asked).Keeps := by
  refine Keeps.workspace.bind fun workspace => ?_
  dsimp only
  split
  · exact (keeps_getTable _).bind fun _ => .pure _
  · exact .throw _

theorem keeps_previewCleaning
    (column : String)
    (operation : Cell)
    (asked : Option String) :
    (previewCleaning column operation asked).Keeps :=
  (keeps_target asked).bind fun _ =>
    (Keeps.ofOutcome _).bind fun _ => .pure _

theorem keeps_filterColumns
    (settings : Settings) :
    (filterColumns settings).Keeps := by
  refine Keeps.workspace.bind fun workspace => ?_
  refine Keeps.bind (.mapM (fun entry => ?_) _) fun _ => .pure _
  exact (Keeps.types settings entry.2).bind fun _ =>
    Keeps.workspace.bind fun _ => .pure _

end Workspace

/-! ## Reads -/

open Workspace

theorem Look.keeps_action
    (settings : Settings)
    (look : Look) :
    (look.action settings).Keeps := by
  cases look with
  | table name =>
      exact keeps_getTable name
  | currentView =>
      exact keeps_currentView settings
  | filteredView =>
      exact keeps_filteredView settings
  | dataView arrangement =>
      exact keeps_dataView settings arrangement

/-- Every read keeps the workspace. -/
theorem Read.keeps_action
    (settings : Settings)
    (read : Read) :
    (read.action settings).Keeps := by
  cases read with
  | view look =>
      exact .map _ (look.keeps_action settings)
  | types look =>
      exact .map _
        ((look.keeps_action settings).bind fun view => .types settings view)
  | kinds look =>
      exact .map _
        ((look.keeps_action settings).bind fun view =>
          .smartTypes settings view)
  | prefixOf name =>
      exact .map _ .workspace
  | filterColumns =>
      exact .map _ (keeps_filterColumns settings)
  | filterSubtree id =>
      exact .map _ .workspace
  | columnSums search caseSensitive =>
      exact .map _ (keeps_columnSums settings search caseSensitive)
  | pivot config =>
      exact .map _ (keeps_pivot settings config)
  | quality =>
      exact .map _ (keeps_quality settings)
  | columnStats column =>
      exact .map _ (keeps_columnStats settings column)
  | uniqueValues column limit =>
      exact .map _ (keeps_uniqueValues settings column limit)
  | suggestedAnonymization =>
      exact .map _ (keeps_suggestedAnonymization settings)
  | anonymize named =>
      exact .map _ (keeps_anonymize settings named)
  | anonymizePreview named limit =>
      exact .map _ (keeps_anonymizePreview settings named limit)
  | previewCleaning column operation asked =>
      exact .map _ (keeps_previewCleaning column operation asked)

/-- Any number of reads, whether they answer or fail, leave the workspace as it was. -/
theorem Session.sameApartFromMemory_after_reads
    (settings : Settings)
    (session : Session)
    (reads : List Read) :
    session.workspace.SameApartFromMemory
      (session.after settings (reads.map .read)).workspace := by
  induction reads generalizing session with
  | nil =>
      exact .refl session.workspace
  | cons read rest inductionHypothesis =>
      exact ((read.keeps_action settings).same session).trans
        (inductionHypothesis _)

end Tabular
