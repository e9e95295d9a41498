import Tabular.Proofs.Workspace.Steps

namespace Tabular

/-!
# Operations look at the current view first

Whatever an operation asks of the current view, it asks before it changes anything. What comes after
only remembers answers and views, never a joined one, apart from the changes that an edit is there
for. So every operation is a look at the current view, or no look, followed by allowed changes.
-/

/-- The key is one of a joined table. -/
def ViewKey.IsJoin : ViewKey → Prop
  | .joined .. => True
  | _ => False

/-- Answers may be remembered, and views other than the joined one may be cached. -/
structure Workspace.AllowsMemory (allowed : (Workspace → Workspace) → Prop) : Prop where
  remember : ∀ (key : MemoKey) (value : key.Value),
    allowed fun workspace => { workspace with memo := workspace.memo.remember key value }
  touch : ∀ key : ViewKey,
    allowed fun workspace => { workspace with cache := workspace.cache.touch key }
  store : ∀ (key : ViewKey) (view : View), ¬key.IsJoin →
    allowed fun workspace => { workspace with cache := workspace.cache.store key view }

namespace Action

variable {α β : Type} {settings : Settings} {allowed : (Workspace → Workspace) → Prop}

namespace Within

theorem remembered
    (memory : Workspace.AllowsMemory allowed)
    {key : MemoKey}
    {compute : Action key.Value}
    (computeWithin : compute.Within allowed) :
    (Action.remembered key compute).Within allowed := by
  refine look (fun _ _ => rfl) fun workspace => ?_
  split
  · exact pure _
  · exact computeWithin.bind fun value => (change (memory.remember key value)).bind fun _ => pure _

theorem cached
    {key : ViewKey}
    (touchAllowed : allowed fun workspace => { workspace with cache := workspace.cache.touch key })
    (storeAllowed : ∀ view,
      allowed fun workspace => { workspace with cache := workspace.cache.store key view })
    {compute : Action View}
    (computeWithin : compute.Within allowed) :
    (Action.cached key compute).Within allowed := by
  refine look (fun _ _ => rfl) fun workspace => ?_
  split
  · exact (change touchAllowed).bind fun _ => pure _
  · exact computeWithin.bind fun view => (change (storeAllowed view)).bind fun _ => pure _

theorem cachedTable
    {key : ViewKey}
    (touchAllowed : allowed fun workspace => { workspace with cache := workspace.cache.touch key })
    (storeAllowed : ∀ view,
      allowed fun workspace => { workspace with cache := workspace.cache.store key view })
    {compute : Action Snapshot}
    (computeWithin : compute.Within allowed) :
    (Action.cachedTable key compute).Within allowed := by
  refine (cached touchAllowed storeAllowed (computeWithin.map _)).bind fun view => ?_
  split
  · exact pure _
  · exact computeWithin

theorem cachedPivot
    {key : ViewKey}
    (touchAllowed : allowed fun workspace => { workspace with cache := workspace.cache.touch key })
    (storeAllowed : ∀ view,
      allowed fun workspace => { workspace with cache := workspace.cache.store key view })
    {compute : Action PivotResult}
    (computeWithin : compute.Within allowed) :
    (Action.cachedPivot key compute).Within allowed := by
  refine (cached touchAllowed storeAllowed (computeWithin.map _)).bind fun view => ?_
  split
  · exact pure _
  · exact computeWithin

theorem types
    (memory : Workspace.AllowsMemory allowed)
    (snapshot : Snapshot) :
    (Action.types settings snapshot).Within allowed := by
  unfold Action.types
  split
  · exact pure _
  · exact remembered memory (ofOutcome _)

theorem smartTypes
    (memory : Workspace.AllowsMemory allowed)
    (snapshot : Snapshot) :
    (Action.smartTypes settings snapshot).Within allowed := by
  unfold Action.smartTypes
  split
  · exact pure _
  · exact remembered memory (ofOutcome _)

end Within

/--
The action asks for the current view before it changes anything, if it asks for it at all, and
changes the workspace in allowed ways only.
-/
inductive Looks (settings : Settings) (allowed : (Workspace → Workspace) → Prop) :
    {α : Type} → Action α → Prop where
  | within {α : Type} {action : Action α} (isWithin : action.Within allowed) :
      Looks settings allowed action
  | view {α : Type} {next : Snapshot → Action α}
      (nextWithin : ∀ view, (next view).Within allowed) :
      Looks settings allowed (Workspace.currentView settings >>= next)
  | look {α : Type} {next : Workspace → Action α}
      (ignoresId : ∀ (workspace : Workspace) (id : String),
        next { workspace with id } = next workspace)
      (nextLooks : ∀ workspace, Looks settings allowed (next workspace)) :
      Looks settings allowed (Action.workspace >>= next)
  | naming {α β : Type} (naming : Naming β) {next : β → Action α}
      (nextLooks : ∀ value, Looks settings allowed (next value)) :
      Looks settings allowed (Action.ofNaming naming >>= next)

namespace Looks

/-- What follows a look may be more allowed steps. -/
theorem bind
    {first : Action α}
    {next : α → Action β}
    (firstLooks : first.Looks settings allowed)
    (nextWithin : ∀ value, (next value).Within allowed) :
    (first >>= next).Looks settings allowed := by
  induction firstLooks with
  | within isWithin =>
      exact within (isWithin.bind nextWithin)
  | view viewWithin =>
      rw [bind_assoc]
      exact view fun snapshot => (viewWithin snapshot).bind nextWithin
  | look ignoresId _ inductionHypothesis =>
      rw [bind_assoc]
      refine look (fun workspace id => ?_) fun workspace => inductionHypothesis workspace
      rw [ignoresId]
  | naming naming _ inductionHypothesis =>
      rw [bind_assoc]
      exact .naming naming inductionHypothesis

theorem map
    (image : α → β)
    {action : Action α}
    (looks : action.Looks settings allowed) :
    (image <$> action).Looks settings allowed := by
  rw [← bind_pure_comp]
  exact looks.bind fun value => .pure (image value)

/-- The action is built of allowed steps when looking at the current view is. -/
theorem isWithin
    (viewWithin : (Workspace.currentView settings).Within allowed)
    {action : Action α}
    (looks : action.Looks settings allowed) :
    action.Within allowed := by
  induction looks with
  | within isWithin =>
      exact isWithin
  | view nextWithin =>
      exact viewWithin.bind nextWithin
  | look ignoresId _ inductionHypothesis =>
      exact .look ignoresId inductionHypothesis
  | naming naming _ inductionHypothesis =>
      exact (Within.ofNaming naming).bind inductionHypothesis

end Looks

end Action

namespace Workspace

open Tabular.Action

variable {α : Type} {settings : Settings} {allowed : (Workspace → Workspace) → Prop}

/-! ## Views -/

theorem within_describe
    (sources : Join.Sources)
    {find : String → Table → Action (Assoc α)}
    (findWithin : ∀ name table, (find name table).Within allowed)
    (names : List String) :
    (sources.describe find names).Within allowed := by
  refine .foldlM (fun described name => ?_) _ names
  split
  · exact (findWithin _ _).bind fun _ => .pure _
  · exact .pure _

/-- Joining tables only remembers what their columns are. -/
theorem within_joinedSnapshot
    (memory : AllowsMemory allowed) :
    (joinedSnapshot settings).Within allowed := by
  refine .look (fun _ _ => rfl) fun workspace => ?_
  refine Within.bind ?_ fun joined => .newSnapshot _
  unfold performJoinWith
  dsimp only
  split
  · exact .pure _
  · split
    · exact .pure _
    · refine Within.bind (within_describe _ (fun name _ => ?_) _) fun _ =>
        Within.bind (within_describe _ (fun name _ => ?_) _) fun _ => .pure _
      · split
        · exact .types memory _
        · exact .pure _
      · split
        · exact .smartTypes memory _
        · exact .pure _

/-- Looking at the current view may cache the joined table. -/
theorem within_currentView
    (memory : AllowsMemory allowed)
    (storeAllowed : ∀ (key : ViewKey) (view : View),
      allowed fun workspace => { workspace with cache := workspace.cache.store key view }) :
    (currentView settings).Within allowed := by
  refine .look (fun _ _ => rfl) fun workspace => ?_
  split
  · exact .cachedTable (memory.touch _) (storeAllowed _) (within_joinedSnapshot memory)
  · split
    · exact .pure _
    · exact .newSnapshot _

theorem looks_currentView :
    (currentView settings).Looks settings allowed := by
  rw [← bind_pure (currentView settings)]
  exact .view fun snapshot => .pure snapshot

theorem looks_currentTypes
    (memory : AllowsMemory allowed) :
    (currentTypes settings).Looks settings allowed :=
  .view fun view => .types memory view

theorem within_filterSnapshot
    (caseSensitive : Bool)
    (node : FilterNode)
    (snapshot : Snapshot) :
    (filterSnapshot caseSensitive node snapshot).Within allowed := by
  unfold filterSnapshot
  split
  · exact .pure _
  · exact (Within.ofOutcome _).bind fun _ => .derivedSnapshot _ _

theorem looks_filteredView
    (memory : AllowsMemory allowed) :
    (filteredView settings).Looks settings allowed :=
  .view fun _ => .look (fun _ _ => rfl) fun _ =>
    .cachedTable (memory.touch _) (fun view => memory.store _ view (by exact not_false))
      (within_filterSnapshot _ _ _)

theorem within_arrangeSnapshot
    (arrangement : Arrangement)
    (snapshot : Snapshot) :
    (arrangeSnapshot arrangement snapshot).Within allowed := by
  unfold arrangeSnapshot
  split
  · exact .pure _
  · exact (Within.ofOutcome _).bind fun _ => .derivedSnapshot _ _

theorem looks_dataView
    (memory : AllowsMemory allowed)
    (arrangement : Arrangement) :
    (dataView settings arrangement).Looks settings allowed :=
  (looks_filteredView memory).bind fun _ =>
    .cachedTable (memory.touch _) (fun view => memory.store _ view (by exact not_false))
      (within_arrangeSnapshot _ _)

/-! ## Analyses -/

theorem looks_columnSums
    (memory : AllowsMemory allowed)
    (search : String)
    (caseSensitive : Bool) :
    (columnSums settings search caseSensitive).Looks settings allowed :=
  (looks_dataView memory _).bind fun _ =>
    .remembered memory ((Within.types memory _).bind fun _ => .ofOutcome _)

theorem looks_pivot
    (memory : AllowsMemory allowed)
    (config : PivotConfig) :
    (pivot settings config).Looks settings allowed :=
  (looks_filteredView memory).bind fun _ =>
    .cachedPivot (memory.touch _) (fun view => memory.store _ view (by exact not_false))
      (.ofOutcome _)

theorem looks_quality
    (memory : AllowsMemory allowed) :
    (quality settings).Looks settings allowed := by
  refine (looks_filteredView memory).bind fun view => .remembered memory ?_
  unfold qualityOf
  split
  · exact .pure _
  · exact (Within.types memory _).bind fun _ => .ofOutcome _

theorem looks_columnStats
    (memory : AllowsMemory allowed)
    (column : String) :
    (columnStats settings column).Looks settings allowed :=
  (looks_filteredView memory).bind fun _ => .remembered memory (.ofOutcome _)

theorem looks_uniqueValues
    (memory : AllowsMemory allowed)
    (column : String)
    (limit : Option Int) :
    (uniqueValues settings column limit).Looks settings allowed :=
  looks_currentView.bind fun _ => (Within.remembered memory (.pure _)).bind fun _ => .pure _

theorem looks_suggestedAnonymization
    (memory : AllowsMemory allowed) :
    (suggestedAnonymization settings).Looks settings allowed :=
  (looks_filteredView memory).bind fun _ => (Within.smartTypes memory _).bind fun _ => .pure _

theorem within_methodsFor
    (memory : AllowsMemory allowed)
    (named : Option (Assoc Cell))
    (view : Snapshot) :
    (methodsFor settings named view).Within allowed := by
  unfold methodsFor
  split
  · exact .ofOutcome _
  · exact (Within.smartTypes memory _).bind fun _ => .pure _

theorem looks_anonymize
    (memory : AllowsMemory allowed)
    (named : Option (Assoc Cell)) :
    (anonymize settings named).Looks settings allowed :=
  (looks_filteredView memory).bind fun _ => (within_methodsFor memory named _).bind fun _ =>
    (Within.smartTypes memory _).bind fun _ => .pure _

theorem looks_anonymizePreview
    (memory : AllowsMemory allowed)
    (named : Option (Assoc Cell))
    (limit : Option Int) :
    (anonymizePreview settings named limit).Looks settings allowed :=
  (looks_filteredView memory).bind fun _ => (within_methodsFor memory named _).bind fun _ =>
    (Within.smartTypes memory _).bind fun _ => .pure _

/-! ## Tables -/

theorem within_getTable
    (name : String) :
    (getTable name).Within allowed := by
  refine .look (fun _ _ => rfl) fun workspace => ?_
  split
  · exact .pure _
  · exact .throw _

theorem within_target
    (asked : Option String) :
    (target asked).Within allowed := by
  refine .look (fun _ _ => rfl) fun workspace => ?_
  dsimp only
  split
  · exact (within_getTable _).bind fun _ => .pure _
  · exact .throw _

theorem within_previewCleaning
    (column : String)
    (operation : Cell)
    (asked : Option String) :
    (previewCleaning column operation asked).Within allowed :=
  (within_target asked).bind fun _ => (Within.ofOutcome _).bind fun _ => .pure _

theorem within_filterColumns
    (memory : AllowsMemory allowed) :
    (filterColumns settings).Within allowed := by
  refine .look (fun _ _ => rfl) fun workspace => ?_
  refine Within.bind (.mapM (fun entry => ?_) _) fun _ => .pure _
  exact (Within.types memory _).bind fun _ => .look (fun _ _ => rfl) fun _ => .pure _

theorem within_withoutDuplicates
    (snapshot : Snapshot) :
    (withoutDuplicates snapshot).Within allowed := by
  unfold withoutDuplicates
  split
  · exact .pure _
  · exact (Within.ofOutcome _).bind fun _ => .derivedSnapshot _ _

/-- The action stores a table under the name of the loaded one that it has been told of. -/
def ReplacesTarget (asked : Option String) (action : Action α) : Prop :=
  ∃ rest : String × Snapshot → Action α,
    action = target asked >>= rest ∧
      ∀ found, (rest found).Within fun change =>
        ∃ snapshot, change = fun workspace => workspace.withTable found.1 snapshot

theorem ReplacesTarget.within
    {asked : Option String}
    {action : Action α}
    (replaces : ReplacesTarget asked action)
    (storeAllowed : ∀ name snapshot, allowed fun workspace => workspace.withTable name snapshot) :
    action.Within allowed := by
  obtain ⟨rest, rfl, restWithin⟩ := replaces
  refine (within_target asked).bind fun found => (restWithin found).mono ?_
  rintro _ ⟨snapshot, rfl⟩
  exact storeAllowed found.1 snapshot

theorem replacesTarget_cleanColumn
    (column : String)
    (operation : Cell)
    (asked : Option String) :
    ReplacesTarget asked (cleanColumn column operation asked) :=
  ⟨_, rfl, fun _ => (Within.ofOutcome _).bind fun _ => (Within.newSnapshot _).bind fun snapshot =>
    (Within.change ⟨snapshot, rfl⟩).bind fun _ => .pure _⟩

theorem replacesTarget_removeDuplicates
    (asked : Option String) :
    ReplacesTarget asked (removeDuplicates asked) :=
  ⟨_, rfl, fun _ => (within_withoutDuplicates _).bind fun snapshot =>
    (Within.change ⟨snapshot, rfl⟩).bind fun _ => .pure _⟩

theorem replacesTarget_fillEmpty
    (column : String)
    (value : Cell)
    (asked : Option String) :
    ReplacesTarget asked (fillEmpty column value asked) :=
  ⟨_, rfl, fun _ => (Within.newSnapshot _).bind fun snapshot =>
    (Within.change ⟨snapshot, rfl⟩).bind fun _ => .pure _⟩

/-! ## The filter -/

/-- A node is added by a change of the filter alone. -/
theorem within_addNode
    (filterAllowed : ∀ filter, allowed fun workspace => { workspace with filter })
    (parent : Option String)
    (node : FilterNode) :
    (addNode parent node).Within allowed :=
  .look (fun _ _ => rfl) fun _ =>
    (Within.ofOutcome _).bind fun filter => (Within.change (filterAllowed filter)).bind fun _ =>
      .pure _

theorem looks_addCondition
    (memory : AllowsMemory allowed)
    (filterAllowed : ∀ filter, allowed fun workspace => { workspace with filter })
    (parent field operator : Option String)
    (value : Cell) :
    (addCondition settings parent field operator value).Looks settings allowed :=
  .naming _ fun _ => (looks_currentTypes memory).bind fun _ =>
    (Within.ofOutcome _).bind fun _ => within_addNode filterAllowed parent _

theorem within_addGroup
    (filterAllowed : ∀ filter, allowed fun workspace => { workspace with filter })
    (parent : Option String)
    (logic : Cell) :
    (addGroup parent logic).Within allowed :=
  (Within.ofNaming _).bind fun _ => within_addNode filterAllowed parent _

theorem looks_updateNode
    (memory : AllowsMemory allowed)
    (filterAllowed : ∀ filter, allowed fun workspace => { workspace with filter })
    (id : String)
    (changes : FilterNode.Changes) :
    (updateNode settings id changes).Looks settings allowed := by
  refine .look (fun _ _ => rfl) fun workspace => ?_
  dsimp only
  split
  · exact (looks_currentTypes memory).bind fun _ =>
      (Within.ofOutcome _).bind fun filter => .change (filterAllowed filter)
  · exact .within (.throw _)

theorem within_removeNode
    (filterAllowed : ∀ filter, allowed fun workspace => { workspace with filter })
    (id : String) :
    (removeNode id).Within allowed :=
  .look (fun _ _ => rfl) fun _ => .change (filterAllowed _)

theorem looks_setFilterTree
    (memory : AllowsMemory allowed)
    (filterAllowed : ∀ filter, allowed fun workspace => { workspace with filter })
    (root : FilterNode) :
    (setFilterTree settings root).Looks settings allowed := by
  unfold setFilterTree
  split
  · exact .within (.throw _)
  · exact (looks_currentTypes memory).bind fun _ =>
      (Within.ofOutcome _).bind fun _ => .change (filterAllowed _)

end Workspace

/-! ## Reads -/

open Workspace Tabular.Action

variable {settings : Settings} {allowed : (Workspace → Workspace) → Prop}

theorem Look.looks_action
    (memory : AllowsMemory allowed)
    (look : Look) :
    (look.action settings).Looks settings allowed := by
  cases look with
  | table name =>
      exact .within (within_getTable name)
  | currentView =>
      exact looks_currentView
  | filteredView =>
      exact looks_filteredView memory
  | dataView arrangement =>
      exact looks_dataView memory arrangement

/-- Reads only remember what they have looked at. -/
theorem Read.looks_action
    (memory : AllowsMemory allowed)
    (read : Read) :
    (read.action settings).Looks settings allowed := by
  cases read with
  | view look =>
      exact (look.looks_action memory).map _
  | types look =>
      exact ((look.looks_action memory).bind fun _ => .types memory _).map _
  | kinds look =>
      exact ((look.looks_action memory).bind fun _ => .smartTypes memory _).map _
  | prefixOf name =>
      rw [Read.action, ← bind_pure_comp]
      exact .within (.look (fun _ _ => rfl) fun _ => .pure _)
  | filterColumns =>
      exact (Looks.within (within_filterColumns memory)).map _
  | filterSubtree id =>
      rw [Read.action, ← bind_pure_comp]
      exact .within (.look (fun _ _ => rfl) fun _ => .pure _)
  | columnSums search caseSensitive =>
      exact (looks_columnSums memory search caseSensitive).map _
  | pivot config =>
      exact (looks_pivot memory config).map _
  | quality =>
      exact (looks_quality memory).map _
  | columnStats column =>
      exact (looks_columnStats memory column).map _
  | uniqueValues column limit =>
      exact (looks_uniqueValues memory column limit).map _
  | suggestedAnonymization =>
      exact (looks_suggestedAnonymization memory).map _
  | anonymize named =>
      exact (looks_anonymize memory named).map _
  | anonymizePreview named limit =>
      exact (looks_anonymizePreview memory named limit).map _
  | previewCleaning column operation asked =>
      exact (Looks.within (within_previewCleaning column operation asked)).map _

/-! ## Edits -/

/-- The changes that an edit is there for. -/
inductive Edit.Makes : Edit → (Workspace → Workspace) → Prop where
  | load (name : String) (rows : List Row) (snapshot : Snapshot) :
      Makes (.loadTable name rows) fun workspace =>
        { workspace.withTable name snapshot with active := some (workspace.active.getD name) }
  | remove (name : String) :
      Makes (.removeTable name) fun workspace => workspace.withoutTable name
  | activate (name : String) :
      Makes (.setActiveTable name) fun workspace => { workspace with active := some name }
  | clear (root : FilterNode) :
      Makes .clear fun workspace =>
        { workspace with
          tables := .empty
          active := none
          aliases := .empty
          joins := []
          filter := root
          cache := workspace.cache.clear
          memo := .empty }
  | join (joins : List JoinSpec) :
      Makes (.setJoins joins) fun workspace => { workspace with joins }
  | name (name asked chosen : String) :
      Makes (.setAlias name asked) fun workspace =>
        { workspace with aliases := workspace.aliases.insert name chosen }
  | setCase (caseSensitive : Bool) :
      Makes (.setCaseSensitive caseSensitive) fun workspace => { workspace with caseSensitive }
  | filter {edit : Edit} (filter : FilterNode) :
      Makes edit fun workspace => { workspace with filter }
  | clean (column : String) (operation : Cell) (asked : Option String) (name : String)
      (snapshot : Snapshot) :
      Makes (.cleanColumn column operation asked) fun workspace =>
        workspace.withTable name snapshot
  | distinct (asked : Option String) (name : String) (snapshot : Snapshot) :
      Makes (.removeDuplicates asked) fun workspace => workspace.withTable name snapshot
  | fill (column : String) (value : Cell) (asked : Option String) (name : String)
      (snapshot : Snapshot) :
      Makes (.fillEmpty column value asked) fun workspace => workspace.withTable name snapshot

theorem Edit.looks_action
    (memory : AllowsMemory allowed)
    (edit : Edit)
    (makes : ∀ change, edit.Makes change → allowed change) :
    (edit.action settings).Looks settings allowed := by
  have filterAllowed (filter : FilterNode) :
      allowed fun workspace => { workspace with filter } :=
    makes _ (.filter filter)
  cases edit with
  | loadTable name rows =>
      refine .within (.map _ ((Within.newSnapshot _).bind fun snapshot => ?_))
      exact (Within.change (makes _ (.load name rows snapshot))).bind fun _ => .pure _
  | removeTable name =>
      exact .within (.map _ ((within_getTable name).bind fun _ => .change (makes _ (.remove name))))
  | setActiveTable name =>
      refine .within (.map _ ((within_getTable name).bind fun _ => ?_))
      exact .change (makes _ (.activate name))
  | clear =>
      refine .within (.map _ ((Within.ofNaming _).bind fun root => ?_))
      exact .change (makes _ (.clear root))
  | setJoins joins =>
      exact .within (.map _ (.change (makes _ (.join joins))))
  | setAlias name asked =>
      refine .within (.map _ ((within_getTable name).bind fun _ => ?_))
      refine .look (fun _ _ => rfl) fun workspace => ?_
      exact (Within.change (makes _ (.name name asked _))).bind fun _ => .pure _
  | addCondition parent field operator value =>
      exact (looks_addCondition memory filterAllowed parent field operator value).map _
  | addGroup parent logic =>
      exact .within (.map _ (within_addGroup filterAllowed parent logic))
  | updateNode id changes =>
      exact (looks_updateNode memory filterAllowed id changes).map _
  | removeNode id =>
      exact .within (.map _ (within_removeNode filterAllowed id))
  | setFilterTree root =>
      exact (looks_setFilterTree memory filterAllowed root).map _
  | setCaseSensitive enabled =>
      exact .within (.map _ (.change (makes _ (.setCase enabled))))
  | cleanColumn column operation asked =>
      refine .within (.map _ ((replacesTarget_cleanColumn column operation asked).within ?_))
      exact fun name snapshot => makes _ (.clean column operation asked name snapshot)
  | removeDuplicates asked =>
      refine .within (.map _ ((replacesTarget_removeDuplicates asked).within ?_))
      exact fun name snapshot => makes _ (.distinct asked name snapshot)
  | fillEmpty column value asked =>
      refine .within (.map _ ((replacesTarget_fillEmpty column value asked).within ?_))
      exact fun name snapshot => makes _ (.fill column value asked name snapshot)

/-- Every operation looks first, and then makes the changes that it is there for. -/
theorem Operation.looks_action
    (memory : AllowsMemory allowed)
    (operation : Operation)
    (makes : ∀ edit change, operation = .edit edit → edit.Makes change → allowed change) :
    (operation.action settings).Looks settings allowed := by
  cases operation with
  | edit edit =>
      exact edit.looks_action memory fun change => makes edit change rfl
  | read read =>
      exact read.looks_action memory

end Tabular
