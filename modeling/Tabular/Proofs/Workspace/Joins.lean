import Tabular.Proofs.Workspace.Integrity
import Tabular.Proofs.Workspace.Looking

namespace Tabular

/-!
# Cached joins are right

A joined table is cached under the versions of the tables, the joins and the aliases. Operations
look at the current view before they change anything, so every cached join is the join of tables
that have been issued, and the versions tell these tables. Whatever stands in the filter, the
current view of a workspace with joins therefore is the join of the tables that it then has.
-/

/-- The view under the key is the join of tables that have been issued. -/
def ViewKey.ShowsJoin (settings : Settings) (ledger : Ledger) (key : ViewKey) (view : View) :
    Prop :=
  ∃ (workspace : Workspace) (snapshot : Snapshot),
    ledger.Issued workspace.tables ∧ workspace.joinKey = key ∧ view = .table snapshot ∧
      workspace.contents.joinedTable settings = .ok snapshot.table

/-- All joins that the workspace has cached are right. -/
def Workspace.ShowsJoins (settings : Settings) (ledger : Ledger) (workspace : Workspace) : Prop :=
  ∀ key view, (key, view) ∈ workspace.cache.entries → key.IsJoin →
    key.ShowsJoin settings ledger view

/-- The session is recorded, its tables go by their names, and its cached joins are right. -/
structure Session.KeepsJoins (settings : Settings) (ledger : Ledger) (session : Session) :
    Prop where
  recorded : session.IsRecorded settings ledger
  issued : ledger.Issued session.workspace.tables
  joins : session.workspace.ShowsJoins settings ledger

theorem ViewKey.ShowsJoin.mono
    {settings : Settings}
    {ledger wider : Ledger}
    {key : ViewKey}
    {view : View}
    (shows : key.ShowsJoin settings ledger view)
    (grows : ledger ⊆ wider) :
    key.ShowsJoin settings wider view := by
  obtain ⟨workspace, snapshot, issued, right⟩ := shows
  exact ⟨workspace, snapshot, issued.mono grows, right⟩

/-! ## Changes that add no joins -/

/-- The change keeps cached joins right. -/
def Workspace.KeepsJoinsRight (settings : Settings) (ledger : Ledger)
    (change : Workspace → Workspace) : Prop :=
  ∀ workspace : Workspace, workspace.ShowsJoins settings ledger →
    (change workspace).ShowsJoins settings ledger

namespace Workspace

variable {settings : Settings} {ledger : Ledger}

theorem allowsMemory_keepsJoinsRight :
    AllowsMemory (KeepsJoinsRight settings ledger) where
  remember _ _ _ shows := shows
  touch _ _ shows _ _ member := shows _ _ (SnapshotCache.mem_of_mem_touch member)
  store key view notJoin _ shows _ _ member isJoin := by
    rcases SnapshotCache.eq_or_mem_of_mem_store member with isNew | earlier
    · obtain ⟨rfl, rfl⟩ := Prod.mk.inj isNew
      exact absurd isJoin notJoin
    · exact shows _ _ earlier isJoin

/-- No edit adds joins to the cache by the changes that it is there for. -/
theorem keepsJoinsRight_of_makes
    {edit : Edit}
    {change : Workspace → Workspace}
    (makes : edit.Makes change) :
    KeepsJoinsRight settings ledger change := by
  intro workspace shows key view member isJoin
  cases makes with
  | clear root =>
      exact absurd member List.not_mem_nil
  | _ =>
      exact shows key view member isJoin

end Workspace

/-! ## Computations on recorded sessions -/

namespace Action

variable {α β : Type}

/--
In every recorded session with the contents the action answers what the computation does. It keeps
the contents and leaves a recorded session.
-/
def Gives (settings : Settings) (ledger : Ledger) (contents : Contents) (action : Action α)
    (plain : Outcome α) : Prop :=
  ∀ wider : Ledger, ledger ⊆ wider →
    ∀ session : Session, session.IsRecorded settings wider →
      session.workspace.contents = contents →
        (action.perform session).1 = plain ∧
          (action.perform session).2.workspace.contents = contents ∧
            ∃ final : Ledger, wider ⊆ final ∧
              (action.perform session).2.IsRecorded settings final

namespace Gives

variable {settings : Settings} {ledger : Ledger} {contents : Contents}

theorem of_records
    {action : Action α}
    {plain : Outcome α}
    {good : Ledger → α → Prop}
    (records : action.Records settings ledger good)
    (keeps : action.Keeps)
    (answers : ∀ wider, ledger ⊆ wider → ∀ session : Session, session.IsRecorded settings wider →
      (action.perform session).1 = plain) :
    action.Gives settings ledger contents plain := by
  intro wider grows session recorded hasContents
  obtain ⟨final, growsOn, recordedAfter, -⟩ := records wider grows session recorded
  have sameContents := Workspace.contents_eq_of_same (keeps.same session)
  exact
    ⟨answers wider grows session recorded, sameContents.trans hasContents, final, growsOn,
      recordedAfter⟩

theorem pure
    (value : α) :
    (Pure.pure value : Action α).Gives settings ledger contents (.ok value) :=
  of_records (.answer value) (.pure value) fun _ _ _ _ => rfl

/-- A chain gives what its links give in turn. -/
theorem bind
    {first : Action α}
    {plainFirst : Outcome α}
    {next : α → Action β}
    {plainNext : α → Outcome β}
    (firstGives : first.Gives settings ledger contents plainFirst)
    (nextGives : ∀ value, (next value).Gives settings ledger contents (plainNext value)) :
    (first >>= next).Gives settings ledger contents (plainFirst >>= plainNext) := by
  intro wider grows session recorded hasContents
  obtain ⟨answered, keptContents, middle, growsOn, recordedAfter⟩ :=
    firstGives wider grows session recorded hasContents
  rcases performed : first.perform session with ⟨fault | value, after⟩
  · rw [performed] at answered keptContents recordedAfter
    rw [perform_bind_of_error performed, ← answered]
    exact ⟨rfl, keptContents, middle, growsOn, recordedAfter⟩
  · rw [performed] at answered keptContents recordedAfter
    rw [perform_bind_of_ok performed, ← answered]
    obtain ⟨answeredNext, keptOn, final, growsFurther, recordedFinally⟩ :=
      nextGives value middle (grows.trans growsOn) after recordedAfter keptContents
    exact ⟨answeredNext, keptOn, final, growsOn.trans growsFurther, recordedFinally⟩

/-- A chain that looks at the workspace first may use what the workspace holds. -/
theorem workspace_bind
    {next : Workspace → Action α}
    {plain : Outcome α}
    (nextGives : ∀ wider, ledger ⊆ wider →
      ∀ workspace : Workspace, workspace.IsRecorded settings wider →
        workspace.contents = contents →
          (next workspace).Gives settings wider contents plain) :
    (Action.workspace >>= next).Gives settings ledger contents plain := by
  intro wider grows session recorded hasContents
  rw [perform_bind_of_ok (perform_workspace session)]
  exact
    nextGives wider grows session.workspace recorded.workspace hasContents wider subset_rfl session
      recorded hasContents

theorem foldlM
    {step : β → α → Action β}
    {plainStep : β → α → Outcome β}
    (stepGives : ∀ state element,
      (step state element).Gives settings ledger contents (plainStep state element))
    (initial : β)
    (elements : List α) :
    (elements.foldlM step initial).Gives settings ledger contents
      (elements.foldlM plainStep initial) := by
  induction elements generalizing initial with
  | nil =>
      exact pure initial
  | cons element rest inductionHypothesis =>
      rw [List.foldlM_cons, List.foldlM_cons]
      exact (stepGives initial element).bind inductionHypothesis

theorem mapM
    {γ : Type}
    {step : α → Action β}
    {plainStep : γ → Outcome β}
    {image : α → γ}
    {elements : List α}
    (stepGives : ∀ element ∈ elements,
      (step element).Gives settings ledger contents (plainStep (image element))) :
    (elements.mapM step).Gives settings ledger contents
      ((elements.map image).mapM plainStep) := by
  induction elements with
  | nil =>
      exact pure []
  | cons element rest inductionHypothesis =>
      rw [List.map_cons, List.mapM_cons, List.mapM_cons]
      have restGives := inductionHypothesis fun other member =>
        stepGives other (List.mem_cons_of_mem element member)
      exact (stepGives element List.mem_cons_self).bind fun _ => restGives.bind fun _ => pure _

theorem types
    {snapshot : Snapshot}
    (issued : snapshot ∈ ledger) :
    (Action.types settings snapshot).Gives settings ledger contents
      (snapshot.table.types settings) :=
  of_records (.types issued) (.types settings snapshot) fun _ grows _ recorded =>
    recorded.perform_types (grows issued)

theorem smartTypes
    {snapshot : Snapshot}
    (issued : snapshot ∈ ledger) :
    (Action.smartTypes settings snapshot).Gives settings ledger contents
      (snapshot.table.smartTypes settings) :=
  of_records (.smartTypes issued) (.smartTypes settings snapshot) fun _ grows _ recorded =>
    recorded.perform_smartTypes (grows issued)

/-- The table of a new snapshot is the given one. -/
theorem newSnapshot
    (table : Table) :
    (Snapshot.table <$> Action.newSnapshot table).Gives settings ledger contents (.ok table) :=
  of_records ((Records.newSnapshot table).image _) ((Keeps.newSnapshot table).map _)
    fun _ _ _ _ => rfl

end Gives

end Action

namespace Workspace

open Tabular.Action

variable {settings : Settings} {ledger : Ledger} {contents : Contents} {session : Session}

theorem gives_describe
    {α : Type}
    (sources : Join.Sources)
    {find : String → Table → Action (Assoc α)}
    {plainFind : String → Table → Outcome (Assoc α)}
    (findGives : ∀ name table, sources.tables.find? name = some table →
      (find name table).Gives settings ledger contents (plainFind name table))
    (names : List String) :
    (sources.describe find names).Gives settings ledger contents
      (sources.describe plainFind names) := by
  refine .foldlM (fun described name => ?_) _ names
  split
  · next table found =>
      exact (findGives name table found).bind fun _ => .pure _
  · exact .pure _

theorem gives_performJoinWith
    {sources : Join.Sources}
    {findTypes : String → Table → Action (Assoc ColumnType)}
    {findKinds : String → Table → Action (Assoc SmartTypeInfo)}
    (typesGive : ∀ name table, sources.tables.find? name = some table →
      (findTypes name table).Gives settings ledger contents (table.types settings))
    (kindsGive : ∀ name table, sources.tables.find? name = some table →
      (findKinds name table).Gives settings ledger contents (table.smartTypes settings))
    (specs : List JoinSpec) :
    (performJoinWith findTypes findKinds sources specs).Gives settings ledger contents
      (performJoin settings sources specs) := by
  unfold performJoin performJoinWith
  dsimp only
  split
  · exact .pure _
  · split
    · exact .pure _
    · exact (gives_describe sources typesGive _).bind fun _ =>
        (gives_describe sources kindsGive _).bind fun _ => .pure _

/-- The table of the joined snapshot is the joined table of the contents. -/
theorem gives_joinedSnapshot :
    (Snapshot.table <$> joinedSnapshot settings).Gives settings ledger contents
      (contents.joinedTable settings) := by
  rw [joinedSnapshot, map_bind]
  refine .workspace_bind fun wider _ workspace recorded isContents => ?_
  subst isContents
  have find_of_source {name : String} {table : Table}
      (found : workspace.sources.tables.find? name = some table) :
      ∃ snapshot, workspace.tables.find? name = some snapshot ∧ snapshot.table = table := by
    rwa [sources, Assoc.find?_mapValues, Option.map_eq_some_iff] at found
  rw [map_bind, Contents.joinedTable, ← bind_pure_comp]
  refine (gives_performJoinWith ?_ ?_ workspace.joins).bind fun joined => .newSnapshot joined.table
  · intro name table found
    obtain ⟨snapshot, isFound, rfl⟩ := find_of_source found
    dsimp only
    rw [isFound]
    exact .types (recorded.tables isFound)
  · intro name table found
    obtain ⟨snapshot, isFound, rfl⟩ := find_of_source found
    dsimp only
    rw [isFound]
    exact .smartTypes (recorded.tables isFound)

theorem gives_filterColumns :
    (filterColumns settings).Gives settings ledger contents (contents.filterColumns settings) := by
  refine .workspace_bind fun wider _ workspace recorded isContents => ?_
  subst isContents
  refine Gives.bind (.mapM fun entry member => ?_) fun columns => .pure _
  have issued := recorded.tables (Assoc.find?_eq_some_iff.mpr member)
  refine (Gives.types issued).bind fun types => ?_
  refine .workspace_bind fun _ _ current _ sameContents => ?_
  have samePrefix : current.prefixOf entry.1 = workspace.prefixOf entry.1 :=
    congrArg (fun found : Contents => Alias.nameIn found.aliases entry.1) sameContents
  rw [samePrefix]
  exact .pure _

/-! ## The current view -/

/-- A cached snapshot is found, and its key has been asked for last. -/
theorem perform_cachedTable_of_found
    {key : ViewKey}
    {compute : Action Snapshot}
    {snapshot : Snapshot}
    (found : session.workspace.cache.find? key = some (.table snapshot)) :
    (Action.cachedTable key compute).perform session =
      (.ok snapshot,
        { session with
          workspace :=
            { session.workspace with cache := session.workspace.cache.touch key } }) := by
  have hit :
      (Action.cached key (View.table <$> compute)).perform session =
        (.ok (.table snapshot),
          { session with
            workspace :=
              { session.workspace with cache := session.workspace.cache.touch key } }) := by
    rw [Action.cached, perform_bind_of_ok (perform_workspace session), found]
    rfl
  rw [Action.cachedTable, perform_bind_of_ok hit]
  rfl

/-- A snapshot that is not cached is computed; when that answers, it is cached. -/
theorem perform_cachedTable_of_missing
    {key : ViewKey}
    {compute : Action Snapshot}
    (missing : session.workspace.cache.find? key = none) :
    (Action.cachedTable key compute).perform session =
      match compute.perform session with
      | (.ok snapshot, after) =>
          (.ok snapshot,
            { after with
              workspace :=
                { after.workspace with
                  cache := after.workspace.cache.store key (.table snapshot) } })
      | (.error fault, after) => (.error fault, after) := by
  rw [Action.cachedTable, Action.cached, bind_assoc,
    perform_bind_of_ok (perform_workspace session), missing, bind_assoc]
  rcases performed : compute.perform session with ⟨fault | snapshot, after⟩
  · have failed : (View.table <$> compute).perform session = (.error fault, after) := by
      rw [perform_map, performed]
      rfl
    rw [perform_bind_of_error failed]
  · have answered : (View.table <$> compute).perform session = (.ok (.table snapshot), after) := by
      rw [perform_map, performed]
      rfl
    rw [perform_bind_of_ok answered]
    rfl

/--
The current view of a workspace with joins has the joined table of the contents, and afterwards all
cached joins are right.
-/
theorem perform_currentView_of_isJoined
    (keeps : session.KeepsJoins settings ledger)
    (isJoined : session.workspace.isJoined = true) :
    ((currentView settings).perform session).1.map Snapshot.table =
        session.workspace.contents.joinedTable settings ∧
      ((currentView settings).perform session).2.workspace.ShowsJoins settings ledger := by
  have looked :
      (currentView settings).perform session =
        (Action.cachedTable session.workspace.joinKey (joinedSnapshot settings)).perform
          session := by
    rw [currentView, perform_bind_of_ok (perform_workspace session), if_pos isJoined]
  rw [looked]
  cases found : session.workspace.cache.find? session.workspace.joinKey with
  | some view =>
      obtain ⟨other, snapshot, issued, sameKey, rfl, computed⟩ :=
        keeps.joins _ _ (SnapshotCache.mem_of_find?_eq_some found) trivial
      rw [perform_cachedTable_of_found found,
        joinedTable_eq_of_joinKey_eq keeps.recorded.consistent keeps.issued issued sameKey.symm,
        computed]
      exact ⟨rfl, allowsMemory_keepsJoinsRight.touch _ _ keeps.joins⟩
  | none =>
      have computed := (gives_joinedSnapshot ledger subset_rfl session keeps.recorded rfl).1
      have showsAfter :
          ((joinedSnapshot settings).perform session).2.workspace.ShowsJoins settings ledger :=
        (within_joinedSnapshot allowsMemory_keepsJoinsRight).invariant
          (fun workspace => workspace.ShowsJoins settings ledger)
          (fun _ keepsRight => keepsRight) keeps.joins
      rw [perform_cachedTable_of_missing found]
      rw [perform_map] at computed
      rcases performed : (joinedSnapshot settings).perform session with
        ⟨fault | snapshot, after⟩
      · rw [performed] at computed showsAfter
        exact ⟨computed, showsAfter⟩
      · rw [performed] at computed showsAfter
        refine ⟨computed, fun _ _ member isJoin => ?_⟩
        rcases SnapshotCache.eq_or_mem_of_mem_store member with isNew | earlier
        · obtain ⟨rfl, rfl⟩ := Prod.mk.inj isNew
          exact ⟨session.workspace, snapshot, keeps.issued, rfl, rfl, computed.symm⟩
        · exact showsAfter _ _ earlier isJoin

/-- Looking at the current view keeps cached joins right, with joins or without. -/
theorem showsJoins_currentView
    (keeps : session.KeepsJoins settings ledger) :
    ((currentView settings).perform session).2.workspace.ShowsJoins settings ledger := by
  by_cases isJoined : session.workspace.isJoined = true
  · exact (perform_currentView_of_isJoined keeps isJoined).2
  · rw [currentView, perform_bind_of_ok (perform_workspace session), if_neg isJoined]
    split <;> exact keeps.joins

end Workspace

/-! ## Operations and runs -/

open Workspace Tabular.Action

variable {settings : Settings} {ledger : Ledger} {session : Session}

/-- An action that looks at the current view first leaves cached joins right. -/
theorem Action.Looks.showsJoins
    {α : Type}
    {action : Action α}
    (looks : action.Looks settings (KeepsJoinsRight settings ledger))
    (keeps : session.KeepsJoins settings ledger) :
    (action.perform session).2.workspace.ShowsJoins settings ledger := by
  have invariant {β : Type} {rest : Action β} {current : Session}
      (within : rest.Within (KeepsJoinsRight settings ledger))
      (shows : current.workspace.ShowsJoins settings ledger) :
      (rest.perform current).2.workspace.ShowsJoins settings ledger :=
    within.invariant (fun workspace => workspace.ShowsJoins settings ledger)
      (fun _ keepsRight => keepsRight) shows
  induction looks generalizing session with
  | within isWithin =>
      exact invariant isWithin keeps.joins
  | view nextWithin =>
      have shows := showsJoins_currentView keeps
      rcases performed : (currentView settings).perform session with ⟨fault | view, after⟩
      · rw [performed] at shows
        rwa [perform_bind_of_error performed]
      · rw [performed] at shows
        rw [perform_bind_of_ok performed]
        exact invariant (nextWithin view) shows
  | look _ _ inductionHypothesis =>
      rw [perform_bind_of_ok (perform_workspace session)]
      exact inductionHypothesis session.workspace keeps
  | naming naming _ inductionHypothesis =>
      rcases drawn : naming.run session.supply.nodes with fault | ⟨value, nodes⟩
      · rw [perform_bind_of_error (perform_ofNaming_of_error drawn)]
        exact keeps.joins
      · rw [perform_bind_of_ok (perform_ofNaming_of_ok drawn)]
        exact inductionHypothesis value
          ⟨⟨keeps.recorded.consistent, keeps.recorded.workspace⟩, keeps.issued, keeps.joins⟩

namespace Session

/-- Every operation leaves the cached joins of a session right. -/
theorem KeepsJoins.exists_perform
    (keeps : session.KeepsJoins settings ledger)
    (operation : Operation)
    (integral :
      ((operation.action settings).perform session).2.workspace.contents.IsIntegral) :
    ∃ final : Ledger,
      ((operation.action settings).perform session).2.KeepsJoins settings final := by
  obtain ⟨final, grows, recorded, -⟩ :=
    operation.records_action ledger subset_rfl session keeps.recorded
  have looks :
      (operation.action settings).Looks settings (KeepsJoinsRight settings ledger) :=
    operation.looks_action allowsMemory_keepsJoinsRight fun _ _ _ => keepsJoinsRight_of_makes
  refine ⟨final, recorded, ⟨recorded.workspace.tables, fun found => ?_⟩, ?_⟩
  · exact integral.name_eq (find?_contents_of_found found)
  · exact fun _ _ member isJoin => (looks.showsJoins keeps _ _ member isJoin).mono grows

/-- Every run leaves the cached joins of its session right. -/
theorem exists_keepsJoins_after
    (settings : Settings)
    (supply : Supply)
    (operations : List Operation) :
    ∃ ledger : Ledger, ((start settings supply).after settings operations).KeepsJoins settings
      ledger := by
  induction operations using List.reverseRecOn with
  | nil =>
      exact
        ⟨∅, isRecorded_start settings supply, .empty,
          fun _ _ member => absurd member List.not_mem_nil⟩
  | append_singleton operations operation inductionHypothesis =>
      obtain ⟨ledger, keeps⟩ := inductionHypothesis
      have integral :=
        isIntegral_after settings (isIntegral_start settings supply) (operations ++ [operation])
      rw [Session.after, List.foldl_append] at integral ⊢
      exact keeps.exists_perform operation integral

end Session

end Tabular
