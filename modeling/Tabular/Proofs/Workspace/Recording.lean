import Tabular.Proofs.View.Parts
import Tabular.Proofs.Workspace.Remembering

namespace Tabular

/-!
# What is known about columns is right

Whatever happens to a workspace, the tables that it holds and caches have been issued, and the
types, kinds, values and totals that it remembers are those of issued snapshots. A filtered view is
cached under the version of a snapshot that it is a part of, and an arranged view under that of the
snapshot that is arranged. This is less than a sound session has to satisfy, so it does not matter
what stands in filters: an action records rightly when it leaves such a session behind, whether it
answers or fails. The ledger may have been widened by others before, as in a store where several
workspaces draw their versions from one supply.
-/

/-- An answer about columns is the one about an issued snapshot; other answers may be anything. -/
def MemoKey.IsKnown (settings : Settings) (ledger : Ledger) : (key : MemoKey) → key.Value → Prop
  | .types origin, value => (MemoKey.types origin).IsRecorded settings ledger value
  | .kinds origin, value => (MemoKey.kinds origin).IsRecorded settings ledger value
  | .uniqueValues version column, value =>
      (MemoKey.uniqueValues version column).IsRecorded settings ledger value
  | .columnSums version, value => (MemoKey.columnSums version).IsRecorded settings ledger value
  | _, _ => True

/-- A table among the views has been issued. -/
def View.IsIssued (ledger : Ledger) : View → Prop
  | .table snapshot => snapshot ∈ ledger
  | .pivot _ => True

/-- The snapshot has been issued, and its table is made of that of the issued one of a version. -/
structure Ledger.Derives (ledger : Ledger) (version : Nat) (makes : Table → Table → Prop)
    (snapshot : Snapshot) : Prop where
  issued : snapshot ∈ ledger
  source : ∃ source ∈ ledger, source.version = version ∧ makes source.table snapshot.table

/-- The view under a key is made of issued snapshots as the key asks; other views may be any. -/
def ViewKey.IsKept (ledger : Ledger) : ViewKey → View → Prop
  | .filtered version _ _, .table snapshot =>
      ledger.Derives version (fun table part => part.IsPartOf table) snapshot
  | .arranged version search caseSensitive sortBy direction, .table snapshot =>
      ledger.Derives version
        (fun table arranged =>
          Workspace.Arrangement.apply { search, caseSensitive, sortBy, direction } table =
            .ok arranged)
        snapshot
  | _, view => view.IsIssued ledger

/-- The tables of a workspace have been issued, and what it knows about columns is right. -/
structure Workspace.IsRecorded (settings : Settings) (ledger : Ledger) (workspace : Workspace) :
    Prop where
  tables : ∀ {name snapshot}, workspace.tables.find? name = some snapshot → snapshot ∈ ledger
  cache : ∀ {key view}, (key, view) ∈ workspace.cache.entries → key.IsKept ledger view
  memo : ∀ {key value}, workspace.memo key = some value → key.IsKnown settings ledger value

/-- The workspace of a session is recorded in a ledger of the versions drawn so far. -/
structure Session.IsRecorded (settings : Settings) (ledger : Ledger) (session : Session) :
    Prop where
  consistent : ledger.Consistent session.supply.snapshots
  workspace : session.workspace.IsRecorded settings ledger

theorem MemoKey.IsKnown.mono
    {settings : Settings}
    {ledger wider : Ledger}
    {key : MemoKey}
    {value : key.Value}
    (known : key.IsKnown settings ledger value)
    (grows : ledger ⊆ wider) :
    key.IsKnown settings wider value := by
  cases key with
  | types origin =>
      exact MemoKey.IsRecorded.mono known grows
  | kinds origin =>
      exact MemoKey.IsRecorded.mono known grows
  | uniqueValues version column =>
      exact MemoKey.IsRecorded.mono known grows
  | columnSums version =>
      exact MemoKey.IsRecorded.mono known grows
  | quality _ | stats _ _ =>
      trivial

theorem View.IsIssued.mono
    {ledger wider : Ledger}
    {view : View}
    (issued : view.IsIssued ledger)
    (grows : ledger ⊆ wider) :
    view.IsIssued wider := by
  cases view with
  | table snapshot =>
      exact grows issued
  | pivot result =>
      trivial

theorem Ledger.Derives.mono
    {ledger wider : Ledger}
    {version : Nat}
    {makes : Table → Table → Prop}
    {snapshot : Snapshot}
    (derives : ledger.Derives version makes snapshot)
    (grows : ledger ⊆ wider) :
    wider.Derives version makes snapshot := by
  obtain ⟨source, sourceIssued, isMade⟩ := derives.source
  exact ⟨grows derives.issued, source, grows sourceIssued, isMade⟩

theorem ViewKey.IsKept.mono
    {ledger wider : Ledger}
    {key : ViewKey}
    {view : View}
    (kept : key.IsKept ledger view)
    (grows : ledger ⊆ wider) :
    key.IsKept wider view := by
  cases key with
  | joined versions specs aliases =>
      exact View.IsIssued.mono kept grows
  | filtered version text caseSensitive =>
      cases view with
      | table snapshot =>
          exact Ledger.Derives.mono kept grows
      | pivot result =>
          trivial
  | arranged version search caseSensitive sortBy direction =>
      cases view with
      | table snapshot =>
          exact Ledger.Derives.mono kept grows
      | pivot result =>
          trivial
  | pivot version config =>
      exact View.IsIssued.mono kept grows

namespace Workspace.IsRecorded

variable {settings : Settings} {ledger wider : Ledger} {workspace : Workspace}

theorem mono
    (recorded : workspace.IsRecorded settings ledger)
    (grows : ledger ⊆ wider) :
    workspace.IsRecorded settings wider :=
  ⟨fun found => grows (recorded.tables found),
    fun member => (recorded.cache member).mono grows,
    fun remembered => (recorded.memo remembered).mono grows⟩

/-- A workspace with other parts, but the same tables and memory, is recorded too. -/
theorem of_same
    (recorded : workspace.IsRecorded settings ledger)
    {other : Workspace}
    (sameTables : other.tables = workspace.tables)
    (sameCache : other.cache = workspace.cache)
    (sameMemo : other.memo = workspace.memo) :
    other.IsRecorded settings ledger :=
  ⟨fun found => recorded.tables (sameTables ▸ found),
    fun member => recorded.cache (sameCache ▸ member),
    fun remembered => recorded.memo (sameMemo ▸ remembered)⟩

theorem new
    (id : String)
    (filter : FilterNode) :
    (Workspace.new settings id filter).IsRecorded settings ledger :=
  ⟨fun found => absurd found nofun, fun member => absurd member List.not_mem_nil,
    fun remembered => absurd remembered nofun⟩

end Workspace.IsRecorded

/-- A new snapshot is issued with the next version. -/
theorem Session.IsRecorded.issue
    {settings : Settings}
    {ledger : Ledger}
    {session : Session}
    (recorded : session.IsRecorded settings ledger)
    (issued : Snapshot)
    (version_eq : issued.version = session.supply.snapshots)
    (origin_le : issued.origin ≤ session.supply.snapshots)
    (describedAlike : ∀ other ∈ ledger, issued.origin = other.origin →
      issued.table.typeSource = other.table.typeSource ∧
        issued.table.kindSource = other.table.kindSource) :
    Session.IsRecorded settings (Set.insert issued ledger)
      { session with
        supply :=
          { session.supply with
            snapshots := session.supply.snapshots + 1 } } where
  consistent := recorded.consistent.insert version_eq origin_le describedAlike
  workspace := recorded.workspace.mono (Set.subset_insert issued ledger)

namespace Action

variable {α β : Type}

/--
Wherever at least the ledger has been issued, the action leaves a session that is recorded, and what
it answers is good for the ledger afterwards.
-/
def Records (settings : Settings) (ledger : Ledger) (action : Action α)
    (good : Ledger → α → Prop) : Prop :=
  ∀ wider : Ledger, ledger ⊆ wider →
    ∀ session : Session, session.IsRecorded settings wider →
      ∃ final : Ledger, wider ⊆ final ∧
        (action.perform session).2.IsRecorded settings final ∧
        ∀ value, (action.perform session).1 = .ok value → good final value

/-- Any answer is good. -/
def Anything (_ : Ledger) (_ : α) : Prop :=
  True

/-- The answer is a snapshot that has been issued. -/
def IssuedOne (ledger : Ledger) (snapshot : Snapshot) : Prop :=
  snapshot ∈ ledger

namespace Records

variable {settings : Settings} {ledger : Ledger} {good : Ledger → α → Prop}

/-! ## Chains -/

/-- A chain records rightly when its links do. -/
theorem bind
    {first : Action α}
    {next : α → Action β}
    {goodToo : Ledger → β → Prop}
    (firstRecords : first.Records settings ledger good)
    (nextRecords : ∀ wider, ledger ⊆ wider → ∀ value, good wider value →
      (next value).Records settings wider goodToo) :
    (first >>= next).Records settings ledger goodToo := by
  intro wider grows session recorded
  obtain ⟨middle, growsOn, recordedAfter, isGood⟩ := firstRecords wider grows session recorded
  rcases performed : first.perform session with ⟨fault | value, after⟩
  · rw [perform_bind_of_error performed]
    rw [performed] at recordedAfter
    exact ⟨middle, growsOn, recordedAfter, nofun⟩
  · rw [perform_bind_of_ok performed]
    rw [performed] at recordedAfter isGood
    obtain ⟨final, growsFurther, recordedFinally, isGoodToo⟩ :=
      nextRecords middle (grows.trans growsOn) value (isGood value rfl) middle subset_rfl after
        recordedAfter
    exact ⟨final, growsOn.trans growsFurther, recordedFinally, isGoodToo⟩

/-- A good answer may be given. -/
theorem pure
    {value : α}
    (isGood : ∀ wider, ledger ⊆ wider → good wider value) :
    (Pure.pure value : Action α).Records settings ledger good := by
  intro wider grows session recorded
  refine ⟨wider, subset_rfl, recorded, ?_⟩
  rintro _ ⟨⟩
  exact isGood wider grows

theorem throw
    (fault : Fault) :
    (MonadExcept.throw fault : Action α).Records settings ledger good :=
  fun wider _ _ recorded => ⟨wider, subset_rfl, recorded, nofun⟩

/-- Images of good answers are good when they are good for every ledger. -/
theorem mapValue
    {image : α → β}
    {goodToo : Ledger → β → Prop}
    {action : Action α}
    (records : action.Records settings ledger good)
    (imageGood : ∀ wider, ledger ⊆ wider → ∀ value, good wider value →
      goodToo wider (image value)) :
    (image <$> action).Records settings ledger goodToo := by
  intro wider grows session recorded
  obtain ⟨final, growsOn, recordedAfter, isGood⟩ := records wider grows session recorded
  rw [perform_map]
  refine ⟨final, growsOn, recordedAfter, fun value answered => ?_⟩
  rcases performed : (action.perform session).1 with fault | found
  · rw [performed] at answered
    exact absurd answered nofun
  · rw [performed] at answered
    cases answered
    exact imageGood final (grows.trans growsOn) found (isGood found performed)

theorem anything
    {action : Action α}
    (records : action.Records settings ledger good) :
    action.Records settings ledger Anything := by
  intro wider grows session recorded
  obtain ⟨final, growsOn, recordedAfter, _⟩ := records wider grows session recorded
  exact ⟨final, growsOn, recordedAfter, fun _ _ => trivial⟩

theorem imp
    {action : Action α}
    {goodToo : Ledger → α → Prop}
    (records : action.Records settings ledger good)
    (weakens : ∀ wider, ledger ⊆ wider → ∀ value, good wider value → goodToo wider value) :
    action.Records settings ledger goodToo := by
  intro wider grows session recorded
  obtain ⟨final, growsOn, recordedAfter, isGood⟩ := records wider grows session recorded
  exact
    ⟨final, growsOn, recordedAfter, fun value answered =>
      weakens final (grows.trans growsOn) value (isGood value answered)⟩

/-- The image of an answer may be anything. -/
theorem image
    {action : Action α}
    (records : action.Records settings ledger good)
    (image : α → β) :
    (image <$> action).Records settings ledger Anything :=
  records.mapValue fun _ _ _ _ => trivial

/-- A chain of links whose answers do not matter. -/
theorem followedBy
    {first : Action α}
    {next : α → Action β}
    {goodToo : Ledger → β → Prop}
    (firstRecords : first.Records settings ledger Anything)
    (nextRecords : ∀ wider, ledger ⊆ wider → ∀ value, (next value).Records settings wider goodToo) :
    (first >>= next).Records settings ledger goodToo :=
  firstRecords.bind fun wider grows value _ => nextRecords wider grows value

/-- The last answer may be anything. -/
theorem answer
    (value : α) :
    (Pure.pure value : Action α).Records settings ledger Anything :=
  pure fun _ _ => trivial

theorem workspace :
    Action.workspace.Records settings ledger
      fun wider workspace => workspace.IsRecorded settings wider := by
  intro wider _ session recorded
  refine ⟨wider, subset_rfl, recorded, ?_⟩
  rintro _ ⟨⟩
  exact recorded.workspace

theorem ofOutcome
    (outcome : Outcome α) :
    (Action.ofOutcome outcome).Records settings ledger fun _ value => outcome = .ok value := by
  intro wider _ session recorded
  rw [perform_ofOutcome]
  exact ⟨wider, subset_rfl, recorded, fun _ answered => answered⟩

theorem ofNaming
    (naming : Naming α) :
    (Action.ofNaming naming).Records settings ledger Anything := by
  intro wider _ session recorded
  rcases drawn : naming.run session.supply.nodes with fault | ⟨value, nodes⟩
  · rw [perform_ofNaming_of_error drawn]
    exact ⟨wider, subset_rfl, recorded, nofun⟩
  · rw [perform_ofNaming_of_ok drawn]
    exact
      ⟨wider, subset_rfl, ⟨recorded.consistent, recorded.workspace⟩, fun _ _ => trivial⟩

/-- A change records rightly when it makes a recorded workspace of a recorded one. -/
theorem modifyWorkspace
    {change : Workspace → Workspace}
    (records : ∀ wider, ledger ⊆ wider → ∀ workspace : Workspace,
      workspace.IsRecorded settings wider → (change workspace).IsRecorded settings wider) :
    (Action.modifyWorkspace change).Records settings ledger Anything :=
  fun wider grows session recorded =>
    ⟨wider, subset_rfl,
      ⟨recorded.consistent, records wider grows session.workspace recorded.workspace⟩,
      fun _ _ => trivial⟩

theorem foldlM
    {step : β → α → Action β}
    (stepRecords : ∀ wider, ledger ⊆ wider → ∀ state element,
      (step state element).Records settings wider Anything)
    (initial : β)
    (elements : List α) :
    (elements.foldlM step initial).Records settings ledger Anything := by
  induction elements generalizing initial ledger with
  | nil =>
      exact answer initial
  | cons element rest inductionHypothesis =>
      rw [List.foldlM_cons]
      exact (stepRecords ledger subset_rfl initial element).followedBy fun wider grows next =>
        inductionHypothesis
          (fun wider' grows' => stepRecords wider' (grows.trans grows')) next

theorem mapM
    {step : α → Action β}
    {elements : List α}
    (stepRecords : ∀ wider, ledger ⊆ wider → ∀ element ∈ elements,
      (step element).Records settings wider Anything) :
    (elements.mapM step).Records settings ledger Anything := by
  induction elements generalizing ledger with
  | nil =>
      exact answer []
  | cons element rest inductionHypothesis =>
      rw [List.mapM_cons]
      refine
        (stepRecords ledger subset_rfl element List.mem_cons_self).followedBy
          fun wider grows value => ?_
      refine
        (inductionHypothesis fun wider' grows' other member =>
            stepRecords wider' (grows.trans grows') other
              (List.mem_cons_of_mem element member)).followedBy
          fun _ _ values => answer _

/-! ## New snapshots -/

theorem newSnapshot
    (table : Table) :
    (Action.newSnapshot table).Records settings ledger IssuedOne := by
  intro wider _ session recorded
  have issued :=
    recorded.issue ⟨session.supply.snapshots, session.supply.snapshots, table⟩ rfl le_rfl (by
      intro other isIssued sameOrigin
      have below := recorded.consistent.origin_lt other isIssued
      dsimp only at sameOrigin
      omega)
  refine ⟨_, Set.subset_insert _ _, issued, ?_⟩
  rintro _ ⟨⟩
  exact Set.mem_insert _ _

/-- A derived snapshot shows its table, which is described as the one it comes from. -/
theorem derivedSnapshot
    {source : Snapshot}
    (sourceIssued : source ∈ ledger)
    {table : Table}
    (sameTypes : table.typeSource = source.table.typeSource)
    (sameKinds : table.kindSource = source.table.kindSource) :
    (Action.derivedSnapshot source table).Records settings ledger fun wider derived =>
      wider.Shows derived table := by
  intro wider grows session recorded
  have issued :=
    recorded.issue ⟨session.supply.snapshots, source.origin, table⟩ rfl
      (recorded.consistent.origin_lt source (grows sourceIssued)).le (by
        intro other isIssued sameOrigin
        exact
          ⟨sameTypes.trans
              (recorded.consistent.typeSource_eq source (grows sourceIssued) other isIssued
                sameOrigin),
            sameKinds.trans
              (recorded.consistent.kindSource_eq source (grows sourceIssued) other isIssued
                sameOrigin)⟩)
  refine ⟨_, Set.subset_insert _ _, issued, ?_⟩
  rintro _ ⟨⟩
  exact ⟨Set.mem_insert _ _, rfl⟩

/-! ## The memo -/

/-- What is computed may be remembered when it is right as far as it is about columns. -/
theorem remembered
    {key : MemoKey}
    {compute : Action key.Value}
    (records : compute.Records settings ledger fun wider value =>
      key.IsKnown settings wider value) :
    (Action.remembered key compute).Records settings ledger fun wider value =>
      key.IsKnown settings wider value := by
  refine workspace.bind fun wider grows current currentRecorded => ?_
  split
  · next value known =>
      exact pure fun _ growsOn => (currentRecorded.memo known).mono growsOn
  · have recordsWider : compute.Records settings wider fun wider value =>
        key.IsKnown settings wider value :=
      fun wider' grows' => records wider' (grows.trans grows')
    refine recordsWider.bind fun final _ value isKnown => ?_
    refine (modifyWorkspace fun further growsOn before recorded => ?_).followedBy
      fun _ growsOn _ => pure fun _ growsFurther =>
        isKnown.mono (growsOn.trans growsFurther)
    refine ⟨recorded.tables, recorded.cache, ?_⟩
    intro asked answer remembers
    by_cases same : key = asked
    · subst same
      simp only [Memo.remember, dite_true] at remembers
      cases remembers
      exact isKnown.mono growsOn
    · simp only [Memo.remember, dif_neg same] at remembers
      exact recorded.memo remembers

theorem types
    {snapshot : Snapshot}
    (issued : snapshot ∈ ledger) :
    (Action.types settings snapshot).Records settings ledger Anything := by
  rw [Action.types]
  split
  · exact answer _
  · refine anything (remembered ?_)
    intro wider grows session recorded
    rw [perform_ofOutcome]
    exact
      ⟨wider, subset_rfl, recorded, fun _ inferred =>
        ⟨snapshot, grows issued, rfl, inferred⟩⟩

theorem smartTypes
    {snapshot : Snapshot}
    (issued : snapshot ∈ ledger) :
    (Action.smartTypes settings snapshot).Records settings ledger Anything := by
  rw [Action.smartTypes]
  split
  · exact answer _
  · refine anything (remembered ?_)
    intro wider grows session recorded
    rw [perform_ofOutcome]
    exact
      ⟨wider, subset_rfl, recorded, fun _ inferred =>
        ⟨snapshot, grows issued, rfl, inferred⟩⟩

/-! ## The cache -/

/-- Views that are as their key asks may be cached, and what is cached is so. -/
theorem cached
    {key : ViewKey}
    {compute : Action View}
    (records : compute.Records settings ledger fun wider view => key.IsKept wider view) :
    (Action.cached key compute).Records settings ledger fun wider view =>
      key.IsKept wider view := by
  refine workspace.bind fun wider grows current currentRecorded => ?_
  split
  · next view found =>
      have isKept :=
        currentRecorded.cache (SnapshotCache.mem_of_find?_eq_some found)
      refine (modifyWorkspace fun further _ before recorded => ?_).followedBy
        fun _ growsOn _ => pure fun _ growsFurther => isKept.mono (growsOn.trans growsFurther)
      exact
        ⟨recorded.tables,
          fun member => recorded.cache (SnapshotCache.mem_of_mem_touch member), recorded.memo⟩
  · have recordsWider : compute.Records settings wider fun wider view => key.IsKept wider view :=
      fun wider' grows' => records wider' (grows.trans grows')
    refine recordsWider.bind fun final _ view isKept => ?_
    refine (modifyWorkspace fun further growsOn before recorded => ?_).followedBy
      fun _ growsOn _ => pure fun _ growsFurther => isKept.mono (growsOn.trans growsFurther)
    refine ⟨recorded.tables, ?_, recorded.memo⟩
    intro asked stored member
    rcases SnapshotCache.eq_or_mem_of_mem_store member with isNew | earlier
    · obtain ⟨rfl, rfl⟩ := Prod.mk.inj isNew
      exact isKept.mono growsOn
    · exact recorded.cache earlier

/-- The answer is a snapshot as the key asks. -/
abbrev KeptOne (key : ViewKey) (ledger : Ledger) (snapshot : Snapshot) : Prop :=
  key.IsKept ledger (.table snapshot)

theorem cachedTable
    {key : ViewKey}
    {compute : Action Snapshot}
    (records : compute.Records settings ledger (KeptOne key)) :
    (Action.cachedTable key compute).Records settings ledger (KeptOne key) := by
  have computesView :
      (View.table <$> compute).Records settings ledger fun wider view => key.IsKept wider view :=
    records.mapValue fun _ _ _ kept => kept
  refine (cached computesView).bind fun wider grows view kept => ?_
  split
  · exact pure fun _ growsOn => kept.mono growsOn
  · exact fun wider' grows' => records wider' (grows.trans grows')

theorem cachedPivot
    (version : Nat)
    (config : PivotConfig)
    {compute : Action PivotResult}
    (records : compute.Records settings ledger Anything) :
    (Action.cachedPivot (.pivot version config) compute).Records settings ledger Anything := by
  have computesView :
      (View.pivot <$> compute).Records settings ledger fun wider view =>
        (ViewKey.pivot version config).IsKept wider view :=
    records.mapValue fun _ _ _ _ => trivial
  refine (cached computesView).anything.followedBy fun wider grows view => ?_
  split
  · exact answer _
  · exact fun wider' grows' => records wider' (grows.trans grows')

end Records

/-- A question is answered as remembered, or computed. -/
theorem perform_remembered
    (key : MemoKey)
    (compute : Action key.Value)
    (session : Session) :
    ((Action.remembered key compute).perform session).1 =
      match session.workspace.memo key with
      | some value => .ok value
      | none => (compute.perform session).1 := by
  rw [Action.remembered, perform_bind_of_ok (perform_workspace session)]
  cases session.workspace.memo key with
  | some value =>
      rfl
  | none =>
      dsimp only
      rw [perform_bind]
      rcases compute.perform session with ⟨fault | value, after⟩ <;> rfl

end Action

namespace Session.IsRecorded

open Tabular.Action

variable {settings : Settings} {ledger : Ledger} {session : Session} {snapshot : Snapshot}

/-- The types of an issued snapshot are those of its table, whether or not they are remembered. -/
theorem perform_types
    (recorded : session.IsRecorded settings ledger)
    (issued : snapshot ∈ ledger) :
    ((Action.types settings snapshot).perform session).1 = snapshot.table.types settings := by
  rw [Action.types]
  split
  · next map isGiven =>
      rw [Table.types, isGiven]
      rfl
  · rw [perform_remembered, perform_ofOutcome]
    split
    · next value known =>
        obtain ⟨other, otherIssued, sameOrigin, computed⟩ := recorded.workspace.memo known
        have same :=
          recorded.consistent.typeSource_eq snapshot issued other otherIssued sameOrigin.symm
        rw [← computed, MemoKey.afresh, Table.types, Table.types, same]
    · rfl

/-- The kinds of an issued snapshot are those of its table, whether or not they are remembered. -/
theorem perform_smartTypes
    (recorded : session.IsRecorded settings ledger)
    (issued : snapshot ∈ ledger) :
    ((Action.smartTypes settings snapshot).perform session).1 =
      snapshot.table.smartTypes settings := by
  rw [Action.smartTypes]
  split
  · next map isGiven =>
      rw [Table.smartTypes, isGiven]
      rfl
  · rw [perform_remembered, perform_ofOutcome]
    split
    · next value known =>
        obtain ⟨other, otherIssued, sameOrigin, computed⟩ := recorded.workspace.memo known
        have same :=
          recorded.consistent.kindSource_eq snapshot issued other otherIssued sameOrigin.symm
        rw [← computed, MemoKey.afresh, Table.smartTypes, Table.smartTypes, same]
    · rfl

end Session.IsRecorded

/-- The types that an issued snapshot is found to have are those of its table. -/
theorem Action.Records.types_eq
    {settings : Settings}
    {ledger : Ledger}
    {snapshot : Snapshot}
    (issued : snapshot ∈ ledger) :
    (Action.types settings snapshot).Records settings ledger fun _ types =>
      snapshot.table.types settings = .ok types := by
  intro wider grows session recorded
  obtain ⟨final, growsOn, recordedAfter, -⟩ :=
    Action.Records.types issued wider grows session recorded
  refine ⟨final, growsOn, recordedAfter, fun types answered => ?_⟩
  exact (recorded.perform_types (grows issued)).symm.trans answered

end Tabular
