import Tabular.Proofs.Workspace.Atomicity
import Tabular.Proofs.Workspace.RecordedOperations
import Tabular.Proofs.Workspace.Refinement

namespace Tabular

/-!
# Views show parts of the current view

The filtered view of a workspace is a part of its current view, and an unsorted arrangement a part
of the filtered view. A sort only changes the order of the rows. This holds for all filters, whether
or not the views have been cached: a view is found under the version of the snapshot that it is made
of, and a version tells its snapshot. Columns stay described as those of the current view, and the
totals of a search are those of its rows before they are sorted.
-/

/-! ## Arranged tables -/

namespace Workspace.Arrangement

variable {arrangement : Arrangement} {table arranged : Table}

/-- The arrangement without a column to sort by. -/
def unsorted (arrangement : Arrangement) : Arrangement :=
  { arrangement with sortBy := none }

theorem apply_of_sortColumn_eq_none
    (noColumn : arrangement.sortColumn = none)
    (table : Table) :
    arrangement.apply table =
      .ok (searchRows arrangement.caseSensitive arrangement.search table) := by
  rw [apply, noColumn]
  rfl

/-- What is arranged are the rows that are found, in some order. -/
theorem isOrderOf_of_apply
    (applied : arrangement.apply table = .ok arranged) :
    arranged.IsOrderOf (searchRows arrangement.caseSensitive arrangement.search table) := by
  rw [apply] at applied
  split at applied
  · obtain ⟨direction, -, sorted⟩ := Outcome.bind_eq_ok_iff.mp applied
    exact isOrderOf_of_sortRows sorted
  · cases applied
    exact ⟨.refl _, rfl⟩

end Workspace.Arrangement

/-! ## Actions that always answer -/

namespace Action.Sure

variable {α β : Type}

theorem map
    {action : Action α}
    (sure : action.Sure)
    (image : α → β) :
    (image <$> action).Sure := by
  intro session
  obtain ⟨value, answered⟩ := sure session
  refine ⟨image value, ?_⟩
  rw [perform_map, answered]
  rfl

theorem workspace :
    Action.workspace.Sure :=
  fun session => ⟨session.workspace, rfl⟩

theorem cachedTable
    (key : ViewKey)
    {compute : Action Snapshot}
    (sure : compute.Sure) :
    (Action.cachedTable key compute).Sure := by
  have cachedSure : (Action.cached key (View.table <$> compute)).Sure := by
    refine workspace.bind fun current => ?_
    split
    · exact (modifyWorkspace _).bind fun _ => .pure _
    · exact (sure.map _).bind fun _ => (modifyWorkspace _).bind fun _ => .pure _
  refine cachedSure.bind fun view => ?_
  split
  · exact .pure _
  · exact sure

end Action.Sure

/-! ## Views of recorded sessions -/

/-- The table that a session shows when it is asked for a snapshot. -/
def Session.shown (settings : Settings) (session : Session) (look : Look) : Outcome Table :=
  ((look.action settings).perform session).1.map Snapshot.table

namespace Session.IsRecorded

open Tabular.Action Workspace

variable {settings : Settings} {ledger : Ledger} {session : Session}

/-- What is derived from the version of an issued snapshot is made of its table. -/
theorem makes_of_derives
    (recorded : session.IsRecorded settings ledger)
    {snapshot made : Snapshot}
    (issued : snapshot ∈ ledger)
    {makes : Table → Table → Prop}
    (derives : ledger.Derives snapshot.version makes made) :
    makes snapshot.table made.table := by
  obtain ⟨source, sourceIssued, sameVersion, isMade⟩ := derives.source
  rwa [recorded.consistent.eq_of_version source sourceIssued snapshot issued sameVersion] at isMade

theorem exists_currentView_of_filteredView
    (recorded : session.IsRecorded settings ledger)
    {part : Snapshot}
    {after : Session}
    (performed : (filteredView settings).perform session = (.ok part, after)) :
    ∃ view middle, (currentView settings).perform session = (.ok view, middle) ∧
      part.table.IsPartOf view.table := by
  obtain ⟨view, middle, looked, performed⟩ := exists_of_perform_bind_eq_ok performed
  obtain ⟨wider, grows, recordedMiddle, issued⟩ :=
    records_currentView ledger subset_rfl session recorded
  rw [looked] at recordedMiddle issued
  have viewIssued := issued view rfl
  rw [perform_bind_of_ok (perform_workspace middle)] at performed
  obtain ⟨final, growsOn, recordedAfter, derives⟩ :=
    records_cached_filterSnapshot middle.workspace.filter.toJson.written
      middle.workspace.caseSensitive middle.workspace.filter viewIssued wider subset_rfl middle
      recordedMiddle
  rw [performed] at recordedAfter derives
  exact
    ⟨view, middle, looked, recordedAfter.makes_of_derives (growsOn viewIssued) (derives part rfl)⟩

theorem exists_filteredView_of_dataView
    (recorded : session.IsRecorded settings ledger)
    {arrangement : Arrangement}
    {arranged : Snapshot}
    {after : Session}
    (performed : (dataView settings arrangement).perform session = (.ok arranged, after)) :
    ∃ view middle, (filteredView settings).perform session = (.ok view, middle) ∧
      arrangement.apply view.table = .ok arranged.table := by
  obtain ⟨view, middle, looked, performed⟩ := exists_of_perform_bind_eq_ok performed
  obtain ⟨wider, grows, recordedMiddle, issued⟩ :=
    records_filteredView ledger subset_rfl session recorded
  rw [looked] at recordedMiddle issued
  have viewIssued := issued view rfl
  obtain ⟨final, growsOn, recordedAfter, derives⟩ :=
    records_cached_arrangeSnapshot arrangement viewIssued wider subset_rfl middle recordedMiddle
  rw [performed] at recordedAfter derives
  exact
    ⟨view, middle, looked, recordedAfter.makes_of_derives (growsOn viewIssued)
      (derives arranged rfl)⟩

end Session.IsRecorded

/-- Without a column to sort by, the filtered view can be arranged. -/
theorem Workspace.exists_dataView_of_filteredView
    {settings : Settings}
    {session middle : Session}
    {view : Snapshot}
    (looked : (filteredView settings).perform session = (.ok view, middle))
    {arrangement : Arrangement}
    (noColumn : arrangement.sortColumn = none) :
    ∃ arranged, ((dataView settings arrangement).perform session).1 = .ok arranged := by
  have sure : (arrangeSnapshot arrangement view).Sure := by
    rw [arrangeSnapshot, arrangement.apply_of_sortColumn_eq_none noColumn]
    split
    · exact .pure _
    · exact fun session => ⟨_, rfl⟩
  rw [dataView, Action.perform_bind_of_ok looked]
  exact sure.cachedTable (arrangement.key view.version) middle

/-! ## Descriptions and totals -/

namespace Session.IsRecorded

open Tabular.Action Workspace

variable {settings : Settings} {ledger : Ledger} {session : Session}

/-- The totals of an issued snapshot are those of its table, whether or not they are remembered. -/
theorem perform_columnSums
    (recorded : session.IsRecorded settings ledger)
    {snapshot : Snapshot}
    (issued : snapshot ∈ ledger) :
    ((Action.remembered (.columnSums snapshot.version) do
        Action.ofOutcome
          (snapshot.table.columnSumsFor (← Action.types settings snapshot))).perform session).1 =
      snapshot.table.columnSums settings := by
  rw [perform_remembered]
  split
  · next sums known =>
      obtain ⟨other, otherIssued, sameVersion, computed⟩ := recorded.workspace.memo known
      rw [← computed, MemoKey.afresh,
        recorded.consistent.eq_of_version other otherIssued snapshot issued sameVersion]
  · have areTypes := recorded.perform_types issued
    rw [perform_bind, Table.columnSums, ← areTypes]
    rcases (Action.types settings snapshot).perform session with ⟨fault | types, after⟩
    · rfl
    · exact congrArg Prod.fst (perform_ofOutcome _ after)

/-- The totals of a search are those of the rows that it finds, unsorted. -/
theorem answer_columnSums
    (recorded : session.IsRecorded settings ledger)
    (search : String)
    (caseSensitive : Bool) :
    session.answer settings (.read (.columnSums search caseSensitive)) =
      .sums <$>
        (session.shown settings (.dataView { search, caseSensitive }) >>=
          Table.columnSums settings) := by
  obtain ⟨final, -, recordedAfter, issued⟩ :=
    records_dataView { search, caseSensitive } ledger subset_rfl session recorded
  rw [Session.answer, Operation.action, Read.action, perform_map, columnSums, perform_bind,
    Session.shown, Look.action]
  rcases performed : (dataView settings { search, caseSensitive }).perform session with
    ⟨fault | view, after⟩
  · rfl
  · rw [performed] at recordedAfter issued
    dsimp only
    rw [recordedAfter.perform_columnSums (issued view rfl)]
    rfl

/-- The types and the kinds of a snapshot that is shown are those of its table. -/
theorem answer_types_and_kinds
    (recorded : session.IsRecorded settings ledger)
    {look : Look}
    {table : Table}
    (isShown : session.shown settings look = .ok table) :
    session.answer settings (.read (.types look)) = .types <$> table.types settings ∧
      session.answer settings (.read (.kinds look)) = .kinds <$> table.smartTypes settings := by
  obtain ⟨final, -, recordedAfter, issued⟩ :=
    look.records_action ledger subset_rfl session recorded
  rw [Session.shown] at isShown
  rcases performed : (look.action settings).perform session with ⟨fault | snapshot, after⟩
  · rw [performed] at isShown
    exact absurd isShown nofun
  · rw [performed] at isShown recordedAfter issued
    cases isShown
    have snapshotIssued := issued snapshot rfl
    constructor
    · rw [Session.answer, Operation.action, Read.action, perform_map, perform_bind_of_ok performed,
        recordedAfter.perform_types snapshotIssued]
      rfl
    · rw [Session.answer, Operation.action, Read.action, perform_map, perform_bind_of_ok performed,
        recordedAfter.perform_smartTypes snapshotIssued]
      rfl

end Session.IsRecorded

/-! ## What a session shows -/

namespace Session

/-- Two snapshots that a session can be asked for are described by the same types and kinds. -/
structure DescribesAlike (settings : Settings) (session : Session) (look other : Look) : Prop where
  types : session.answer settings (.read (.types look)) =
    session.answer settings (.read (.types other))
  kinds : session.answer settings (.read (.kinds look)) =
    session.answer settings (.read (.kinds other))

/-- What the views of a session have of each other. -/
structure ShowsParts (settings : Settings) (session : Session) : Prop where
  /-- The filtered view is a part of the current view, and described alike. -/
  filtered : ∀ table, session.shown settings .filteredView = .ok table →
    ∃ current, session.shown settings .currentView = .ok current ∧ table.IsPartOf current ∧
      session.DescribesAlike settings .filteredView .currentView
  /-- An arrangement without a sort is a part of the filtered view. -/
  found : ∀ arrangement : Workspace.Arrangement, arrangement.sortColumn = none →
    ∀ table, session.shown settings (.dataView arrangement) = .ok table →
      ∃ filtered, session.shown settings .filteredView = .ok filtered ∧ table.IsPartOf filtered
  /-- A sort only orders the rows that the arrangement has without it. -/
  ordered : ∀ (arrangement : Workspace.Arrangement) (table : Table),
    session.shown settings (.dataView arrangement) = .ok table →
      ∃ unsorted, session.shown settings (.dataView arrangement.unsorted) = .ok unsorted ∧
        table.IsOrderOf unsorted
  /-- Every arrangement has the columns of the current view, and is described alike. -/
  arranged : ∀ (arrangement : Workspace.Arrangement) (table : Table),
    session.shown settings (.dataView arrangement) = .ok table →
      ∃ current, session.shown settings .currentView = .ok current ∧
        table.columns = current.columns ∧
          session.DescribesAlike settings (.dataView arrangement) .currentView
  /-- The totals of a search are those of the rows that it finds, however they are sorted. -/
  sums : ∀ arrangement : Workspace.Arrangement,
    session.answer settings (.read (.columnSums arrangement.search arrangement.caseSensitive)) =
      .sums <$>
        (session.shown settings (.dataView arrangement.unsorted) >>= Table.columnSums settings)

open Tabular.Action Workspace

variable {settings : Settings} {ledger : Ledger} {session : Session}

theorem shown_eq_ok_iff
    {look : Look}
    {table : Table} :
    session.shown settings look = .ok table ↔
      ∃ snapshot after, (look.action settings).perform session = (.ok snapshot, after) ∧
        snapshot.table = table := by
  rw [shown]
  rcases (look.action settings).perform session with ⟨fault | snapshot, after⟩
  · exact iff_of_false nofun nofun
  · constructor
    · intro isShown
      exact ⟨snapshot, after, rfl, Except.ok.inj isShown⟩
    · rintro ⟨_, _, ⟨⟩, isTable⟩
      exact congrArg Except.ok isTable

namespace IsRecorded

/-- Without a sort the rows of the filtered view are shown that are found. -/
theorem shown_dataView_of_sortColumn_eq_none
    (recorded : session.IsRecorded settings ledger)
    {arrangement : Arrangement}
    (noColumn : arrangement.sortColumn = none) :
    session.shown settings (.dataView arrangement) =
      (session.shown settings .filteredView).map
        (searchRows arrangement.caseSensitive arrangement.search) := by
  rcases looked : (filteredView settings).perform session with ⟨fault | view, middle⟩
  · rw [shown, shown, Look.action, Look.action, dataView, perform_bind_of_error looked, looked]
    rfl
  · obtain ⟨arranged, answered⟩ := exists_dataView_of_filteredView looked noColumn
    rcases performed : (dataView settings arrangement).perform session with ⟨outcome, after⟩
    rw [performed] at answered
    change outcome = .ok arranged at answered
    subst answered
    obtain ⟨_, _, sameLook, applied⟩ := recorded.exists_filteredView_of_dataView performed
    cases looked.symm.trans sameLook
    rw [arrangement.apply_of_sortColumn_eq_none noColumn] at applied
    rw [shown, shown, Look.action, Look.action, performed, looked]
    exact applied.symm

/-- The filtered view is a part of the current view, and described alike. -/
theorem isPartOf_of_filteredView
    (recorded : session.IsRecorded settings ledger)
    {table : Table}
    (isShown : session.shown settings .filteredView = .ok table) :
    ∃ current, session.shown settings .currentView = .ok current ∧ table.IsPartOf current := by
  obtain ⟨part, after, performed, rfl⟩ := shown_eq_ok_iff.mp isShown
  obtain ⟨view, middle, looked, isPart⟩ := recorded.exists_currentView_of_filteredView performed
  exact ⟨view.table, shown_eq_ok_iff.mpr ⟨view, middle, looked, rfl⟩, isPart⟩

/-- A session that shows tables made of each other describes them alike. -/
theorem describesAlike
    (recorded : session.IsRecorded settings ledger)
    {look other : Look}
    {table whole : Table}
    (isShown : session.shown settings look = .ok table)
    (otherIsShown : session.shown settings other = .ok whole)
    {rows : List Row}
    (isDerived : table = whole.derive rows) :
    session.DescribesAlike settings look other := by
  obtain ⟨types, kinds⟩ := recorded.answer_types_and_kinds isShown
  obtain ⟨otherTypes, otherKinds⟩ := recorded.answer_types_and_kinds otherIsShown
  constructor
  · rw [types, otherTypes, Table.types_eq_of_eq_derive isDerived]
  · rw [kinds, otherKinds, Table.smartTypes_eq_of_eq_derive isDerived]

/-- What is arranged are the rows that are found in the filtered view, in some order. -/
theorem isOrderOf_of_dataView
    (recorded : session.IsRecorded settings ledger)
    {arrangement : Arrangement}
    {table : Table}
    (isShown : session.shown settings (.dataView arrangement) = .ok table) :
    ∃ filtered, session.shown settings .filteredView = .ok filtered ∧
      table.IsOrderOf (searchRows arrangement.caseSensitive arrangement.search filtered) := by
  obtain ⟨arranged, after, performed, rfl⟩ := shown_eq_ok_iff.mp isShown
  obtain ⟨view, middle, looked, applied⟩ := recorded.exists_filteredView_of_dataView performed
  exact
    ⟨view.table, shown_eq_ok_iff.mpr ⟨view, middle, looked, rfl⟩,
      arrangement.isOrderOf_of_apply applied⟩

/-- A recorded session shows parts of its current view. -/
theorem showsParts
    (recorded : session.IsRecorded settings ledger) :
    session.ShowsParts settings where
  filtered := by
    intro table isShown
    obtain ⟨current, currentIsShown, isPart⟩ := recorded.isPartOf_of_filteredView isShown
    exact
      ⟨current, currentIsShown, isPart,
        recorded.describesAlike isShown currentIsShown isPart.eq_derive⟩
  found := by
    intro arrangement noColumn table isShown
    rw [recorded.shown_dataView_of_sortColumn_eq_none noColumn] at isShown
    cases filteredIs : session.shown settings .filteredView with
    | error fault =>
        rw [filteredIs] at isShown
        exact absurd isShown nofun
    | ok filtered =>
        rw [filteredIs] at isShown
        cases isShown
        exact ⟨filtered, rfl, isPartOf_searchRows _ _ filtered⟩
  ordered := by
    intro arrangement table isShown
    obtain ⟨filtered, filteredIsShown, isOrder⟩ := recorded.isOrderOf_of_dataView isShown
    have noColumn : arrangement.unsorted.sortColumn = none := rfl
    refine ⟨_, ?_, isOrder⟩
    rw [recorded.shown_dataView_of_sortColumn_eq_none noColumn, filteredIsShown]
    rfl
  arranged := by
    intro arrangement table isShown
    obtain ⟨filtered, filteredIsShown, isOrder⟩ := recorded.isOrderOf_of_dataView isShown
    obtain ⟨current, currentIsShown, isPart⟩ := recorded.isPartOf_of_filteredView filteredIsShown
    have isFound := (isPartOf_searchRows arrangement.caseSensitive arrangement.search
      filtered).trans isPart
    have isDerived : table = current.derive table.rows := by
      rw [isOrder.eq_derive, isFound.eq_derive]
      rfl
    exact
      ⟨current, currentIsShown, Table.columns_eq_of_eq_derive isDerived,
        recorded.describesAlike isShown currentIsShown isDerived⟩
  sums := by
    intro arrangement
    have noColumn : arrangement.unsorted.sortColumn = none := rfl
    have defaultNoColumn :
        ({ search := arrangement.search
           caseSensitive := arrangement.caseSensitive } : Arrangement).sortColumn = none := rfl
    rw [recorded.answer_columnSums, recorded.shown_dataView_of_sortColumn_eq_none noColumn,
      recorded.shown_dataView_of_sortColumn_eq_none defaultNoColumn]
    rfl

end IsRecorded

/-- The session with another filter. -/
def filteringBy (session : Session) (filter : FilterNode) (caseSensitive : Bool) : Session :=
  { session with workspace := { session.workspace with filter, caseSensitive } }

end Session

/-- Reads in between make no difference to what a sound session answers to a read. -/
theorem Session.answer_after_reads
    {settings : Settings}
    {ledger : Ledger}
    {session : Session}
    (sound : session.Sound settings ledger)
    (reads : List Read)
    (read : Read) :
    (session.after settings (reads.map .read)).answer settings (.read read) =
      session.answer settings (.read read) := by
  have isPlain (read : Read) : (Operation.read read).IsPlain :=
    trivial
  have arePlain : ∀ operation ∈ reads.map Operation.read, operation.IsPlain :=
    List.forall_mem_map.mpr fun read _ => isPlain read
  have noEdits : (reads.map Operation.read).filter Operation.isEdit = [] :=
    List.filter_eq_nil_iff.mpr (List.forall_mem_map.mpr fun _ _ => nofun)
  obtain ⟨⟨final, soundAfter⟩, sameHoldings⟩ := Session.holdings_after sound arePlain
  rw [← Holdings.after_filter_isEdit, noEdits] at sameHoldings
  rw [answer_eq_effect soundAfter (isPlain read), sameHoldings,
    answer_eq_effect sound (isPlain read)]
  rfl

/--
After any operations on a new workspace, and for any filter, the filtered view has some of the rows
of the current view, and what a search finds some of the rows of the filtered view, both in their
order. A sort changes nothing but the order of these rows. All of them have the columns, the types
and the kinds of the current view. The totals of a search are those of its rows as they are without
a sort; and unless dates and moments stand in filters, nothing that is asked for in between, as a
sorted view, makes a difference to them.
-/
theorem views_show_parts
    (settings : Settings)
    (supply : Supply)
    (operations : List Operation)
    (filter : FilterNode)
    (caseSensitive : Bool) :
    let session :=
      ((Session.start settings supply).after settings operations).filteringBy filter caseSensitive
    session.ShowsParts settings ∧
      ((∀ operation ∈ operations, operation.IsPlain) → filter.IsPlain →
        ∀ (reads : List Read) (search : String) (caseSensitive : Bool),
          (session.after settings (reads.map .read)).answer settings
              (.read (.columnSums search caseSensitive)) =
            session.answer settings (.read (.columnSums search caseSensitive))) := by
  intro session
  obtain ⟨ledger, recorded⟩ :=
    Session.exists_isRecorded_after (Session.isRecorded_start settings supply) operations
  have recordedNow : session.IsRecorded settings ledger :=
    ⟨recorded.consistent, recorded.workspace.of_same rfl rfl rfl⟩
  refine ⟨recordedNow.showsParts, fun arePlain filterIsPlain reads search caseSensitive => ?_⟩
  obtain ⟨⟨plainLedger, sound⟩, -⟩ :=
    Session.holdings_after (Session.sound_startWithin settings.cacheMaxEntries settings supply)
      arePlain
  have soundNow : session.Sound settings plainLedger :=
    ⟨sound.consistent, ⟨sound.held.tables, filterIsPlain⟩,
      ⟨sound.remembers.cache, sound.remembers.memo⟩⟩
  exact Session.answer_after_reads soundNow reads _

namespace Session.Sample

/-- A run that loads a table with amounts. -/
def amountsLoaded : List Operation :=
  [.edit
    (.loadTable "sales"
      [.ofList [("amount", .int 7)], .ofList [("amount", .int 5)], .ofList [("amount", .int 50)]])]

/-- The filter that keeps amounts above six. -/
def aboveSix : FilterNode :=
  .group "root" .all
    [.condition { id := "leaf", field := some "amount", operator := some ">", value := .int 6 }]

/-- The amounts sorted from the largest on. -/
def largestFirst : Workspace.Arrangement where
  sortBy := some "amount"
  direction := .text "desc"

/-- Of three amounts the filter keeps two, and a sort shows these two in some order. -/
theorem views_of_amountsLoaded :
    let session :=
      ((Session.start {} {}).after {} amountsLoaded).filteringBy aboveSix false
    (∀ operation ∈ amountsLoaded, operation.IsPlain) ∧ aboveSix.IsPlain ∧
      ∃ table unsorted,
        session.shown {} (.dataView largestFirst) = .ok table ∧
          session.shown {} (.dataView largestFirst.unsorted) =
              .ok unsorted ∧
            unsorted.cells "amount" = [.int 7, .int 50] ∧ table.IsOrderOf unsorted ∧
              (session.after {} [.read (.view (.dataView largestFirst))]).answer {}
                  (.read (.columnSums "" false)) =
                session.answer {} (.read (.columnSums "" false)) := by
  intro session
  have arePlain : ∀ operation ∈ amountsLoaded, operation.IsPlain := by
    decide +kernel
  have filterIsPlain : aboveSix.IsPlain := by
    decide +kernel
  obtain ⟨parts, sumsKept⟩ :=
    views_show_parts {} {} amountsLoaded aboveSix false
  obtain ⟨table, isShown⟩ :
      ∃ table, session.shown {} (.dataView largestFirst) = .ok table :=
    Outcome.fault?_eq_none_iff.mp (by decide +kernel)
  obtain ⟨unsorted, unsortedIsShown, isOrder⟩ := parts.ordered largestFirst table isShown
  have areCells :
      (session.shown {} (.dataView largestFirst.unsorted)).toOption.map
          (fun found => found.cells "amount") =
        some [.int 7, .int 50] := by
    decide +kernel
  rw [unsortedIsShown] at areCells
  exact
    ⟨arePlain, filterIsPlain, table, unsorted, isShown, unsortedIsShown, Option.some.inj areCells,
      isOrder, sumsKept arePlain filterIsPlain [.view (.dataView largestFirst)] "" false⟩

end Session.Sample

end Tabular
