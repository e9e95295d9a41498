import Tabular.Proofs.Change.Numbers
import Tabular.Proofs.Workspace.Change

namespace Tabular

/-!
# Showing what cleaning changes

Cleaning a column and showing what it would change walk the rows separately. What is shown is told
here by the cleaned table: it is what one finds by comparing the two tables row by row, up to where
the preview stops. Cells are compared by value, so a number or a missing number that becomes its
text is a change, and an empty cell never is one.
-/

/-- What a change of rows does to a column at one place, if the cells there differ by value. -/
def changeAt? (column : String) (before after : List Row) (place : Nat) :
    Option CleaningChange := do
  let old ← before[place]?
  let new ← after[place]?
  if (new.cell column).sameValue (old.cell column) then none
  else some { rowIndex := place, before := old.cell column, after := new.cell column }

/-- The first changes of a column, among as many rows as are looked at. -/
def firstChanges (column : String) (sample limit : Nat) (before after : List Row) :
    List CleaningChange :=
  ((List.range sample).filterMap (changeAt? column before after)).take limit

namespace CleaningOperation

variable (operation : CleaningOperation)

/-- A cleaned cell is the same value as the old one only if it is the old one. -/
theorem sameValue_applyToCell
    (cell : Cell) :
    (operation.applyToCell cell).sameValue cell = decide (operation.applyToCell cell = cell) := by
  cases cell with
  | null =>
      rfl
  | text value =>
      simp [applyToCell, Cell.sameValue, Bool.beq_eq_decide_eq]
  | bool value | int value | float value | date value | moment value =>
      simp [applyToCell, Cell.sameValue, Cell.wholeValue?]

end CleaningOperation

/-- The change of a cell at a place, if cleaning does not leave it. -/
def cellChange? (operation : CleaningOperation) (place : Nat) (before : Cell) :
    Option CleaningChange :=
  if operation.applyToCell before = before then none
  else some { rowIndex := place, before, after := operation.applyToCell before }

/-- Walking the first cells finds their changes, in the order of the places. -/
theorem changesFrom_take
    (operation : CleaningOperation)
    (sample first : Nat)
    (cells : List Cell) :
    changesFrom operation first (cells.take sample) =
      (List.range sample).filterMap fun place =>
        cells[place]?.bind (cellChange? operation (first + place)) := by
  induction sample generalizing first cells with
  | zero =>
      rfl
  | succ sample inductionHypothesis =>
      cases cells with
      | nil =>
          simp [changesFrom]
      | cons cell rest =>
          have later :
              changesFrom operation (first + 1) (rest.take sample) =
                (List.range sample).filterMap fun place =>
                  rest[place]?.bind (cellChange? operation (first + (place + 1))) := by
            rw [inductionHypothesis]
            simp only [Nat.add_assoc, Nat.add_comm 1]
          rw [List.take_succ_cons, changesFrom, later, List.range_succ_eq_map,
            List.filterMap_cons, List.filterMap_map]
          by_cases unchanged : operation.applyToCell cell = cell <;>
            simp [cellChange?, unchanged]

/-- Between a table and the cleaned one, a place has the change of its cell. -/
theorem changeAt?_cleanColumn
    (column : String)
    (operation : CleaningOperation)
    (table : Table)
    (place : Nat) :
    changeAt? column table.rows (cleanColumn column operation table).rows place =
      (table.cells column)[place]?.bind (cellChange? operation place) := by
  have cleanedRow :
      (cleanColumn column operation table).rows[place]? =
        table.rows[place]?.map fun row => row.clean column operation :=
    List.getElem?_map
  rw [changeAt?, cleanedRow, Table.cells, List.getElem?_map]
  cases table.rows[place]? with
  | none =>
      rfl
  | some row =>
      simp [cellChange?, Row.cell_clean, operation.sameValue_applyToCell]

theorem Slice.upTo_natCast
    {α : Type}
    (stop : Nat)
    (elements : List α) :
    upTo (some (stop : Int)) elements = elements.take stop := by
  have isPlace : place elements.length stop = min stop elements.length := by
    rw [place, if_neg (by omega), Int.toNat_natCast]
  rw [upTo, before, isPlace, ← List.take_eq_take_min]

/-- A preview shows the first changes that the cleaned table has. -/
theorem previewCleaning_eq
    (column : String)
    (operation : CleaningOperation)
    (table : Table)
    (sample : Nat)
    {limit : Nat}
    (showsSome : 1 ≤ limit) :
    previewCleaning column operation (some sample) limit table =
      firstChanges column sample limit table.rows (cleanColumn column operation table).rows := by
  have looked :
      (Slice.upTo (some (sample : Int)) table.rows).map (fun row => row.cell column) =
        (table.cells column).take sample := by
    rw [Slice.upTo_natCast, Table.cells, List.map_take]
  rw [previewCleaning, looked, changesFrom_take, firstChanges, Int.toNat_natCast,
    max_eq_left showsSome]
  simp only [changeAt?_cleanColumn, Nat.zero_add]

/-! ## In a workspace -/

section

variable (column : String) (named : Cell) (asked : Option String) (session : Session)

/-- What the preview of a cleaning step answers in a session. -/
def Session.previewed : Outcome (List CleaningChange) :=
  ((Workspace.previewCleaning column named asked).perform session).1

/-- What a cleaning step answers in a session, and the session afterwards. -/
def Session.cleaned : Outcome Snapshot × Session :=
  (Workspace.cleanColumn column named asked).perform session

/--
The preview of a cleaning step tells what the step does: it fails as the step does, with the name of
the operation when that is unknown, and else it shows the first ten changes among the first hundred
rows between the table that is held before the step and the one that is held afterwards.
-/
structure Session.PreviewsCleaning : Prop where
  fails_alike :
    ∀ fault, session.previewed column named asked = .error fault ↔
      (session.cleaned column named asked).1 = .error fault
  unknown_operation :
    (∀ operation : CleaningOperation, named ≠ .text operation.name) →
      ∀ found, ((Workspace.target asked).perform session).1 = .ok found →
        session.previewed column named asked = .error (.config (.cleaningOperation named))
  shows_changes :
    ∀ changes, session.previewed column named asked = .ok changes →
      ∃ name source cleaned after,
        session.workspace.tables.find? name = some source ∧
          session.cleaned column named asked = (.ok cleaned, after) ∧
            after.workspace.tables.find? name = some cleaned ∧
              changes = firstChanges column 100 10 source.table.rows cleaned.table.rows

variable {column named asked session} in
/-- A preview that fails with its step tells all of it, if it names an unknown operation. -/
theorem Session.PreviewsCleaning.of_failing
    {fault : Fault}
    (failing :
      session.previewed column named asked = .error fault ∧
        (session.cleaned column named asked).1 = .error fault)
    (ifUnknown :
      (∀ operation : CleaningOperation, named ≠ .text operation.name) →
        ∀ found, ((Workspace.target asked).perform session).1 = .ok found →
          fault = .config (.cleaningOperation named)) :
    session.PreviewsCleaning column named asked where
  fails_alike other := by
    rw [failing.1, failing.2, Except.error.injEq, Except.error.injEq]
  unknown_operation unknown found isFound := by
    rw [failing.1, ifUnknown unknown found isFound]
  shows_changes changes answered := by
    rw [failing.1] at answered
    cases answered

/-- Only the name of an operation names one. -/
theorem CleaningOperation.ofCell_of_unknown
    {named : Cell}
    (unknown : ∀ operation : CleaningOperation, named ≠ .text operation.name) :
    ofCell named = .error (.config (.cleaningOperation named)) := by
  have notFound : (all.find? fun operation => Cell.text operation.name == named) = none := by
    rw [List.find?_eq_none]
    intro operation _ isNamed
    exact unknown operation (eq_of_beq isNamed).symm
  rw [ofCell, notFound]

variable {named asked session}

/-- A step without a table to work on fails before it looks at the operation. -/
theorem Workspace.fails_of_target
    {fault : Fault}
    {after : Session}
    (failed : (target asked).perform session = (.error fault, after)) :
    session.previewed column named asked = .error fault ∧
      (session.cleaned column named asked).1 = .error fault :=
  ⟨congrArg Prod.fst (Action.perform_bind_of_error failed),
    congrArg Prod.fst (Action.perform_bind_of_error failed)⟩

/-- With a table to work on, an operation that is not known is all that can fail. -/
theorem Workspace.fails_of_ofCell
    {found : String × Snapshot}
    {fault : Fault}
    (targeted : (target asked).perform session = (.ok found, session))
    (failed : CleaningOperation.ofCell named = .error fault) :
    session.previewed column named asked = .error fault ∧
      (session.cleaned column named asked).1 = .error fault := by
  rw [Session.previewed, Session.cleaned, previewCleaning, cleanColumn,
    Action.perform_bind_of_ok targeted, Action.perform_bind_of_ok targeted, failed]
  exact ⟨rfl, rfl⟩

/-- The cleaned table takes the place of the one that the preview looks at. -/
theorem Workspace.answers_of_ofCell
    {name : String}
    {source : Snapshot}
    {operation : CleaningOperation}
    (targeted : (target asked).perform session = (.ok (name, source), session))
    (known : CleaningOperation.ofCell named = .ok operation) :
    session.previewed column named asked =
        .ok (Tabular.previewCleaning column operation (some 100) 10 source.table) ∧
      ∃ cleaned after,
        session.cleaned column named asked = (.ok cleaned, after) ∧
          cleaned.table = Tabular.cleanColumn column operation source.table ∧
            after.workspace.tables.find? name = some cleaned := by
  rw [Session.previewed, Session.cleaned, previewCleaning, cleanColumn,
    Action.perform_bind_of_ok targeted, Action.perform_bind_of_ok targeted, known]
  refine ⟨rfl, _, _, rfl, rfl, ?_⟩
  exact (Assoc.find?_insert _ name name _).trans (if_pos rfl)

end

/-- The preview of a cleaning step tells what the step does, in every session. -/
theorem Session.previewsCleaning
    (column : String)
    (named : Cell)
    (asked : Option String)
    (session : Session) :
    session.PreviewsCleaning column named asked := by
  rcases targeted : (Workspace.target asked).perform session with ⟨fault | ⟨name, source⟩, after⟩
  · refine .of_failing (Workspace.fails_of_target column targeted) fun _ found isFound => ?_
    rw [targeted] at isFound
    cases isFound
  · obtain ⟨rfl, isHeld⟩ := Workspace.find?_of_target targeted
    cases known : CleaningOperation.ofCell named with
    | error fault =>
        refine .of_failing (Workspace.fails_of_ofCell column targeted known) fun unknown _ _ => ?_
        rw [CleaningOperation.ofCell_of_unknown unknown] at known
        exact (Except.error.inj known).symm
    | ok operation =>
        obtain ⟨previewed, cleaned, after, isCleaned, isTable, isHeldAfter⟩ :=
          Workspace.answers_of_ofCell column targeted known
        constructor
        · intro other
          rw [previewed, isCleaned]
          exact iff_of_false nofun nofun
        · intro unknown
          rw [CleaningOperation.ofCell_of_unknown unknown] at known
          cases known
        · intro changes answered
          rw [previewed] at answered
          cases answered
          refine ⟨name, source, cleaned, after, isHeld, isCleaned, isHeldAfter, ?_⟩
          rw [isTable]
          exact previewCleaning_eq column operation source.table 100 (by decide)

/--
A preview of cleaning a column, with any bounds, shows exactly the first changes that the cleaned
table has against the old one in the rows that are looked at. In a workspace the preview of a step
and the step itself fail alike, and the changes shown are those of the table that the step stores.
-/
theorem previews_show_what_cleaning_changes
    (column : String)
    (operation : CleaningOperation)
    (table : Table)
    (sample limit : Nat)
    (showsSome : 1 ≤ limit) :
    previewCleaning column operation (some sample) limit table =
        firstChanges column sample limit table.rows (cleanColumn column operation table).rows ∧
      ∀ (named : Cell) (asked : Option String) (session : Session),
        session.PreviewsCleaning column named asked :=
  ⟨previewCleaning_eq column operation table sample showsSome,
    Session.previewsCleaning column⟩

namespace Table.Sample

/-- Notes with blanks around them or none, among cells that are missing in one way or another. -/
def scribbles : Table :=
  .ofRows (some "scribbles")
    [ .ofList [("note", .text " x ")],
      .ofList [("other", .text " y ")],
      .ofList [("note", .null)],
      .ofList [("note", .float .nan)],
      .ofList [("note", .text "x")],
      .ofList [("note", .int 7)] ]

/-- Trimming changes the first note, and the not-a-number; the number is out of sight. -/
theorem previews_of_scribbles :
    1 ≤ 2 ∧
      previewCleaning "note" .trim (some 5) 2 scribbles =
        [⟨0, .text " x ", .text "x"⟩, ⟨3, .float .nan, .text ""⟩] ∧
      firstChanges "note" 5 2 scribbles.rows (cleanColumn "note" .trim scribbles).rows =
        [⟨0, .text " x ", .text "x"⟩, ⟨3, .float .nan, .text ""⟩] ∧
      ∀ (asked : Option String) (session : Session),
        session.PreviewsCleaning "note" (.text "trim") asked := by
  have showsSome : 1 ≤ 2 := by decide
  have changes :
      firstChanges "note" 5 2 scribbles.rows (cleanColumn "note" .trim scribbles).rows =
        [⟨0, .text " x ", .text "x"⟩, ⟨3, .float .nan, .text ""⟩] := by
    rfl
  obtain ⟨shown, previewsSteps⟩ :=
    previews_show_what_cleaning_changes "note" .trim scribbles 5 2 showsSome
  exact ⟨showsSome, shown.trans changes, changes, previewsSteps (.text "trim")⟩

end Table.Sample

end Tabular
