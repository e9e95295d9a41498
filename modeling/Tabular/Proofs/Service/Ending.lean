import Tabular.Proofs.Service.Reporting
import Tabular.Proofs.Workspace.Change
import Tabular.Proofs.Workspace.Identity

namespace Tabular

/-!
# How operations of the service end

An operation that changes a workspace makes its change first and then reports the workspace. The
change is all or nothing, so there is one way only in which an operation can fail and yet have
changed the workspace: a table that it holds then cannot be described. Everything else that is
reported is at hand once the change has been made.
-/

namespace Workspace

open Tabular.Action

variable {session after : Session}

/-! ## The table that has been changed -/

theorem perform_target
    (asked : Option String)
    (session : Session) :
    (target asked).perform session =
      match asked.filter (fun name => name ≠ "") <|> session.workspace.active with
      | some name =>
          match session.workspace.tables.find? name with
          | some snapshot => (.ok (name, snapshot), session)
          | none => (.error (.tableNotLoaded name), session)
      | none => (.error (.tableNotLoaded ""), session) := by
  rw [target, perform_bind, perform_workspace]
  dsimp only
  rcases asked.filter (fun name => name ≠ "") <|> session.workspace.active with _ | name
  · rfl
  · dsimp only
    rw [perform_bind, getTable, perform_bind, perform_workspace]
    dsimp only
    rcases session.workspace.tables.find? name with _ | snapshot <;> rfl

theorem chosen_of_target
    {asked : Option String}
    {name : String}
    {snapshot : Snapshot}
    (performed : (target asked).perform session = (.ok (name, snapshot), after)) :
    (asked.filter (fun name => name ≠ "") <|> session.workspace.active) = some name := by
  rw [perform_target] at performed
  split at performed
  · next chosen isChosen =>
      split at performed
      · cases performed
        exact isChosen
      · exact absurd (congrArg Prod.fst performed) nofun
  · exact absurd (congrArg Prod.fst performed) nofun

theorem find?_withTable
    (workspace : Workspace)
    (name : String)
    (snapshot : Snapshot) :
    (workspace.withTable name snapshot).tables.find? name = some snapshot := by
  rw [withTable, Assoc.find?_insert, if_pos rfl]

theorem find?_of_loadTable
    {name : String}
    {rows : List Row}
    {snapshot : Snapshot}
    (performed : (loadTable name rows).perform session = (.ok snapshot, after)) :
    after.workspace.tables.find? name = some snapshot := by
  cases performed
  exact find?_withTable _ name _

theorem find?_of_newSnapshot_replaceTable
    {table : Table}
    {name : String}
    {snapshot : Snapshot}
    (performed :
      (do
        let snapshot ← Action.newSnapshot table
        replaceTable name snapshot
        return snapshot : Action Snapshot).perform session = (.ok snapshot, after)) :
    after.workspace.tables.find? name = some snapshot := by
  cases performed
  exact find?_withTable _ name _

theorem find?_of_cleanColumn
    {column : String}
    {operation : Cell}
    {asked : Option String}
    {snapshot : Snapshot}
    (performed : (cleanColumn column operation asked).perform session = (.ok snapshot, after)) :
    ∃ name, after.workspace.tables.find? name = some snapshot := by
  obtain ⟨⟨name, source⟩, targeted, -, answered⟩ := exists_of_perform_bind_eq_ok performed
  obtain ⟨operation, named, -, answered⟩ := exists_of_perform_bind_eq_ok answered
  exact ⟨name, find?_of_newSnapshot_replaceTable answered⟩

theorem find?_of_fillEmpty
    {column : String}
    {value : Cell}
    {asked : Option String}
    {snapshot : Snapshot}
    (performed : (fillEmpty column value asked).perform session = (.ok snapshot, after)) :
    ∃ name, after.workspace.tables.find? name = some snapshot := by
  obtain ⟨⟨name, source⟩, targeted, -, answered⟩ := exists_of_perform_bind_eq_ok performed
  exact ⟨name, find?_of_newSnapshot_replaceTable answered⟩

/-- The table that repeated rows have been removed from is still there. -/
theorem target_of_removeDuplicates
    {asked : Option String}
    {removed : Nat}
    (performed : (removeDuplicates asked).perform session = (.ok removed, after)) :
    ∃ found, (target asked).perform after = (.ok found, after) := by
  obtain ⟨⟨name, source⟩, middle, targeted, answered⟩ := exists_of_perform_bind_eq_ok performed
  have isChosen := chosen_of_target targeted
  obtain ⟨rfl, -⟩ := find?_of_target targeted
  obtain ⟨distinct, middle, isDistinct, answered⟩ := exists_of_perform_bind_eq_ok answered
  obtain ⟨-, sameWorkspace⟩ := table_of_withoutDuplicates isDistinct
  cases answered
  refine ⟨(name, distinct), ?_⟩
  rw [perform_target]
  change _ = _ at sameWorkspace
  rw [← sameWorkspace] at isChosen
  change
    (match asked.filter (fun name => name ≠ "") <|> middle.workspace.active with
    | some _ => _
    | none => _) = _
  rw [isChosen]
  dsimp only
  rw [find?_withTable]

end Workspace

namespace Service

open Tabular.Action Workspace

variable {α : Type} {settings : Settings} {session : Session}

/-! ## Changes and their reports -/

/-- What is done after a change: it succeeds unless a table of the workspace is indescribable. -/
structure Reports (settings : Settings) (session : Session) (action : Action Response) : Prop where
  sameId : (action.perform session).2.workspace.id = session.workspace.id
  success : ∀ response, (action.perform session).1 = .ok response → response.status < 400
  failure : ∀ fault, (action.perform session).1 = .error fault →
    (action.perform session).2.workspace.IsIndescribable settings fault

/-- What is left of a workspace when an operation of the service ends. -/
inductive Ending (settings : Settings) (session : Session) (action : Action Response) : Prop
  /-- The operation answers with a success. -/
  | success
      (response : Response)
      (answered : (action.perform session).1 = .ok response)
      (isSuccess : response.status < 400)
  /-- Nothing but the memory of the workspace differs. -/
  | unchanged
      (same : session.workspace.SameApartFromMemory (action.perform session).2.workspace)
  /-- The operation fails, and the workspace holds a table that cannot be described. -/
  | unreported
      (fault : Fault)
      (failed : (action.perform session).1 = .error fault)
      (sameId : (action.perform session).2.workspace.id = session.workspace.id)
      (held : (action.perform session).2.workspace.IsIndescribable settings fault)

/-- An action that keeps the workspace reports it. -/
theorem Reports.of_keeps
    {action : Action Response}
    (keeps : action.Keeps)
    (succeeds : action.Succeeds)
    (fails : ∀ fault, (action.perform session).1 = .error fault →
      session.workspace.IsIndescribable settings fault) :
    Reports settings session action where
  sameId := KeepsId.of_keeps keeps session
  success := succeeds session
  failure fault failed := (fails fault failed).of_same (keeps.same session)

/-- A change that always can be made may come before a report. -/
theorem Reports.modifyWorkspace_bind
    {change : Workspace → Workspace}
    {next : Unit → Action Response}
    (sameId : (change session.workspace).id = session.workspace.id)
    (reports : ∀ after, Reports settings after (next ())) :
    Reports settings session (Action.modifyWorkspace change >>= next) := by
  have changed :
      (Action.modifyWorkspace change).perform session =
        (.ok (), { session with workspace := change session.workspace }) :=
    rfl
  have report := reports { session with workspace := change session.workspace }
  constructor
  · rw [perform_bind_of_ok changed, report.sameId, sameId]
  · rw [perform_bind_of_ok changed]
    exact report.success
  · rw [perform_bind_of_ok changed]
    exact report.failure

theorem reports_overview
    (settings : Settings)
    (session : Session) :
    Reports settings session (overview settings) :=
  .of_keeps (keeps_overview settings) (.bind fun _ => .answering (by decide) _) fun _ failed =>
    isIndescribable_of_workspaceDocument failed

theorem reports_summary
    {status : Nat}
    (isSuccess : status < 400)
    {name : String}
    {snapshot : Snapshot}
    (held : session.workspace.tables.find? name = some snapshot) :
    Reports settings session (summary settings status snapshot) := by
  refine
    .of_keeps ((keeps_summaryDocument settings snapshot).bind fun _ => .pure _)
      (.bind fun _ => .answering isSuccess _) ?_
  intro fault failed
  have failsOnly :
      (summary settings status snapshot).FailsOnly (snapshot.IsIndescribable settings) :=
    (summaryDocument_failsOnly settings snapshot).bind fun _ => .pure _
  exact ⟨name, snapshot, held, failsOnly session fault failed⟩

theorem reports_added
    (settings : Settings)
    (session : Session)
    (id : String) :
    Reports settings session
      (do
        return .answering 201 (← addedDocument id)) := by
  refine
    .of_keeps ((keeps_addedDocument id).bind fun _ => .pure _)
      (.bind fun _ => .answering (by decide) _) ?_
  intro fault failed
  exact absurd failed nofun

theorem reports_removed
    {asked : Option String}
    {removed : Nat}
    {found : String × Snapshot}
    (targeted : (target asked).perform session = (.ok found, session)) :
    Reports settings session
      (do
        let (name, snapshot) ← target asked
        Service.found (removedDocument name removed snapshot)) := by
  refine
    .of_keeps ((keeps_target asked).bind fun _ => keeps_found _)
      (.bind fun _ => .answering (by decide) _) ?_
  intro fault failed
  rw [perform_bind_of_ok targeted] at failed
  exact absurd failed nofun

namespace Ending

theorem of_keeps
    {action : Action Response}
    (keeps : action.Keeps) :
    Ending settings session action :=
  .unchanged (keeps.same session)

/-- A change that is all or nothing, followed by a report. -/
theorem of_edit
    {edit : Action α}
    {next : α → Action Response}
    (atomic : edit.Atomic)
    (keepsId : edit.KeepsId)
    (reports : ∀ value after, edit.perform session = (.ok value, after) →
      Reports settings after (next value)) :
    Ending settings session (edit >>= next) := by
  have sameId := keepsId session
  have undone := atomic session
  rcases performed : edit.perform session with ⟨fault | value, after⟩
  · refine .unchanged ?_
    rw [perform_bind_of_error performed]
    rw [performed] at undone
    exact undone fault rfl
  · have bound : (edit >>= next).perform session = (next value).perform after :=
      perform_bind_of_ok performed
    rw [performed] at sameId
    have report := reports value after performed
    rcases answered : ((next value).perform after).1 with fault | response
    · refine .unreported fault ?_ ?_ ?_
      · rw [bound, answered]
      · rw [bound, report.sameId, sameId]
      · rw [bound]
        exact report.failure fault answered
    · refine .success response ?_ (report.success response answered)
      rw [bound, answered]

end Ending

end Service

end Tabular
