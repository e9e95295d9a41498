import Tabular.Proofs.Assoc
import Tabular.Proofs.Table.Description
import Tabular.Proofs.Workspace.Atomicity
import Tabular.Service.Operation

namespace Tabular

/-!
# Reporting what a workspace holds

Tables are reported with the types and kinds of their columns, and these are found out on the way.
A report that cannot be given fails for the arithmetic of a table that the workspace holds, and
whatever else is reported about a workspace is at hand. Reporting keeps the workspace.
-/

/-- The types or the kinds of the columns of a snapshot cannot be found out. -/
def Snapshot.IsIndescribable (settings : Settings) (snapshot : Snapshot) (fault : Fault) : Prop :=
  snapshot.table.types settings = .error fault ∨ snapshot.table.smartTypes settings = .error fault

/-- A workspace holds a table whose columns cannot be described. -/
def Workspace.IsIndescribable (settings : Settings) (workspace : Workspace) (fault : Fault) :
    Prop :=
  ∃ name snapshot,
    workspace.tables.find? name = some snapshot ∧ snapshot.IsIndescribable settings fault

/-- Columns are indescribable for arithmetic only. -/
theorem Snapshot.IsIndescribable.isArithmetic
    {settings : Settings}
    {snapshot : Snapshot}
    {fault : Fault}
    (indescribable : snapshot.IsIndescribable settings fault) :
    fault.IsArithmetic := by
  rcases indescribable with untyped | unkinded
  · exact .inl (snapshot.table.types_failsOnly settings fault untyped).1
  · exact snapshot.table.smartTypes_failsOnly settings fault unkinded

theorem Workspace.IsIndescribable.of_same
    {settings : Settings}
    {before after : Workspace}
    {fault : Fault}
    (indescribable : before.IsIndescribable settings fault)
    (same : before.SameApartFromMemory after) :
    after.IsIndescribable settings fault := by
  obtain ⟨_, _, rfl⟩ := same
  exact indescribable

/-! ## Causes of failure -/

namespace Action

variable {α β : Type}

/-- When the action fails, it fails for a cause of the given sort. -/
def FailsOnly (action : Action α) (sort : Fault → Prop) : Prop :=
  ∀ session : Session, Outcome.FailsOnly (action.perform session).1 sort

namespace FailsOnly

variable {sort : Fault → Prop}

theorem mono
    {wider : Fault → Prop}
    {action : Action α}
    (failsOnly : action.FailsOnly sort)
    (isWider : ∀ fault, sort fault → wider fault) :
    action.FailsOnly wider :=
  fun session => (failsOnly session).mono isWider

theorem bind
    {first : Action α}
    {next : α → Action β}
    (firstFails : first.FailsOnly sort)
    (nextFails : ∀ value, (next value).FailsOnly sort) :
    (first >>= next).FailsOnly sort := by
  intro session
  have firstCause := firstFails session
  rcases performed : first.perform session with ⟨fault | value, after⟩
  · rw [performed] at firstCause
    rw [perform_bind_of_error performed]
    exact .error (firstCause fault rfl)
  · rw [perform_bind_of_ok performed]
    exact nextFails value after

theorem pure
    (value : α) :
    (Pure.pure value : Action α).FailsOnly sort :=
  fun _ => .ok value

theorem workspace :
    Action.workspace.FailsOnly sort :=
  fun session => .ok session.workspace

theorem modifyWorkspace
    (change : Workspace → Workspace) :
    (Action.modifyWorkspace change).FailsOnly sort :=
  fun _ => .ok ()

theorem ofOutcome
    {outcome : Outcome α}
    (failsOnly : outcome.FailsOnly sort) :
    (Action.ofOutcome outcome).FailsOnly sort := by
  intro session
  rw [perform_ofOutcome]
  exact failsOnly

theorem mapM
    {step : α → Action β}
    {elements : List α}
    (stepFails : ∀ element ∈ elements, (step element).FailsOnly sort) :
    (elements.mapM step).FailsOnly sort := by
  induction elements with
  | nil =>
      exact pure []
  | cons element rest inductionHypothesis =>
      rw [List.mapM_cons]
      refine (stepFails element List.mem_cons_self).bind fun _ => ?_
      exact (inductionHypothesis fun other member =>
        stepFails other (List.mem_cons_of_mem element member)).bind fun _ => pure _

/-- A remembered answer is at hand, and otherwise the computation decides. -/
theorem remembered
    {key : MemoKey}
    {compute : Action key.Value}
    (computeFails : compute.FailsOnly sort) :
    (Action.remembered key compute).FailsOnly sort := by
  refine workspace.bind fun current => ?_
  split
  · exact pure _
  · exact computeFails.bind fun _ => (modifyWorkspace _).bind fun _ => pure _

theorem types
    (settings : Settings)
    (snapshot : Snapshot) :
    (Action.types settings snapshot).FailsOnly fun fault =>
      snapshot.table.types settings = .error fault := by
  unfold Action.types
  split
  · exact pure _
  · exact remembered (ofOutcome fun _ failed => failed)

theorem smartTypes
    (settings : Settings)
    (snapshot : Snapshot) :
    (Action.smartTypes settings snapshot).FailsOnly fun fault =>
      snapshot.table.smartTypes settings = .error fault := by
  unfold Action.smartTypes
  split
  · exact pure _
  · exact remembered (ofOutcome fun _ failed => failed)

end FailsOnly

/-- Every answer of the action is a success. -/
def Succeeds (action : Action Service.Response) : Prop :=
  ∀ (session : Session) (response : Service.Response),
    (action.perform session).1 = .ok response → response.status < 400

/-- The end of a chain decides whether its answers are successes. -/
theorem Succeeds.bind
    {first : Action α}
    {next : α → Action Service.Response}
    (nextSucceeds : ∀ value, (next value).Succeeds) :
    (first >>= next).Succeeds := by
  intro session response answered
  rcases performed : first.perform session with ⟨fault | value, after⟩
  · rw [perform_bind_of_error performed] at answered
    exact absurd answered nofun
  · rw [perform_bind_of_ok performed] at answered
    exact nextSucceeds value after response answered

theorem Succeeds.answering
    {status : Nat}
    (isSuccess : status < 400)
    (document : Json) :
    (pure (.answering status document) : Action Service.Response).Succeeds := by
  rintro _ _ ⟨⟩
  exact isSuccess

end Action

/-! ## Documents -/

namespace Service

open Tabular.Action

theorem summaryDocument_failsOnly
    (settings : Settings)
    (snapshot : Snapshot) :
    (summaryDocument settings snapshot).FailsOnly (snapshot.IsIndescribable settings) :=
  ((FailsOnly.types settings snapshot).mono fun _ => .inl).bind fun _ =>
    ((FailsOnly.smartTypes settings snapshot).mono fun _ => .inr).bind fun _ => .pure _

theorem keeps_summaryDocument
    (settings : Settings)
    (snapshot : Snapshot) :
    (summaryDocument settings snapshot).Keeps :=
  (Keeps.types settings snapshot).bind fun _ =>
    (Keeps.smartTypes settings snapshot).bind fun _ => .pure _

theorem keeps_workspaceDocument
    (settings : Settings) :
    (workspaceDocument settings).Keeps :=
  Keeps.workspace.bind fun _ =>
    (Keeps.mapM (keeps_summaryDocument settings) _).bind fun _ => .pure _

/-- A workspace is reported unless it holds a table that is indescribable. -/
theorem isIndescribable_of_workspaceDocument
    {settings : Settings}
    {status : Nat}
    {session : Session}
    {fault : Fault}
    (failed :
      ((do return .answering status (← workspaceDocument settings) :
          Action Response).perform session).1 = .error fault) :
    session.workspace.IsIndescribable settings fault := by
  rw [workspaceDocument, bind_assoc, perform_bind, perform_workspace] at failed
  have summariesFail :
      (session.workspace.tables.values.mapM (summaryDocument settings)).FailsOnly
        (session.workspace.IsIndescribable settings) := by
    refine .mapM fun snapshot member => ?_
    obtain ⟨⟨name, _⟩, entry, rfl⟩ := List.mem_map.mp member
    exact (summaryDocument_failsOnly settings _).mono fun _ indescribable =>
      ⟨name, _, Assoc.find?_eq_some_iff.mpr entry, indescribable⟩
  exact ((summariesFail.bind fun _ => .pure _).bind fun _ => .pure _) session fault failed

theorem keeps_addedDocument
    (id : String) :
    (addedDocument id).Keeps :=
  Keeps.workspace.bind fun _ => .pure _

theorem keeps_viewDocument
    (settings : Settings)
    (offset : Int)
    (limit : Option Int)
    (sums : Assoc Amount)
    (snapshot : Snapshot) :
    (viewDocument settings offset limit sums snapshot).Keeps :=
  (Keeps.types settings snapshot).bind fun _ => (Keeps.ofOutcome _).bind fun _ => .pure _

theorem keeps_found
    (document : Json) :
    (found document).Keeps :=
  .pure _

theorem keeps_overview
    (settings : Settings) :
    (overview settings).Keeps :=
  (keeps_workspaceDocument settings).bind keeps_found

end Service

end Tabular
