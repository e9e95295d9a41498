import Tabular.Proofs.Outcome
import Tabular.Proofs.Workspace.Keeping
import Tabular.Proofs.Workspace.Operation

namespace Tabular

/-!
# Edits are all or nothing

An edit that fails leaves the workspace as it was, apart from what it remembers. Every edit first
looks at the workspace, which keeps it and may fail, and then makes its change, which cannot fail.
-/

namespace Action

variable {α β : Type}

/-- When the action fails, the workspace is the same apart from what it remembers. -/
def Atomic (action : Action α) : Prop :=
  ∀ (session : Session) (fault : Fault),
    (action.perform session).1 = .error fault →
      session.workspace.SameApartFromMemory
        (action.perform session).2.workspace

/-- The action always answers. -/
def Sure (action : Action α) : Prop :=
  ∀ session : Session, ∃ value, (action.perform session).1 = .ok value

namespace Sure

theorem pure
    (value : α) :
    (Pure.pure value : Action α).Sure :=
  fun _ => ⟨value, rfl⟩

theorem modifyWorkspace
    (change : Workspace → Workspace) :
    (Action.modifyWorkspace change).Sure :=
  fun _ => ⟨(), rfl⟩

/-- A chain of links that always answer always answers. -/
theorem bind
    {first : Action α}
    {next : α → Action β}
    (firstSure : first.Sure)
    (nextSure : ∀ value, (next value).Sure) :
    (first >>= next).Sure := by
  intro session
  obtain ⟨value, answered⟩ := firstSure session
  rcases performed : first.perform session with ⟨outcome, after⟩
  rw [performed] at answered
  change outcome = .ok value at answered
  subst answered
  rw [perform_bind_of_ok performed]
  exact nextSure value after

end Sure

namespace Atomic

/-- An action that always answers has nothing to undo. -/
theorem of_sure
    {action : Action α}
    (sure : action.Sure) :
    action.Atomic := by
  intro session fault failed
  obtain ⟨value, answered⟩ := sure session
  rw [failed] at answered
  exact absurd answered nofun

/-- An action that keeps the workspace has nothing to undo. -/
theorem of_keeps
    {action : Action α}
    (keeps : action.Keeps) :
    action.Atomic :=
  fun session _ _ => keeps.same session

/-- Looking at the workspace before an atomic action is atomic. -/
theorem bind
    {first : Action α}
    {next : α → Action β}
    (firstKeeps : first.Keeps)
    (nextAtomic : ∀ value, (next value).Atomic) :
    (first >>= next).Atomic := by
  intro session fault failed
  have firstSame := firstKeeps.same session
  rcases performed : first.perform session with ⟨earlier | value, after⟩
  · rw [perform_bind_of_error performed]
    rwa [performed] at firstSame
  · rw [perform_bind_of_ok performed] at failed ⊢
    rw [performed] at firstSame
    exact firstSame.trans (nextAtomic value after fault failed)

/-- Drawing identifiers before an atomic action is atomic. -/
theorem ofNaming_bind
    (naming : Naming α)
    {next : α → Action β}
    (nextAtomic : ∀ value, (next value).Atomic) :
    (Action.ofNaming naming >>= next).Atomic := by
  intro session fault failed
  rcases drawn : naming.run session.supply.nodes with earlier | ⟨value, nodes⟩
  · rw [perform_bind_of_error (perform_ofNaming_of_error drawn)]
    exact .refl session.workspace
  · rw [perform_bind_of_ok (perform_ofNaming_of_ok drawn)] at failed ⊢
    exact nextAtomic value (session.withNodes nodes) fault failed

theorem map
    (image : α → β)
    {action : Action α}
    (atomic : action.Atomic) :
    (image <$> action).Atomic := by
  intro session fault failed
  rw [perform_map] at failed ⊢
  rcases performed : action.perform session with ⟨earlier | value, after⟩
  · have same := atomic session earlier (by rw [performed])
    rwa [performed] at same
  · rw [performed] at failed
    exact absurd failed nofun

end Atomic

end Action

namespace Workspace

open Tabular.Action

theorem sure_replaceTable
    (name : String)
    (snapshot : Snapshot) :
    (replaceTable name snapshot).Sure :=
  .modifyWorkspace _

theorem sure_replaceFilter
    (filter : FilterNode) :
    (replaceFilter filter).Sure :=
  .modifyWorkspace _

theorem atomic_loadTable
    (name : String)
    (rows : List Row) :
    (loadTable name rows).Atomic :=
  .bind (.newSnapshot _) fun _ =>
    .of_sure ((Sure.modifyWorkspace _).bind fun _ => .pure _)

theorem atomic_removeTable
    (name : String) :
    (removeTable name).Atomic :=
  .bind (keeps_getTable name) fun _ => .of_sure (.modifyWorkspace _)

theorem atomic_setActiveTable
    (name : String) :
    (setActiveTable name).Atomic :=
  .bind (keeps_getTable name) fun _ => .of_sure (.modifyWorkspace _)

theorem atomic_clear :
    clear.Atomic :=
  .ofNaming_bind _ fun _ => .of_sure (.modifyWorkspace _)

theorem atomic_setAlias
    (name asked : String) :
    (setAlias name asked).Atomic :=
  .bind (keeps_getTable name) fun _ =>
    .bind .workspace fun _ =>
      .of_sure ((Sure.modifyWorkspace _).bind fun _ => .pure _)

theorem atomic_addNode
    (parent : Option String)
    (node : FilterNode) :
    (addNode parent node).Atomic :=
  .bind .workspace fun _ =>
    .bind (.ofOutcome _) fun filter =>
      .of_sure ((sure_replaceFilter filter).bind fun _ => .pure _)

theorem atomic_addCondition
    (settings : Settings)
    (parent field operator : Option String)
    (value : Cell) :
    (addCondition settings parent field operator value).Atomic :=
  .ofNaming_bind _ fun _ =>
    .bind (keeps_currentTypes settings) fun _ =>
      .bind (.ofOutcome _) fun _ => atomic_addNode parent _

theorem atomic_addGroup
    (parent : Option String)
    (logic : Cell) :
    (addGroup parent logic).Atomic :=
  .ofNaming_bind _ fun _ => atomic_addNode parent _

theorem atomic_updateNode
    (settings : Settings)
    (id : String)
    (changes : FilterNode.Changes) :
    (updateNode settings id changes).Atomic := by
  refine .bind .workspace fun workspace => ?_
  dsimp only
  split
  · exact .bind (keeps_currentTypes settings) fun _ =>
      .bind (.ofOutcome _) fun filter => .of_sure (sure_replaceFilter filter)
  · exact .of_keeps (.throw _)

theorem atomic_removeNode
    (id : String) :
    (removeNode id).Atomic :=
  .bind .workspace fun _ => .of_sure (sure_replaceFilter _)

theorem atomic_setFilterTree
    (settings : Settings)
    (root : FilterNode) :
    (setFilterTree settings root).Atomic := by
  unfold setFilterTree
  split
  · exact .of_keeps (.throw _)
  · exact .bind (keeps_currentTypes settings) fun _ =>
      .bind (.ofOutcome _) fun _ => .of_sure (sure_replaceFilter _)

theorem atomic_cleanColumn
    (column : String)
    (operation : Cell)
    (asked : Option String) :
    (cleanColumn column operation asked).Atomic :=
  .bind (keeps_target asked) fun _ =>
    .bind (.ofOutcome _) fun _ =>
      .bind (.newSnapshot _) fun cleaned =>
        .of_sure ((sure_replaceTable _ cleaned).bind fun _ => .pure _)

/-- Finding the rows that repeat no earlier one keeps the workspace. -/
theorem keeps_withoutDuplicates
    (snapshot : Snapshot) :
    (withoutDuplicates snapshot).Keeps := by
  unfold withoutDuplicates
  split
  · exact .pure _
  · exact (Keeps.ofOutcome _).bind fun _ => .derivedSnapshot _ _

theorem atomic_removeDuplicates
    (asked : Option String) :
    (removeDuplicates asked).Atomic :=
  .bind (keeps_target asked) fun _ =>
    .bind (keeps_withoutDuplicates _) fun distinct =>
      .of_sure ((sure_replaceTable _ distinct).bind fun _ => .pure _)

theorem atomic_fillEmpty
    (column : String)
    (value : Cell)
    (asked : Option String) :
    (fillEmpty column value asked).Atomic :=
  .bind (keeps_target asked) fun _ =>
    .bind (.newSnapshot _) fun filled =>
      .of_sure ((sure_replaceTable _ filled).bind fun _ => .pure _)

end Workspace

/-- Every edit is atomic. -/
theorem Edit.atomic_action
    (settings : Settings)
    (edit : Edit) :
    (edit.action settings).Atomic := by
  cases edit with
  | loadTable name rows =>
      exact .map _ (Workspace.atomic_loadTable name rows)
  | removeTable name =>
      exact .map _ (Workspace.atomic_removeTable name)
  | setActiveTable name =>
      exact .map _ (Workspace.atomic_setActiveTable name)
  | clear =>
      exact .map _ Workspace.atomic_clear
  | setJoins joins =>
      exact .map _ (.of_sure (.modifyWorkspace _))
  | setAlias name asked =>
      exact .map _ (Workspace.atomic_setAlias name asked)
  | addCondition parent field operator value =>
      exact .map _
        (Workspace.atomic_addCondition settings parent field operator value)
  | addGroup parent logic =>
      exact .map _ (Workspace.atomic_addGroup parent logic)
  | updateNode id changes =>
      exact .map _ (Workspace.atomic_updateNode settings id changes)
  | removeNode id =>
      exact .map _ (Workspace.atomic_removeNode id)
  | setFilterTree root =>
      exact .map _ (Workspace.atomic_setFilterTree settings root)
  | setCaseSensitive enabled =>
      exact .map _ (.of_sure (.modifyWorkspace _))
  | cleanColumn column operation asked =>
      exact .map _ (Workspace.atomic_cleanColumn column operation asked)
  | removeDuplicates asked =>
      exact .map _ (Workspace.atomic_removeDuplicates asked)
  | fillEmpty column value asked =>
      exact .map _ (Workspace.atomic_fillEmpty column value asked)

/--
Whenever an edit fails, for whatever cause, the workspace afterwards is the one before except that
its cache and its memo may differ. So its tables with their snapshots, its active table, aliases,
joins, filter tree and case flag are what they were.
-/
theorem workspace_of_failed_edit
    (settings : Settings)
    (session : Session)
    (edit : Edit)
    (fault : Fault)
    (failed : session.answer settings (.edit edit) = .error fault) :
    ∃ cache memo,
      (session.after settings [.edit edit]).workspace =
        { session.workspace with cache, memo } :=
  edit.atomic_action settings session fault failed

namespace Session.Sample

/-- A session whose table holds an integer that is too large to find out the type of its column. -/
def immeasurable : Session :=
  (start {} {}).after {}
    [.edit (.loadTable "ledger" [.ofList [("amount", .int (Nat.pow 10 400))]]),
      .edit (.setAlias "ledger" "l"),
      .edit (.setCaseSensitive true)]

/-- A condition on the integer that is too large is refused, and leaves the workspace as it was. -/
theorem workspace_of_immeasurable_condition :
    immeasurable.answer {}
        (.edit (.addCondition none (some "amount") (some "is") (.int 1))) =
      .error .overflow ∧
    ∃ cache memo,
      (immeasurable.after {}
          [.edit (.addCondition none (some "amount") (some "is") (.int 1))]).workspace =
        { immeasurable.workspace with cache, memo } := by
  have failed :
      immeasurable.answer {}
          (.edit (.addCondition none (some "amount") (some "is") (.int 1))) =
        .error .overflow := by
    apply Outcome.fault?_eq_some_iff.mp
    decide +kernel
  exact ⟨failed, workspace_of_failed_edit {} _ _ _ failed⟩

end Session.Sample

end Tabular
