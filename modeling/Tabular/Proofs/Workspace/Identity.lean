import Tabular.Proofs.Workspace.Atomicity

namespace Tabular

/-!
# Workspaces keep their identifiers

No operation gives a workspace another identifier, whether it answers or fails. So a store puts a
workspace back under the identifier that it has been found by.
-/

theorem Workspace.SameApartFromMemory.sameId
    {before after : Workspace}
    (same : before.SameApartFromMemory after) :
    after.id = before.id := by
  obtain ⟨_, _, rfl⟩ := same
  rfl

namespace Action

variable {α β : Type}

/-- Whatever the action answers, the workspace has the same identifier afterwards. -/
def KeepsId (action : Action α) : Prop :=
  ∀ session : Session, (action.perform session).2.workspace.id = session.workspace.id

namespace KeepsId

theorem of_keeps
    {action : Action α}
    (keeps : action.Keeps) :
    action.KeepsId :=
  fun session => (keeps.same session).sameId

theorem bind
    {first : Action α}
    {next : α → Action β}
    (firstKeeps : first.KeepsId)
    (nextKeeps : ∀ value, (next value).KeepsId) :
    (first >>= next).KeepsId := by
  intro session
  have sameFirst := firstKeeps session
  rcases performed : first.perform session with ⟨fault | value, after⟩
  · rw [perform_bind_of_error performed]
    rwa [performed] at sameFirst
  · rw [performed] at sameFirst
    rw [perform_bind_of_ok performed, nextKeeps value after, sameFirst]

theorem pure
    (value : α) :
    (Pure.pure value : Action α).KeepsId :=
  fun _ => rfl

theorem ofNaming
    (naming : Naming α) :
    (Action.ofNaming naming).KeepsId := by
  intro session
  rcases drawn : naming.run session.supply.nodes with fault | ⟨value, nodes⟩
  · rw [perform_ofNaming_of_error drawn]
  · rw [perform_ofNaming_of_ok drawn]
    rfl

theorem modifyWorkspace
    {change : Workspace → Workspace}
    (same : ∀ workspace : Workspace, (change workspace).id = workspace.id) :
    (Action.modifyWorkspace change).KeepsId :=
  fun session => same session.workspace

end KeepsId

end Action

namespace Workspace

open Tabular.Action

variable {settings : Settings}

theorem keepsId_loadTable
    (name : String)
    (rows : List Row) :
    (loadTable name rows).KeepsId :=
  (KeepsId.of_keeps (.newSnapshot _)).bind fun _ =>
    KeepsId.bind (.modifyWorkspace fun _ => rfl) fun _ => .pure _

theorem keepsId_replaceTable
    (name : String)
    (snapshot : Snapshot) :
    (replaceTable name snapshot).KeepsId :=
  .modifyWorkspace fun _ => rfl

theorem keepsId_removeTable
    (name : String) :
    (removeTable name).KeepsId :=
  (KeepsId.of_keeps (keeps_getTable name)).bind fun _ => .modifyWorkspace fun _ => rfl

theorem keepsId_setActiveTable
    (name : String) :
    (setActiveTable name).KeepsId :=
  (KeepsId.of_keeps (keeps_getTable name)).bind fun _ => .modifyWorkspace fun _ => rfl

theorem keepsId_clear :
    clear.KeepsId :=
  (KeepsId.ofNaming _).bind fun _ => .modifyWorkspace fun _ => rfl

theorem keepsId_setJoins
    (joins : List JoinSpec) :
    (setJoins joins).KeepsId :=
  .modifyWorkspace fun _ => rfl

theorem keepsId_setAlias
    (name asked : String) :
    (setAlias name asked).KeepsId :=
  (KeepsId.of_keeps (keeps_getTable name)).bind fun _ =>
    (KeepsId.of_keeps .workspace).bind fun _ =>
      KeepsId.bind (.modifyWorkspace fun _ => rfl) fun _ => .pure _

theorem keepsId_setCaseSensitive
    (enabled : Bool) :
    (setCaseSensitive enabled).KeepsId :=
  .modifyWorkspace fun _ => rfl

theorem keepsId_replaceFilter
    (filter : FilterNode) :
    (replaceFilter filter).KeepsId :=
  .modifyWorkspace fun _ => rfl

theorem keepsId_addNode
    (parent : Option String)
    (node : FilterNode) :
    (addNode parent node).KeepsId :=
  (KeepsId.of_keeps .workspace).bind fun _ =>
    (KeepsId.of_keeps (.ofOutcome _)).bind fun filter =>
      (keepsId_replaceFilter filter).bind fun _ => .pure _

theorem keepsId_addCondition
    (parent field operator : Option String)
    (value : Cell) :
    (addCondition settings parent field operator value).KeepsId :=
  (KeepsId.ofNaming _).bind fun _ =>
    (KeepsId.of_keeps (keeps_currentTypes settings)).bind fun _ =>
      (KeepsId.of_keeps (.ofOutcome _)).bind fun _ => keepsId_addNode parent _

theorem keepsId_addGroup
    (parent : Option String)
    (logic : Cell) :
    (addGroup parent logic).KeepsId :=
  (KeepsId.ofNaming _).bind fun _ => keepsId_addNode parent _

theorem keepsId_updateNode
    (id : String)
    (changes : FilterNode.Changes) :
    (updateNode settings id changes).KeepsId := by
  refine (KeepsId.of_keeps .workspace).bind fun workspace => ?_
  dsimp only
  split
  · exact (KeepsId.of_keeps (keeps_currentTypes settings)).bind fun _ =>
      (KeepsId.of_keeps (.ofOutcome _)).bind fun filter => keepsId_replaceFilter filter
  · exact .of_keeps (.throw _)

theorem keepsId_removeNode
    (id : String) :
    (removeNode id).KeepsId :=
  (KeepsId.of_keeps .workspace).bind fun _ => keepsId_replaceFilter _

theorem keepsId_setFilterTree
    (root : FilterNode) :
    (setFilterTree settings root).KeepsId := by
  unfold setFilterTree
  split
  · exact .of_keeps (.throw _)
  · exact (KeepsId.of_keeps (keeps_currentTypes settings)).bind fun _ =>
      (KeepsId.of_keeps (.ofOutcome _)).bind fun _ => keepsId_replaceFilter _

theorem keepsId_cleanColumn
    (column : String)
    (operation : Cell)
    (asked : Option String) :
    (cleanColumn column operation asked).KeepsId :=
  (KeepsId.of_keeps (keeps_target asked)).bind fun _ =>
    (KeepsId.of_keeps (.ofOutcome _)).bind fun _ =>
      (KeepsId.of_keeps (.newSnapshot _)).bind fun cleaned =>
        (keepsId_replaceTable _ cleaned).bind fun _ => .pure _

theorem keepsId_removeDuplicates
    (asked : Option String) :
    (removeDuplicates asked).KeepsId :=
  (KeepsId.of_keeps (keeps_target asked)).bind fun _ =>
    (KeepsId.of_keeps (keeps_withoutDuplicates _)).bind fun distinct =>
      (keepsId_replaceTable _ distinct).bind fun _ => .pure _

theorem keepsId_fillEmpty
    (column : String)
    (value : Cell)
    (asked : Option String) :
    (fillEmpty column value asked).KeepsId :=
  (KeepsId.of_keeps (keeps_target asked)).bind fun _ =>
    (KeepsId.of_keeps (.newSnapshot _)).bind fun filled =>
      (keepsId_replaceTable _ filled).bind fun _ => .pure _

end Workspace

end Tabular
