import Tabular.Filter.Validation
import Tabular.Workspace.Views

namespace Tabular.Workspace

/-!
# The filter of a workspace

Edits of the filter tree. A condition that is added or changed has to be valid for the types of the
current view; an edit that fails leaves the tree as it was.
-/

/-- The node replaces the filter tree. -/
def replaceFilter (filter : FilterNode) : Action Unit :=
  Action.modifyWorkspace fun workspace => { workspace with filter }

/-- The identifier of the group that a node is to be added to: the root unless one is named. -/
def parentOf (workspace : Workspace) (parent : Option String) : String :=
  match parent with
  | some id => if id = "" then workspace.filter.id else id
  | none => workspace.filter.id

/-- The filter tree with a node added to a group. -/
def insertNode (workspace : Workspace) (parent : String) (node : FilterNode) :
    Outcome FilterNode :=
  match workspace.filter.find? parent with
  | some (.group ..) => .ok (FilterNode.insert parent node workspace.filter)
  | _ => .error (.filter (.missingGroup parent))

/-- Add a node to a group; the answer is its identifier. -/
def addNode (parent : Option String) (node : FilterNode) : Action String := do
  let workspace ← Action.workspace
  replaceFilter (← Action.ofOutcome (workspace.insertNode (workspace.parentOf parent) node))
  return node.id

/-- The types of the columns of the current view. -/
def currentTypes (settings : Settings) : Action (Assoc ColumnType) := do
  Action.types settings (← currentView settings)

/-- Add a condition. -/
def addCondition (settings : Settings) (parent field operator : Option String) (value : Cell) :
    Action String := do
  let condition ← Action.ofNaming (FilterNode.newCondition field operator value)
  Action.ofOutcome (condition.validate (← currentTypes settings))
  addNode parent (.condition condition)

/-- Add a group without members. -/
def addGroup (parent : Option String) (logic : Cell) : Action String := do
  addNode parent (← Action.ofNaming (FilterNode.newGroup logic))

/-- The name of the first operator that is offered for a column. -/
def firstOperator (types : Assoc ColumnType) (field : Option String) : String :=
  match Operator.offeredFor ((field.bind types.find?).getD .string) with
  | operator :: _ => operator.name
  | [] => ""

/--
The changes of a condition, completed: a condition that moves to another column starts with the
first operator for that column and without a value, unless they are given too.
-/
def completeChanges (types : Assoc ColumnType) (node : FilterNode)
    (changes : FilterNode.Changes) : FilterNode.Changes :=
  match node, changes.field with
  | .condition leaf, some field =>
      if field = leaf.field then changes
      else
        { changes with
          operator := some (changes.operator.getD (some (firstOperator types field)))
          value := some (changes.value.getD (.text "")) }
  | _, _ => changes

/-- A condition is valid; a group always is. -/
def validateNode (types : Assoc ColumnType) : Option FilterNode → Outcome Unit
  | some (.condition leaf) => leaf.validate types
  | _ => .ok ()

/-- The filter tree with a node changed. -/
def changedFilter (types : Assoc ColumnType) (filter node : FilterNode) (id : String)
    (changes : FilterNode.Changes) : Outcome FilterNode := do
  let updated ← FilterNode.update id (completeChanges types node changes) filter
  validateNode types (updated.find? id)
  return updated

/-- Change a node. -/
def updateNode (settings : Settings) (id : String) (changes : FilterNode.Changes) :
    Action Unit := do
  let filter := (← Action.workspace).filter
  match filter.find? id with
  | some node =>
      let types ← currentTypes settings
      replaceFilter (← Action.ofOutcome (changedFilter types filter node id changes))
  | none => throw (.filter (.missingNode id))

/-- Remove the nodes with an identifier; the root stays. -/
def removeNode (id : String) : Action Unit := do
  replaceFilter ((← Action.workspace).filter.remove id)

/-- Replace the filter tree by a valid one. -/
def setFilterTree (settings : Settings) (root : FilterNode) : Action Unit := do
  match root with
  | .condition _ => throw (.filter .rootCondition)
  | .group id logic children =>
      let root := FilterNode.group id logic children
      Action.ofOutcome (root.validate (← currentTypes settings))
      replaceFilter root

end Tabular.Workspace
