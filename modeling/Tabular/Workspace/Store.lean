import Tabular.Workspace.Basic

namespace Tabular

/-!
# Stores of workspaces

A store holds workspaces by their identifiers. All of them draw numbers from one supply. What is
done to one workspace leaves the others as they are.
-/

/-- Workspaces by identifier, and the supply that they draw from. -/
structure WorkspaceStore where
  supply : Supply := {}
  workspaces : Assoc Workspace := .empty

namespace WorkspaceStore

/-- The identifier of the workspace with a number. -/
def workspaceId (number : Nat) : String :=
  s!"\ue000w{number}\ue001"

/-- A new workspace and the supply after it. -/
def newWorkspace (settings : Settings) (supply : Supply) : Workspace × Supply :=
  let workspace :=
    Workspace.new settings (workspaceId supply.workspaces)
      (.group (drawnId supply.nodes) .all [])
  (workspace,
    { supply with nodes := supply.nodes + 1, workspaces := supply.workspaces + 1 })

/-- The store with a workspace. -/
def put (store : WorkspaceStore) (workspace : Workspace) : WorkspaceStore :=
  { store with workspaces := store.workspaces.insert workspace.id workspace }

/-- A new workspace, and the store with it. -/
def create (settings : Settings) (store : WorkspaceStore) : Workspace × WorkspaceStore :=
  let (workspace, supply) := newWorkspace settings store.supply
  (workspace, { store with supply }.put workspace)

/-- The workspace with an identifier. -/
def get? (store : WorkspaceStore) (id : String) : Option Workspace :=
  store.workspaces.find? id

/-- The store without a workspace, and whether it was there. -/
def delete (store : WorkspaceStore) (id : String) : Bool × WorkspaceStore :=
  (store.workspaces.contains id,
    { store with workspaces := store.workspaces.erase id })

/-- The number of workspaces. -/
def size (store : WorkspaceStore) : Nat :=
  store.workspaces.size

/-- What an operation answers on a workspace of the store, and the store afterwards. -/
def run {α : Type} (store : WorkspaceStore) (workspace : Workspace) (action : Action α) :
    Outcome α × WorkspaceStore :=
  let (outcome, session) := ExceptT.run action |>.run { supply := store.supply, workspace }
  (outcome, { store with supply := session.supply }.put session.workspace)

end WorkspaceStore

end Tabular
