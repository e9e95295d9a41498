import Tabular.Service.Operation
import Tabular.Workspace.Store

namespace Tabular.Service

/-!
# The service

The service answers requests about the workspaces of a store. A path that names nothing is refused
before a method that it does not have, an ill-formed request before a workspace that does not exist,
and that before anything that is wrong with the workspace. A path with slashes at its end stands for
the path without them.
-/

/-- What is answered, and the store afterwards. A fault that is no refusal is no answer. -/
abbrev Answer := Outcome Response × WorkspaceStore

/-- What the service says when it is asked nothing in particular. -/
def welcome : Json :=
  .object [("message", .text (serviceName ++ " API is running")), ("version", .text "1.0.0")]

/-- What the service says when it is asked how it is. -/
def health : Json :=
  .object [("status", .text "healthy")]

/-- The answer to a method of something that only can be looked at. -/
def lookAt (document : Json) (method : String) : Response :=
  if method = "GET" then .answering 200 document else .wrongMethod

/-- The answer of an action on a workspace of a store, with faults as refusals. -/
def perform (store : WorkspaceStore) (workspace : Workspace) (action : Action Response) : Answer :=
  match store.run workspace action with
  | (.ok response, store) => (.ok response, store)
  | (.error fault, store) => (Response.ofFault fault, store)

/-- Create a workspace. -/
def createWorkspace (settings : Settings) (store : WorkspaceStore) : Answer :=
  let (workspace, store) := store.create settings
  perform store workspace do
    return .answering 201 (← workspaceDocument settings)

/-- Delete a workspace. -/
def deleteWorkspace (store : WorkspaceStore) (id : String) : Answer :=
  match store.delete id with
  | (true, store) => (.ok .nothing, store)
  | (false, store) => (.ok .noWorkspace, store)

/-- Carry out an operation on a workspace. -/
def operate (store : WorkspaceStore) (id : String) (operation : Operation) (request : Request) :
    Answer :=
  match operation.prepare request with
  | .error issues =>
      (Response.ofIssues (request.document.toOption.getD .null) issues, store)
  | .ok action =>
      match store.get? id with
      | some workspace => perform store workspace action
      | none => (.ok .noWorkspace, store)

/-- The answer to a request for a part of a workspace. -/
def respondAbout (settings : Settings) (store : WorkspaceStore) (id : String)
    (part : WorkspacePart) (request : Request) : Answer :=
  if part = .whole ∧ request.method = "DELETE" then deleteWorkspace store id
  else
    match (part.operations settings).find? fun operation => operation.method == request.method with
    | some operation => operate store id operation request
    | none => (.ok .wrongMethod, store)

/-- The resource that a path names, with or without slashes at its end. -/
def resourceAt (path : String) : Option Resource :=
  (Resource.ofSegments? (pathSegments path)).or
    (Resource.ofSegments? (pathSegments (withoutSlashes path)))

/-- The answer to a request with a body, whatever its method. -/
def respondInFull (settings : Settings) (store : WorkspaceStore) (request : Request) : Answer :=
  match resourceAt request.path with
  | none => (.ok .notFound, store)
  | some .root => (.ok (lookAt welcome request.method), store)
  | some .health => (.ok (lookAt health request.method), store)
  | some .workspaces =>
      if request.method = "POST" then createWorkspace settings store else (.ok .wrongMethod, store)
  | some (.workspace id part) => respondAbout settings store id part request

/-- The answer to a request. One that asks for the head of an answer only gets no body. -/
def respond (settings : Settings) (store : WorkspaceStore) (request : Request) : Answer :=
  let (outcome, store) := respondInFull settings store request
  (outcome.map (Response.forMethod request.method), store)

end Tabular.Service
