import Tabular.Proofs.Service.Operations

namespace Tabular

/-!
# Requests that are not answered with a success

A request is answered with a success, with a refusal, or not at all. After a refusal every workspace
of the store is as it was. A request that is not answered has either left every workspace as it was,
or changed the one that it names, which then holds a table whose columns cannot be described.
-/

namespace WorkspaceStore

variable {α : Type} {store : WorkspaceStore}

theorem get?_put
    (store : WorkspaceStore)
    (workspace : Workspace)
    (id : String) :
    (store.put workspace).get? id =
      if workspace.id = id then some workspace else store.get? id :=
  Assoc.find?_insert store.workspaces workspace.id id workspace

theorem get?_delete
    (store : WorkspaceStore)
    (key id : String) :
    (store.delete key).2.get? id = if key = id then none else store.get? id :=
  Assoc.find?_erase store.workspaces key id

/-- After an action on a workspace of the store, the workspace is stored as the action leaves it. -/
theorem run_eq
    (store : WorkspaceStore)
    (workspace : Workspace)
    (action : Action α) :
    store.run workspace action =
      ((action.perform ⟨store.supply, workspace⟩).1,
        { store with supply := (action.perform ⟨store.supply, workspace⟩).2.supply }.put
          (action.perform ⟨store.supply, workspace⟩).2.workspace) :=
  rfl

/-- Every workspace is stored under its own identifier. -/
def IsKeyed (store : WorkspaceStore) : Prop :=
  ∀ id workspace, store.get? id = some workspace → workspace.id = id

namespace IsKeyed

theorem put
    (keyed : store.IsKeyed)
    (workspace : Workspace) :
    (store.put workspace).IsKeyed := by
  intro id stored found
  rw [get?_put] at found
  split at found
  · next same =>
      cases found
      exact same
  · exact keyed id stored found

theorem delete
    (keyed : store.IsKeyed)
    (key : String) :
    (store.delete key).2.IsKeyed := by
  intro id stored found
  rw [get?_delete] at found
  split at found
  · exact absurd found nofun
  · exact keyed id stored found

end IsKeyed

end WorkspaceStore

namespace Service

variable {settings : Settings} {store : WorkspaceStore}

/-- The store that requests leave, made one after the other from an empty one. -/
def storeAfter (settings : Settings) (requests : List Request) : WorkspaceStore :=
  requests.foldl (fun store request => (respond settings store request).2) {}

/-- A request has been answered with a success. -/
def Answer.IsSuccess (answer : Answer) : Prop :=
  ∃ response, answer.1 = .ok response ∧ response.status < 400

/-! ## What a request does to the store -/

/-- What becomes of a store with a request, and what is answered. -/
inductive Effect (settings : Settings) (store : WorkspaceStore) (resource : Option Resource) :
    Answer → Prop
  /-- The store is left alone. -/
  | none
      (outcome : Outcome Response) :
      Effect settings store resource (outcome, store)
  /-- A new workspace is stored and reported. -/
  | creation
      (supply : Supply)
      (workspace : Workspace)
      (action : Action Response)
      (isSuccess : (perform ({ store with supply }.put workspace) workspace action).IsSuccess) :
      Effect settings store resource
        (perform ({ store with supply }.put workspace) workspace action)
  /-- A workspace is deleted, or there was none. -/
  | deletion
      (id : String)
      (response : Response)
      (absent : ¬response.status < 400 → store.get? id = Option.none) :
      Effect settings store resource (.ok response, (store.delete id).2)
  /-- An operation on a workspace that the store holds. -/
  | operation
      (id : String)
      (part : WorkspacePart)
      (named : resource = some (.workspace id part))
      (workspace : Workspace)
      (found : store.get? id = some workspace)
      (action : Action Response)
      (ending : ∀ session, Ending settings session action) :
      Effect settings store resource (perform store workspace action)

theorem perform_eq
    (store : WorkspaceStore)
    (workspace : Workspace)
    (action : Action Response) :
    perform store workspace action =
      ((match (action.perform ⟨store.supply, workspace⟩).1 with
        | .ok response => .ok response
        | .error fault => Response.ofFault fault),
        { store with supply := (action.perform ⟨store.supply, workspace⟩).2.supply }.put
          (action.perform ⟨store.supply, workspace⟩).2.workspace) := by
  rw [perform, WorkspaceStore.run_eq]
  rcases action.perform ⟨store.supply, workspace⟩ with ⟨fault | response, after⟩ <;> rfl

theorem isSuccess_of_perform
    {workspace : Workspace}
    {action : Action Response}
    {response : Response}
    (answered : (action.perform ⟨store.supply, workspace⟩).1 = .ok response)
    (isSuccess : response.status < 400) :
    (perform store workspace action).IsSuccess := by
  refine ⟨response, ?_, isSuccess⟩
  rw [perform_eq, answered]

/-- A new workspace holds nothing that could not be reported. -/
theorem effect_of_createWorkspace
    (settings : Settings)
    (store : WorkspaceStore)
    (resource : Option Resource) :
    Effect settings store resource (createWorkspace settings store) := by
  have created :
      createWorkspace settings store =
        perform
          ({ store with supply := (WorkspaceStore.newWorkspace settings store.supply).2 }.put
            (WorkspaceStore.newWorkspace settings store.supply).1)
          (WorkspaceStore.newWorkspace settings store.supply).1
          (do return Response.answering 201 (← workspaceDocument settings)) :=
    rfl
  rw [created]
  refine .creation _ _ _ ?_
  rcases performed :
      Action.perform (do return Response.answering 201 (← workspaceDocument settings))
        ⟨(WorkspaceStore.newWorkspace settings store.supply).2,
          (WorkspaceStore.newWorkspace settings store.supply).1⟩ with
    ⟨fault | response, after⟩
  · obtain ⟨name, snapshot, held, -⟩ :=
      isIndescribable_of_workspaceDocument (congrArg Prod.fst performed)
    exact absurd held nofun
  · have succeeds :
        Action.Succeeds (do return Response.answering 201 (← workspaceDocument settings)) :=
      .bind fun _ => .answering (by decide) _
    have answered := congrArg Prod.fst performed
    exact isSuccess_of_perform answered (succeeds _ _ answered)

theorem effect_of_deleteWorkspace
    (store : WorkspaceStore)
    (id : String)
    (resource : Option Resource) :
    Effect settings store resource (deleteWorkspace store id) := by
  unfold deleteWorkspace
  split
  · next after deleted =>
      have isDeleted := congrArg Prod.snd deleted
      cases isDeleted
      exact .deletion id .nothing fun isNoSuccess => absurd (by decide) isNoSuccess
  · next after deleted =>
      have isDeleted := congrArg Prod.snd deleted
      cases isDeleted
      refine .deletion id .noWorkspace fun _ => ?_
      exact Option.not_isSome_iff_eq_none.mp (Bool.eq_false_iff.mp (congrArg Prod.fst deleted))

theorem effect_of_operate
    {id : String}
    {part : WorkspacePart}
    {operation : Operation}
    (ends : operation.Ends settings)
    (store : WorkspaceStore)
    (request : Request) :
    Effect settings store (some (.workspace id part)) (operate store id operation request) := by
  unfold operate
  split
  · exact .none _
  · next action prepared =>
      split
      · next workspace found =>
          exact .operation id part rfl workspace found action (ends request action prepared)
      · exact .none _

/-- Every request has one of the effects. -/
theorem effect_of_respondInFull
    (settings : Settings)
    (store : WorkspaceStore)
    (request : Request) :
    Effect settings store (resourceAt request.path) (respondInFull settings store request) := by
  unfold respondInFull
  split
  · exact .none _
  · exact .none _
  · exact .none _
  · split
    · exact effect_of_createWorkspace settings store _
    · exact .none _
  · next id part named =>
      rw [named, respondAbout]
      split
      · exact effect_of_deleteWorkspace store id _
      · split
        · next operation isOperation =>
            exact
              effect_of_operate
                (part.ends_operations operation (List.mem_of_find?_eq_some isOperation)) store
                request
        · exact .none _

/-! ## Every workspace is stored under its identifier -/

theorem isKeyed_perform
    (keyed : store.IsKeyed)
    (workspace : Workspace)
    (action : Action Response) :
    (perform store workspace action).2.IsKeyed := by
  rw [perform_eq]
  exact WorkspaceStore.IsKeyed.put keyed _

theorem Effect.isKeyed
    {resource : Option Resource}
    {answer : Answer}
    (effect : Effect settings store resource answer)
    (keyed : store.IsKeyed) :
    answer.2.IsKeyed := by
  cases effect with
  | none outcome =>
      exact keyed
  | creation supply workspace action isSuccess =>
      have keyedToo : ({ store with supply } : WorkspaceStore).IsKeyed := keyed
      exact isKeyed_perform (keyedToo.put workspace) workspace action
  | deletion id response absent =>
      exact keyed.delete id
  | operation id part named workspace found action ending =>
      exact isKeyed_perform keyed workspace action

/-- Requests keep every workspace under its own identifier. -/
theorem isKeyed_foldl_respond
    (settings : Settings)
    (keyed : store.IsKeyed)
    (requests : List Request) :
    (requests.foldl (fun store request => (respond settings store request).2) store).IsKeyed := by
  induction requests generalizing store with
  | nil =>
      exact keyed
  | cons request rest inductionHypothesis =>
      exact inductionHypothesis ((effect_of_respondInFull settings store request).isKeyed keyed)

theorem isKeyed_storeAfter
    (settings : Settings)
    (requests : List Request) :
    (storeAfter settings requests).IsKeyed := by
  have keyed : ({} : WorkspaceStore).IsKeyed := fun _ _ found => absurd found nofun
  exact isKeyed_foldl_respond settings keyed requests

/-! ## Requests without success -/

/-- Faults of arithmetic are no refusals. -/
theorem ofFault_of_isArithmetic
    {fault : Fault}
    (isArithmetic : fault.IsArithmetic) :
    Response.ofFault fault = .error fault := by
  rcases isArithmetic with rfl | rfl <;> rfl

theorem get?_of_perform
    {workspace : Workspace}
    {action : Action Response}
    (sameId : (action.perform ⟨store.supply, workspace⟩).2.workspace.id = workspace.id)
    (id : String) :
    (perform store workspace action).2.get? id =
      if workspace.id = id then some (action.perform ⟨store.supply, workspace⟩).2.workspace
      else store.get? id := by
  rw [perform_eq, WorkspaceStore.get?_put, sameId]
  rfl

/-- An answer that is no success spares a workspace, or cannot report what it holds now. -/
theorem Effect.spares
    {resource : Option Resource}
    {answer : Answer}
    (effect : Effect settings store resource answer)
    (keyed : store.IsKeyed)
    {id : String}
    {workspace : Workspace}
    (found : store.get? id = some workspace)
    (unsuccessful : ¬answer.IsSuccess) :
    ∃ after, answer.2.get? id = some after ∧
      (workspace.SameApartFromMemory after ∨
        ∃ fault part,
          resource = some (.workspace id part) ∧ answer.1 = .error fault ∧
            after.IsIndescribable settings fault) := by
  cases effect with
  | none outcome =>
      exact ⟨workspace, found, .inl (.refl workspace)⟩
  | creation supply workspace action isSuccess =>
      exact absurd isSuccess unsuccessful
  | deletion key response absent =>
      have isAbsent := absent fun isSuccess => unsuccessful ⟨response, rfl, isSuccess⟩
      have differs : key ≠ id := by
        rintro rfl
        rw [isAbsent] at found
        exact absurd found nofun
      refine ⟨workspace, ?_, .inl (.refl workspace)⟩
      rw [WorkspaceStore.get?_delete, if_neg differs, found]
  | operation key part named target isTarget action ending =>
      have targetId := keyed key target isTarget
      cases ending ⟨store.supply, target⟩ with
      | success response answered isSuccess =>
          exact absurd (isSuccess_of_perform answered isSuccess) unsuccessful
      | unchanged same =>
          have sameId := same.sameId
          rw [get?_of_perform sameId, targetId]
          split
          · next isNamed =>
              subst isNamed
              cases isTarget.symm.trans found
              exact ⟨_, rfl, .inl same⟩
          · exact ⟨workspace, found, .inl (.refl workspace)⟩
      | unreported fault failed sameId held =>
          rw [get?_of_perform sameId, targetId]
          split
          · next isNamed =>
              subst isNamed
              refine ⟨_, rfl, .inr ⟨fault, part, named, ?_, held⟩⟩
              obtain ⟨_, _, _, indescribable⟩ := held
              rw [perform_eq, failed]
              exact ofFault_of_isArithmetic indescribable.isArithmetic
          · exact ⟨workspace, found, .inl (.refl workspace)⟩

/-! ## Heads of answers -/

theorem respond_eq
    (settings : Settings)
    (store : WorkspaceStore)
    (request : Request) :
    respond settings store request =
      ((respondInFull settings store request).1.map (Response.forMethod request.method),
        (respondInFull settings store request).2) :=
  rfl

theorem isSuccess_of_respondInFull
    {request : Request}
    (isSuccess : (respondInFull settings store request).IsSuccess) :
    (respond settings store request).IsSuccess := by
  obtain ⟨response, answered, isSuccess⟩ := isSuccess
  refine ⟨response.forMethod request.method, ?_, ?_⟩
  · rw [respond_eq, answered]
    rfl
  · rw [Response.forMethod]
    split <;> exact isSuccess

/--
A request that is not answered with a success, but with a refusal or not at all, leaves every
workspace of the store as it was, apart from what it remembers. The only exception is a request that
is not answered since it has changed the workspace that it names, and this holds a table then whose
types or kinds cannot be found out.
-/
theorem workspace_of_unsuccessful_request
    (settings : Settings)
    (requests : List Request)
    (request : Request)
    (id : String)
    (workspace : Workspace)
    (found : (storeAfter settings requests).get? id = some workspace)
    (unsuccessful : ¬(respond settings (storeAfter settings requests) request).IsSuccess) :
    ∃ after, (respond settings (storeAfter settings requests) request).2.get? id = some after ∧
      ((∃ cache memo, after = { workspace with cache, memo }) ∨
        ∃ fault part,
          resourceAt request.path = some (.workspace id part) ∧
            (respond settings (storeAfter settings requests) request).1 = .error fault ∧
              after.IsIndescribable settings fault) := by
  obtain ⟨after, isAfter, spared⟩ :=
    (effect_of_respondInFull settings (storeAfter settings requests) request).spares
      (isKeyed_storeAfter settings requests) found fun isSuccess =>
        unsuccessful (isSuccess_of_respondInFull isSuccess)
  refine ⟨after, isAfter, spared.imp_right ?_⟩
  rintro ⟨fault, part, named, failed, held⟩
  refine ⟨fault, part, named, ?_, held⟩
  rw [respond_eq, failed]
  rfl

/-- A request for a new workspace. -/
def creation : Request where
  method := "POST"
  path := "/workspaces"

/-- A request to load a table with an integer that no type can be found out for. -/
def hugeLoading : Request where
  method := "POST"
  path := "/workspaces/\ue000w1\ue001/tables"
  body :=
    .document
      (.object
        [("name", .text "ledger"),
          ("rows", .array [.object [("amount", .int (Int.pow 10 400))]])])

/-- The request to load the table is not answered, and yet the table has been loaded. -/
theorem workspace_of_hugeLoading :
    ∃ workspace after,
      (storeAfter {} [creation]).get? (WorkspaceStore.workspaceId 1) = some workspace ∧
        workspace.tables.keys = [] ∧
        (respond {} (storeAfter {} [creation]) hugeLoading).1 = .error .overflow ∧
        (respond {} (storeAfter {} [creation]) hugeLoading).2.get?
            (WorkspaceStore.workspaceId 1) = some after ∧
        after.tables.keys = ["ledger"] ∧ after.IsIndescribable {} .overflow := by
  have before :
      ((storeAfter {} [creation]).get? (WorkspaceStore.workspaceId 1)).map
          (fun workspace => workspace.tables.keys) = some [] := by
    decide +kernel
  have loaded :
      ((respond {} (storeAfter {} [creation]) hugeLoading).2.get?
          (WorkspaceStore.workspaceId 1)).map
          (fun workspace => workspace.tables.keys) = some ["ledger"] := by
    decide +kernel
  have failed : (respond {} (storeAfter {} [creation]) hugeLoading).1 = .error .overflow := by
    apply Outcome.fault?_eq_some_iff.mp
    decide +kernel
  have unsuccessful : ¬(respond {} (storeAfter {} [creation]) hugeLoading).IsSuccess := by
    rintro ⟨response, answered, -⟩
    rw [failed] at answered
    exact absurd answered nofun
  obtain ⟨workspace, found, noTables⟩ := Option.map_eq_some_iff.mp before
  obtain ⟨after, isAfter, ⟨cache, memo, rfl⟩ | ⟨fault, part, -, isFault, held⟩⟩ :=
    workspace_of_unsuccessful_request {} [creation] hugeLoading _ workspace found unsuccessful
  · rw [isAfter] at loaded
    exact absurd (noTables.symm.trans (Option.some.inj loaded)) (by decide)
  · rw [failed] at isFault
    cases isFault
    rw [isAfter] at loaded
    exact
      ⟨workspace, after, found, noTables, failed, isAfter, Option.some.inj loaded, held⟩

end Service

end Tabular
