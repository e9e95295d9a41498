import Tabular.Proofs.Service.Agreement
import Tabular.Proofs.Service.Requests

namespace Tabular

/-!
# Workspaces of one store do not see each other

All workspaces of a store draw from one supply, so the requests to one of them change the versions
that the others get. No answer depends on that. The requests that concern a workspace, among any
others, are answered as they are without the others: with the same identifiers drawn for them, they
get the same responses.
-/

namespace WorkspaceStore

variable {settings : Settings} {id : String}

/-- The workspaces are sound in one ledger, and each is stored under its identifier. -/
structure Sound (settings : Settings) (ledger : Ledger) (store : WorkspaceStore) : Prop where
  consistent : ledger.Consistent store.supply.snapshots
  held : ∀ {id workspace}, store.get? id = some workspace → workspace.Held ledger
  remembers : ∀ {id workspace}, store.get? id = some workspace →
    workspace.Remembers settings ledger
  keyed : store.IsKeyed

/-- The stores are sound, and hold the same under an identifier, or nothing. -/
structure AgreeOn (settings : Settings) (id : String) (ledgers : Ledgers)
    (store twin : WorkspaceStore) : Prop where
  sound : store.Sound settings ledgers.1
  twinSound : twin.Sound settings ledgers.2
  sameContents :
    (store.get? id).map Workspace.contents = (twin.get? id).map Workspace.contents

/-- A store agrees with itself. -/
theorem AgreeOn.refl
    {ledger : Ledger}
    {store : WorkspaceStore}
    (sound : store.Sound settings ledger)
    (id : String) :
    store.AgreeOn settings id (ledger, ledger) store :=
  ⟨sound, sound, rfl⟩

namespace Sound

variable {ledger : Ledger} {store : WorkspaceStore}

theorem empty
    (settings : Settings)
    (supply : Supply) :
    Sound settings ∅ { supply } :=
  ⟨.empty _, nofun, nofun, fun _ _ found => absurd found nofun⟩

/-- A workspace of a sound store is one of a sound session. -/
theorem session
    (sound : store.Sound settings ledger)
    {workspace : Workspace}
    (found : store.get? id = some workspace) :
    Session.Sound settings ledger ⟨store.supply, workspace⟩ :=
  ⟨sound.consistent, sound.held found, sound.remembers found⟩

/-- A store stays sound when the workspace of a sound session is put into it. -/
theorem put
    (sound : store.Sound settings ledger)
    {final : Ledger}
    (grows : ledger ⊆ final)
    {session : Session}
    (sessionSound : session.Sound settings final) :
    Sound settings final ({ store with supply := session.supply }.put session.workspace) := by
  refine ⟨sessionSound.consistent, ?_, ?_, IsKeyed.put (fun _ _ => sound.keyed _ _) _⟩
  · intro id workspace found
    rw [get?_put] at found
    split at found
    · cases found
      exact sessionSound.held
    · exact (sound.held found).mono grows
  · intro id workspace found
    rw [get?_put] at found
    split at found
    · cases found
      exact sessionSound.remembers
    · exact (sound.remembers found).mono grows

theorem delete
    (sound : store.Sound settings ledger)
    (key : String) :
    (store.delete key).2.Sound settings ledger := by
  have before {id : String} {workspace : Workspace}
      (found : (store.delete key).2.get? id = some workspace) :
      store.get? id = some workspace := by
    rw [get?_delete] at found
    split at found
    · exact absurd found nofun
    · exact found
  exact
    ⟨sound.consistent, fun found => sound.held (before found),
      fun found => sound.remembers (before found), sound.keyed.delete key⟩

end Sound

end WorkspaceStore

namespace Service

variable {settings : Settings} {id : String} {ledgers : Ledgers} {store twin : WorkspaceStore}

/-! ## A request in two stores -/

/--
What a request that concerns a workspace comes to in two stores: it is answered alike, spares all
other workspaces of the first store, and leaves stores that agree on the workspace again.
-/
structure ServedAlike (settings : Settings) (id : String) (ledgers : Ledgers)
    (store : WorkspaceStore) (answer twinAnswer : Answer) : Prop where
  sameOutcome : answer.1 = twinAnswer.1
  spares : ∀ other, other ≠ id → answer.2.get? other = store.get? other
  agree : ∃ final, ledgers ≤ final ∧ answer.2.AgreeOn settings id final twinAnswer.2

namespace ServedAlike

/-- The same response, and stores left alone. -/
theorem unchanged
    (agree : store.AgreeOn settings id ledgers twin)
    (outcome : Outcome Response) :
    ServedAlike settings id ledgers store (outcome, store) (outcome, twin) :=
  ⟨rfl, fun _ _ => rfl, ledgers, le_rfl, agree⟩

/-- An action that answers twins alike. -/
theorem perform
    (sound : store.Sound settings ledgers.1)
    (twinSound : twin.Sound settings ledgers.2)
    {workspace twinWorkspace : Workspace}
    (twins :
      Session.Twins settings id ledgers ⟨store.supply, workspace⟩ ⟨twin.supply, twinWorkspace⟩)
    {action : Action Response}
    (answersTwins : AnswersTwins settings ledgers action) :
    ServedAlike settings id ledgers store (perform store workspace action)
      (perform twin twinWorkspace action) := by
  obtain ⟨final, grow, twinsAfter, alike⟩ := answersTwins ledgers le_rfl id _ _ twins
  rw [perform_eq, perform_eq, Outcome.Alike.eq alike]
  refine ⟨rfl, fun other differs => ?_, final, grow, ?_, ?_, ?_⟩
  · rw [WorkspaceStore.get?_put, twinsAfter.id_eq, if_neg differs.symm]
    rfl
  · exact sound.put grow.1 twinsAfter.sound
  · exact twinSound.put grow.2 twinsAfter.twinSound
  · rw [WorkspaceStore.get?_put, WorkspaceStore.get?_put, if_pos twinsAfter.id_eq,
      if_pos twinsAfter.twinId_eq]
    exact congrArg some (congrArg Holdings.contents twinsAfter.sameHoldings)

end ServedAlike

/-- The numbers that the next identifiers are drawn with are the same. -/
structure DrawAlike (store twin : WorkspaceStore) : Prop where
  nodes : store.supply.nodes = twin.supply.nodes
  workspaces : store.supply.workspaces = twin.supply.workspaces

/-- New workspaces of the same numbers are twins. -/
theorem twins_start
    (agree : store.AgreeOn settings id ledgers twin)
    (drawAlike : DrawAlike store twin)
    (isNew : WorkspaceStore.workspaceId store.supply.workspaces = id) :
    (Session.start settings store.supply).Twins settings id ledgers
      (Session.start settings twin.supply) := by
  have sound_start {ledger : Ledger} {supply : Supply}
      (consistent : ledger.Consistent supply.snapshots) :
      (Session.start settings supply).Sound settings ledger :=
    ⟨consistent, ⟨.empty, fun _ member => absurd member List.not_mem_nil⟩,
      fun member => absurd member List.not_mem_nil,
      fun known => absurd known.symm (Option.some_ne_none _)⟩
  refine
    ⟨sound_start agree.sound.consistent, sound_start agree.twinSound.consistent, isNew, ?_, ?_⟩
  · rw [drawAlike.workspaces] at isNew
    exact isNew
  · simp only [Session.holdings, Session.start, WorkspaceStore.newWorkspace, Workspace.new,
      Workspace.contents, drawAlike.nodes]

theorem servedAlike_createWorkspace
    (agree : store.AgreeOn settings id ledgers twin)
    (drawAlike : DrawAlike store twin)
    (isNew : WorkspaceStore.workspaceId store.supply.workspaces = id) :
    ServedAlike settings id ledgers store (createWorkspace settings store)
      (createWorkspace settings twin) := by
  have twins := twins_start agree drawAlike isNew
  have answersTwins :
      AnswersTwins settings ledgers
        (do return Response.answering 201 (← workspaceDocument settings)) :=
    agrees_workspaceDocument.bind_equal fun _ _ document => .pure_equal _
  have served :=
    ServedAlike.perform (agree.sound.put subset_rfl twins.sound)
      (agree.twinSound.put subset_rfl twins.twinSound) twins answersTwins
  refine ⟨served.sameOutcome, fun other differs => ?_, served.agree⟩
  refine (served.spares other differs).trans ?_
  rw [WorkspaceStore.get?_put, if_neg (twins.id_eq.trans_ne differs.symm)]
  rfl

/-- Deleting a workspace tells whether there was one. -/
theorem deleteWorkspace_eq
    (store : WorkspaceStore)
    (id : String) :
    deleteWorkspace store id =
      (.ok (if (store.get? id).isSome then .nothing else .noWorkspace), (store.delete id).2) := by
  have isFound : (store.delete id).1 = (store.get? id).isSome :=
    rfl
  unfold deleteWorkspace
  split
  · next after deleted =>
      rw [← isFound, deleted]
      rfl
  · next after deleted =>
      rw [← isFound, deleted]
      rfl

theorem servedAlike_deleteWorkspace
    (agree : store.AgreeOn settings id ledgers twin) :
    ServedAlike settings id ledgers store (deleteWorkspace store id) (deleteWorkspace twin id) := by
  have isThere : (store.get? id).isSome = (twin.get? id).isSome := by
    rw [← Option.isSome_map, agree.sameContents, Option.isSome_map]
  rw [deleteWorkspace_eq, deleteWorkspace_eq, isThere]
  refine ⟨rfl, fun other differs => ?_, ledgers, le_rfl, ?_⟩
  · rw [WorkspaceStore.get?_delete, if_neg differs.symm]
  · refine ⟨agree.sound.delete id, agree.twinSound.delete id, ?_⟩
    rw [WorkspaceStore.get?_delete, WorkspaceStore.get?_delete, if_pos rfl, if_pos rfl]

theorem servedAlike_operate
    (agree : store.AgreeOn settings id ledgers twin)
    (drawAlike : DrawAlike store twin)
    {operation : Operation}
    (agrees : operation.Agrees settings)
    (request : Request) :
    ServedAlike settings id ledgers store (operate store id operation request)
      (operate twin id operation request) := by
  unfold operate
  split
  · exact .unchanged agree _
  · next action prepared =>
      have sameContents := agree.sameContents
      cases found : store.get? id with
      | none =>
          rw [found] at sameContents
          rw [Option.map_eq_none_iff.mp sameContents.symm]
          exact .unchanged agree _
      | some workspace =>
          rw [found] at sameContents
          obtain ⟨other, otherFound, isSame⟩ := Option.map_eq_some_iff.mp sameContents.symm
          rw [otherFound]
          refine .perform agree.sound agree.twinSound ?_ (agrees request action prepared ledgers)
          refine
            ⟨agree.sound.session found, agree.twinSound.session otherFound,
              agree.sound.keyed id workspace found, agree.twinSound.keyed id other otherFound, ?_⟩
          rw [Session.holdings, Session.holdings, drawAlike.nodes, isSame]

theorem servedAlike_respondAbout
    (agree : store.AgreeOn settings id ledgers twin)
    (drawAlike : DrawAlike store twin)
    (part : WorkspacePart)
    (request : Request) :
    ServedAlike settings id ledgers store (respondAbout settings store id part request)
      (respondAbout settings twin id part request) := by
  unfold respondAbout
  split
  · exact servedAlike_deleteWorkspace agree
  · split
    · next operation isOperation =>
        exact
          servedAlike_operate agree drawAlike
            (part.agrees_operations operation (List.mem_of_find?_eq_some isOperation)) request
    · exact .unchanged agree _

/-- The workspace that a request concerns: the one that it names, or creates with a number. -/
def concerned (request : Request) (workspaces : Nat) : Option String :=
  match resourceAt request.path with
  | some (.workspace id _) => some id
  | some .workspaces =>
      if request.method = "POST" then some (WorkspaceStore.workspaceId workspaces) else none
  | _ => none

/-- A request that concerns a workspace is served alike by stores that agree on it. -/
theorem servedAlike_respondInFull
    (agree : store.AgreeOn settings id ledgers twin)
    (drawAlike : DrawAlike store twin)
    {request : Request}
    (concerns : concerned request store.supply.workspaces = some id) :
    ServedAlike settings id ledgers store (respondInFull settings store request)
      (respondInFull settings twin request) := by
  unfold respondInFull
  unfold concerned at concerns
  split
  · next named =>
      rw [named] at concerns
      exact absurd concerns nofun
  · next named =>
      rw [named] at concerns
      exact absurd concerns nofun
  · next named =>
      rw [named] at concerns
      exact absurd concerns nofun
  · next named =>
      rw [named] at concerns
      dsimp only at concerns
      split at concerns
      · next isPost =>
          rw [if_pos isPost, if_pos isPost]
          exact servedAlike_createWorkspace agree drawAlike (Option.some.inj concerns)
      · exact absurd concerns nofun
  · next key part named =>
      rw [named] at concerns
      cases concerns
      exact servedAlike_respondAbout agree drawAlike part request

/-- A request that concerns no workspace leaves the store alone. -/
theorem respondInFull_of_concerns_none
    {request : Request}
    (concerns : concerned request store.supply.workspaces = none) :
    (respondInFull settings store request).2 = store := by
  unfold respondInFull
  unfold concerned at concerns
  split
  · rfl
  · rfl
  · rfl
  · next named =>
      rw [named] at concerns
      dsimp only at concerns
      split at concerns
      · exact absurd concerns nofun
      · next isNoPost =>
          rw [if_neg isNoPost]
  · next key part named =>
      rw [named] at concerns
      exact absurd concerns nofun

/-! ## Requests in turn -/

/--
A request, and the numbers that identifiers are drawn with when it arrives. Identifiers are drawn at
random, so any numbers may come with any request.
-/
structure Arrival where
  request : Request
  nodes : Nat
  workspaces : Nat

namespace Arrival

/-- The arrival concerns a workspace. -/
def concerns (id : String) (arrival : Arrival) : Bool :=
  concerned arrival.request arrival.workspaces = some id

/-- The store when the request arrives. -/
def meets (arrival : Arrival) (store : WorkspaceStore) : WorkspaceStore :=
  { store with
    supply := { store.supply with nodes := arrival.nodes, workspaces := arrival.workspaces } }

/-- The answer to the request. -/
def answer (settings : Settings) (store : WorkspaceStore) (arrival : Arrival) : Answer :=
  respond settings (arrival.meets store) arrival.request

end Arrival

/-- Requests that arrive one after the other, and how they are answered. -/
def exchanges (settings : Settings) :
    WorkspaceStore → List Arrival → List (Arrival × Outcome Response)
  | _, [] => []
  | store, arrival :: rest =>
      (arrival, (arrival.answer settings store).1) ::
        exchanges settings (arrival.answer settings store).2 rest

/-- Requests with the numbers that a store has for them when they are made one after the other. -/
def arrivals (settings : Settings) : WorkspaceStore → List Request → List Arrival
  | _, [] => []
  | store, request :: rest =>
      ⟨request, store.supply.nodes, store.supply.workspaces⟩ ::
        arrivals settings (respond settings store request).2 rest

/-- How requests are answered that are made one after the other. -/
def outcomes (settings : Settings) : WorkspaceStore → List Request → List (Outcome Response)
  | _, [] => []
  | store, request :: rest =>
      (respond settings store request).1 ::
        outcomes settings (respond settings store request).2 rest

/-- Requests that arrive with the numbers that a store has for them are answered as they are. -/
theorem exchanges_arrivals
    (settings : Settings)
    (store : WorkspaceStore)
    (requests : List Request) :
    exchanges settings store (arrivals settings store requests) =
      (arrivals settings store requests).zip (outcomes settings store requests) := by
  induction requests generalizing store with
  | nil =>
      rfl
  | cons request rest inductionHypothesis =>
      exact congrArg _ (inductionHypothesis _)

namespace Arrival

/-- The numbers of an arrival make stores draw alike, and change nothing that they hold. -/
theorem agreeOn_meets
    (agree : store.AgreeOn settings id ledgers twin)
    (arrival : Arrival) :
    (arrival.meets store).AgreeOn settings id ledgers (arrival.meets twin) :=
  ⟨⟨agree.sound.consistent, agree.sound.held, agree.sound.remembers, agree.sound.keyed⟩,
    ⟨agree.twinSound.consistent, agree.twinSound.held, agree.twinSound.remembers,
      agree.twinSound.keyed⟩,
    agree.sameContents⟩

/-- An arrival that concerns a workspace is answered alike, and leaves stores that agree on it. -/
theorem answer_of_concerns
    (agree : store.AgreeOn settings id ledgers twin)
    {arrival : Arrival}
    (concerns : arrival.concerns id) :
    (arrival.answer settings store).1 = (arrival.answer settings twin).1 ∧
      ∃ final, (arrival.answer settings store).2.AgreeOn settings id final
        (arrival.answer settings twin).2 := by
  have served :=
    servedAlike_respondInFull (arrival.agreeOn_meets agree) ⟨rfl, rfl⟩ (of_decide_eq_true concerns)
  obtain ⟨final, -, agreeAfter⟩ := served.agree
  rw [answer, answer, respond_eq, respond_eq, served.sameOutcome]
  exact ⟨rfl, final, agreeAfter⟩

/-- An arrival that does not concern a workspace makes no difference to what is stored for it. -/
theorem agreeOn_of_not_concerns
    (agree : store.AgreeOn settings id ledgers twin)
    {arrival : Arrival}
    (concernsOther : ¬arrival.concerns id) :
    ∃ final, (arrival.answer settings store).2.AgreeOn settings id final twin := by
  have meets := arrival.agreeOn_meets agree
  rw [answer, respond_eq]
  cases concerns : concerned arrival.request (arrival.meets store).supply.workspaces with
  | none =>
      rw [respondInFull_of_concerns_none concerns]
      exact ⟨ledgers, meets.sound, agree.twinSound, agree.sameContents⟩
  | some other =>
      have differs : id ≠ other := by
        rintro rfl
        exact concernsOther (decide_eq_true concerns)
      have served :=
        servedAlike_respondInFull (.refl meets.sound other) ⟨rfl, rfl⟩ concerns
      obtain ⟨final, -, agreeAfter⟩ := served.agree
      refine ⟨(final.1, ledgers.2), agreeAfter.sound, agree.twinSound, ?_⟩
      rw [served.spares id differs]
      exact agree.sameContents

end Arrival

/-- Of all exchanges, those that concern a workspace are those that there are without the others. -/
theorem filter_exchanges
    (agree : store.AgreeOn settings id ledgers twin)
    (arrivals : List Arrival) :
    (exchanges settings store arrivals).filter (fun exchange => exchange.1.concerns id) =
      exchanges settings twin (arrivals.filter (Arrival.concerns id)) := by
  induction arrivals generalizing store twin ledgers with
  | nil =>
      rfl
  | cons arrival rest inductionHypothesis =>
      by_cases concerns : arrival.concerns id
      · obtain ⟨sameOutcome, final, agreeAfter⟩ := arrival.answer_of_concerns agree concerns
        rw [exchanges, List.filter_cons, if_pos concerns, inductionHypothesis agreeAfter,
          sameOutcome, List.filter_cons_of_pos concerns, exchanges]
      · obtain ⟨final, agreeAfter⟩ := arrival.agreeOn_of_not_concerns agree concerns
        rw [exchanges, List.filter_cons, if_neg concerns, inductionHypothesis agreeAfter,
          List.filter_cons_of_neg concerns]

/--
Among any requests to a store, those that concern a workspace, its creation and deletion included,
are answered as if only they had been made: with the same identifiers drawn for them, every one gets
the same response or fails with the same fault, whatever versions the snapshots get. The identifiers
may be drawn with any numbers, as with those that a store has for requests that are made one after
the other.
-/
theorem workspaces_do_not_interfere
    (settings : Settings) :
    (∀ (supply alone : Supply) (id : String) (arrived : List Arrival),
      (exchanges settings { supply } arrived).filter (fun exchange => exchange.1.concerns id) =
        exchanges settings { supply := alone } (arrived.filter (Arrival.concerns id))) ∧
    ∀ requests : List Request,
      exchanges settings {} (arrivals settings {} requests) =
        (arrivals settings {} requests).zip (outcomes settings {} requests) := by
  refine ⟨fun supply alone id arrived => ?_, exchanges_arrivals settings {}⟩
  have agree : WorkspaceStore.AgreeOn settings id (∅, ∅) { supply } { supply := alone } :=
    ⟨.empty settings supply, .empty settings alone, rfl⟩
  exact filter_exchanges agree arrived

end Service

end Tabular
