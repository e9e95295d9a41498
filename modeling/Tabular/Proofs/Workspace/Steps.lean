import Tabular.Proofs.Workspace.Operation

namespace Tabular

/-!
# The steps that actions are built of

An action draws numbers, looks at the workspace, and changes it in ways that are allowed. What all
allowed changes have in common therefore holds of the action. Two such facts are needed again and
again: a part of the workspace that no allowed change touches stays as it is, and since no action
asks for the identifier of its workspace, it answers the same under every other one.
-/

/-- The session under another identifier, and with another number for the next workspace. -/
def Session.under (session : Session) (id : String) (workspaces : Nat) : Session where
  supply := { session.supply with workspaces }
  workspace := { session.workspace with id }

namespace Action

/-- The action only draws numbers, looks at the workspace, and changes it in allowed ways. -/
inductive Within (allowed : (Workspace → Workspace) → Prop) : {α : Type} → Action α → Prop where
  | pure {α : Type} (value : α) :
      Within allowed (Pure.pure value : Action α)
  | throw {α : Type} (fault : Fault) :
      Within allowed (MonadExcept.throw fault : Action α)
  | look {α : Type} {next : Workspace → Action α}
      (ignoresId : ∀ (workspace : Workspace) (id : String),
        next { workspace with id } = next workspace)
      (nextWithin : ∀ workspace, Within allowed (next workspace)) :
      Within allowed (Action.workspace >>= next)
  | change {change : Workspace → Workspace} (isAllowed : allowed change) :
      Within allowed (Action.modifyWorkspace change)
  | freshVersion :
      Within allowed Action.freshVersion
  | ofNaming {α : Type} (naming : Naming α) :
      Within allowed (Action.ofNaming naming)
  | bind {α β : Type} {first : Action α} {next : α → Action β}
      (firstWithin : Within allowed first)
      (nextWithin : ∀ value, Within allowed (next value)) :
      Within allowed (first >>= next)

/-- Allowed changes do not depend on the identifier, and leave it as it is. -/
def IgnoresId (change : Workspace → Workspace) : Prop :=
  ∀ (workspace : Workspace) (id : String),
    change { workspace with id } = { change workspace with id }

namespace Within

variable {α β : Type} {allowed : (Workspace → Workspace) → Prop}

theorem ofOutcome
    (outcome : Outcome α) :
    (Action.ofOutcome outcome).Within allowed := by
  cases outcome with
  | ok value =>
      exact pure value
  | error fault =>
      exact throw fault

theorem map
    (image : α → β)
    {action : Action α}
    (within : action.Within allowed) :
    (image <$> action).Within allowed := by
  rw [← bind_pure_comp]
  exact within.bind fun value => pure (image value)

theorem newSnapshot
    (table : Table) :
    (Action.newSnapshot table).Within allowed :=
  freshVersion.bind fun _ => pure _

theorem derivedSnapshot
    (source : Snapshot)
    (table : Table) :
    (Action.derivedSnapshot source table).Within allowed :=
  freshVersion.bind fun _ => pure _

theorem foldlM
    {step : β → α → Action β}
    (stepWithin : ∀ state element, (step state element).Within allowed)
    (initial : β)
    (elements : List α) :
    (elements.foldlM step initial).Within allowed := by
  induction elements generalizing initial with
  | nil =>
      exact pure initial
  | cons element rest inductionHypothesis =>
      rw [List.foldlM_cons]
      exact (stepWithin initial element).bind inductionHypothesis

theorem mapM
    {step : α → Action β}
    (stepWithin : ∀ element, (step element).Within allowed)
    (elements : List α) :
    (elements.mapM step).Within allowed := by
  induction elements with
  | nil =>
      exact pure []
  | cons element rest inductionHypothesis =>
      rw [List.mapM_cons]
      exact (stepWithin element).bind fun _ => inductionHypothesis.bind fun _ => pure _

theorem mono
    {wider : (Workspace → Workspace) → Prop}
    {action : Action α}
    (within : action.Within allowed)
    (isWider : ∀ change, allowed change → wider change) :
    action.Within wider := by
  induction within with
  | pure value =>
      exact pure value
  | throw fault =>
      exact throw fault
  | look ignoresId _ inductionHypothesis =>
      exact look ignoresId inductionHypothesis
  | change isAllowed =>
      exact change (isWider _ isAllowed)
  | freshVersion =>
      exact freshVersion
  | ofNaming naming =>
      exact ofNaming naming
  | bind _ _ firstHypothesis nextHypothesis =>
      exact firstHypothesis.bind nextHypothesis

/-! ## What follows from the steps -/

/-- What every allowed change makes of a workspace from one that satisfies it, the action does. -/
theorem invariant
    (holds : Workspace → Prop)
    (preserved : ∀ change, allowed change → ∀ workspace, holds workspace → holds (change workspace))
    {action : Action α}
    (within : action.Within allowed)
    {session : Session}
    (before : holds session.workspace) :
    holds (action.perform session).2.workspace := by
  induction within generalizing session with
  | pure value =>
      exact before
  | throw fault =>
      exact before
  | look _ _ inductionHypothesis =>
      rw [perform_bind_of_ok (perform_workspace session)]
      exact inductionHypothesis session.workspace before
  | change isAllowed =>
      exact preserved _ isAllowed session.workspace before
  | freshVersion =>
      exact before
  | ofNaming naming =>
      rcases drawn : naming.run session.supply.nodes with fault | ⟨value, nodes⟩
      · rwa [perform_ofNaming_of_error drawn]
      · rwa [perform_ofNaming_of_ok drawn]
  | @bind _ _ first _ _ _ firstHypothesis nextHypothesis =>
      have middle := firstHypothesis before
      rcases performed : first.perform session with ⟨fault | value, after⟩
      · rw [perform_bind_of_error performed]
        rwa [performed] at middle
      · rw [performed] at middle
        rw [perform_bind_of_ok performed]
        exact nextHypothesis value middle

/-- A part of the workspace that no allowed change touches is the same afterwards. -/
theorem part_eq
    {γ : Type}
    (part : Workspace → γ)
    (untouched : ∀ change, allowed change → ∀ workspace, part (change workspace) = part workspace)
    {action : Action α}
    (within : action.Within allowed)
    (session : Session) :
    part (action.perform session).2.workspace = part session.workspace :=
  within.invariant (fun workspace => part workspace = part session.workspace)
    (fun _ isAllowed workspace same => (untouched _ isAllowed workspace).trans same) rfl

/-- Under another identifier the action answers the same and does the same to the workspace. -/
theorem perform_under
    (ignored : ∀ change, allowed change → IgnoresId change)
    {action : Action α}
    (within : action.Within allowed)
    (session : Session)
    (id : String)
    (workspaces : Nat) :
    action.perform (session.under id workspaces) =
      ((action.perform session).1, (action.perform session).2.under id workspaces) := by
  induction within generalizing session with
  | pure value =>
      rfl
  | throw fault =>
      rfl
  | look ignoresId _ inductionHypothesis =>
      rw [perform_bind_of_ok (perform_workspace _), perform_bind_of_ok (perform_workspace session)]
      rw [Session.under, ignoresId]
      exact inductionHypothesis session.workspace session
  | @change change isAllowed =>
      have same := ignored change isAllowed session.workspace id
      have changed :
          (Action.modifyWorkspace change).perform (session.under id workspaces) =
            (.ok (),
              { supply := { session.supply with workspaces }
                workspace := change { session.workspace with id } }) :=
        rfl
      rw [changed, same]
      rfl
  | freshVersion =>
      rfl
  | ofNaming naming =>
      have sameRun :
          naming.run (session.under id workspaces).supply.nodes =
            naming.run session.supply.nodes :=
        rfl
      rcases drawn : naming.run session.supply.nodes with fault | ⟨value, nodes⟩
      · rw [perform_ofNaming_of_error drawn, perform_ofNaming_of_error (sameRun.trans drawn)]
      · rw [perform_ofNaming_of_ok drawn, perform_ofNaming_of_ok (sameRun.trans drawn)]
        rfl
  | @bind _ _ first _ _ _ firstHypothesis nextHypothesis =>
      have renamed := firstHypothesis session
      rcases performed : first.perform session with ⟨fault | value, after⟩
      · rw [performed] at renamed
        rw [perform_bind_of_error performed, perform_bind_of_error renamed]
      · rw [performed] at renamed
        rw [perform_bind_of_ok performed, perform_bind_of_ok renamed]
        exact nextHypothesis value after

end Within

end Action

end Tabular
