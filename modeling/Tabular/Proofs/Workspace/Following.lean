import Tabular.Proofs.Workspace.Ledger

namespace Tabular

/-!
# Actions that follow the contents

An action follows a plain computation when in every sound session whose workspace has given contents
it answers what the computation answers, or fails as it does, and leaves a sound session. Answers
are compared by a relation that may speak of the ledger, so that a snapshot is compared with the
table that it shows. What links of a chain follow, the chain follows; and an answer that is taken
from the memo or the cache follows what it would take to compute it.
-/

/--
The action ends as the plain computation does: with a related answer and the changed contents, or
with the same fault and the contents that were there.
-/
inductive Settles {α β : Type} (related : α → β → Prop) (contents : Contents)
    (change : β → Contents) (after : Contents) : Outcome α → Outcome β → Prop where
  | answered {value : α} {answer : β} (isRelated : related value answer)
      (changed : after = change answer) :
      Settles related contents change after (.ok value) (.ok answer)
  | failed {fault : Fault} (unchanged : after = contents) :
      Settles related contents change after (.error fault) (.error fault)

/-- Images of related answers settle where the answers do. -/
theorem Settles.map
    {α β γ δ : Type}
    {related : α → β → Prop}
    {imageRelated : γ → δ → Prop}
    {contents after : Contents}
    {change : β → Contents}
    {imageChange : δ → Contents}
    {outcome : Outcome α}
    {plain : Outcome β}
    {image : α → γ}
    {plainImage : β → δ}
    (settled : Settles related contents change after outcome plain)
    (sameChange : ∀ answer, imageChange (plainImage answer) = change answer)
    (imagesRelated : ∀ value answer, related value answer →
      imageRelated (image value) (plainImage answer)) :
    Settles imageRelated contents imageChange after (outcome.map image)
      (plainImage <$> plain) := by
  cases settled with
  | answered isRelated changed =>
      exact .answered (imagesRelated _ _ isRelated)
        (changed.trans (sameChange _).symm)
  | failed unchanged =>
      exact .failed unchanged

/-- A related answer is that of the plain computation. -/
theorem Settles.knowing
    {α β : Type}
    {related : α → β → Prop}
    {contents after : Contents}
    {change : β → Contents}
    {outcome : Outcome α}
    {plain : Outcome β}
    (settled : Settles related contents change after outcome plain) :
    Settles (fun value answer => related value answer ∧ plain = .ok answer)
      contents change after outcome plain := by
  cases settled with
  | answered isRelated changed =>
      exact .answered ⟨isRelated, rfl⟩ changed
  | failed unchanged =>
      exact .failed unchanged

namespace Action

variable {α β γ δ : Type}

/--
The action follows the plain computation wherever at least the ledger has been issued. An answer of
the computation tells what the contents are afterwards.
-/
def Follows (settings : Settings) (ledger : Ledger) (contents : Contents) (action : Action α)
    (plain : Outcome β) (change : β → Contents) (related : Ledger → α → β → Prop) : Prop :=
  ∀ wider : Ledger, ledger ⊆ wider →
    ∀ session : Session, session.Sound settings wider →
      session.workspace.contents = contents →
        ∃ final : Ledger, wider ⊆ final ∧
          (action.perform session).2.Sound settings final ∧
          (action.perform session).2.supply.nodes = session.supply.nodes ∧
          Settles (related final) contents change
            (action.perform session).2.workspace.contents
            (action.perform session).1 plain

/-- The action follows the plain computation and leaves the contents as they are. -/
abbrev Tells (settings : Settings) (ledger : Ledger) (contents : Contents) (action : Action α)
    (plain : Outcome β) (related : Ledger → α → β → Prop) : Prop :=
  action.Follows settings ledger contents plain (fun _ => contents) related

/-- The answers are the same. -/
def Same (_ : Ledger) (value answer : α) : Prop :=
  value = answer

variable {settings : Settings} {ledger : Ledger} {contents : Contents}

namespace Follows

/-! ## Chains -/

/-- A chain follows what its links follow. -/
theorem bind
    {first : Action α}
    {plainFirst : Outcome β}
    {related : Ledger → α → β → Prop}
    {next : α → Action γ}
    {plainNext : β → Outcome δ}
    {change : δ → Contents}
    {finallyRelated : Ledger → γ → δ → Prop}
    (firstTells : first.Tells settings ledger contents plainFirst related)
    (nextFollows : ∀ wider, ledger ⊆ wider →
      ∀ value answer, related wider value answer →
        (next value).Follows settings wider contents (plainNext answer) change
          finallyRelated) :
    (first >>= next).Follows settings ledger contents
      (plainFirst >>= plainNext) change finallyRelated := by
  intro wider grows session sound hasContents
  obtain ⟨middle, growsOn, soundAfter, sameNodes, settled⟩ :=
    firstTells wider grows session sound hasContents
  rcases performed : first.perform session with ⟨outcome, after⟩
  rw [performed] at soundAfter sameNodes settled
  cases settled with
  | answered isRelated unchanged =>
      rw [perform_bind_of_ok performed]
      obtain ⟨final, growsFinally, soundFinally, nodes, settled⟩ :=
        nextFollows middle (grows.trans growsOn) _ _ isRelated middle subset_rfl
          after soundAfter unchanged
      exact
        ⟨final, growsOn.trans growsFinally, soundFinally,
          nodes.trans sameNodes, settled⟩
  | failed unchanged =>
      rw [perform_bind_of_error performed]
      exact ⟨middle, growsOn, soundAfter, sameNodes, .failed unchanged⟩

theorem pure
    {value : α}
    {answer : β}
    {related : Ledger → α → β → Prop}
    (isRelated : ∀ wider, ledger ⊆ wider → related wider value answer) :
    (Pure.pure value : Action α).Tells settings ledger contents (.ok answer)
      related :=
  fun wider grows _ sound hasContents =>
    ⟨wider, subset_rfl, sound, rfl,
      .answered (isRelated wider grows) hasContents⟩

theorem throw
    {change : β → Contents}
    {related : Ledger → α → β → Prop}
    (fault : Fault) :
    (MonadExcept.throw fault : Action α).Follows settings ledger contents
      (.error fault) change related :=
  fun wider _ _ sound hasContents =>
    ⟨wider, subset_rfl, sound, rfl, .failed hasContents⟩

theorem ofOutcome
    (outcome : Outcome α) :
    (Action.ofOutcome outcome).Tells settings ledger contents outcome Same := by
  intro wider _ session sound hasContents
  rw [perform_ofOutcome]
  refine ⟨wider, subset_rfl, sound, rfl, ?_⟩
  cases outcome with
  | ok value =>
      exact .answered rfl hasContents
  | error fault =>
      exact .failed hasContents

/-- A chain that starts with a computation may use what that answers. -/
theorem ofOutcome_bind
    {outcome : Outcome α}
    {next : α → Action γ}
    {plainNext : α → Outcome δ}
    {change : δ → Contents}
    {related : Ledger → γ → δ → Prop}
    (nextFollows : ∀ value, outcome = .ok value →
      (next value).Follows settings ledger contents (plainNext value) change
        related) :
    (Action.ofOutcome outcome >>= next).Follows settings ledger contents
      (outcome >>= plainNext) change related := by
  cases outcome with
  | error fault =>
      exact throw fault
  | ok value =>
      exact nextFollows value rfl

/-- A chain that looks at the workspace first may use what the workspace holds. -/
theorem workspace_bind
    {next : Workspace → Action α}
    {plain : Outcome β}
    {change : β → Contents}
    {related : Ledger → α → β → Prop}
    (nextFollows : ∀ wider, ledger ⊆ wider →
      ∀ workspace : Workspace, workspace.Held wider →
        workspace.contents = contents →
          (next workspace).Follows settings wider contents plain change
            related) :
    (Action.workspace >>= next).Follows settings ledger contents plain change
      related := by
  intro wider grows session sound hasContents
  rw [perform_bind_of_ok (perform_workspace session)]
  exact nextFollows wider grows session.workspace sound.held hasContents wider
    subset_rfl session sound hasContents

theorem map
    {action : Action α}
    {plain : Outcome β}
    {change : β → Contents}
    {imageChange : δ → Contents}
    {related : Ledger → α → β → Prop}
    {image : α → γ}
    {plainImage : β → δ}
    {imageRelated : Ledger → γ → δ → Prop}
    (follows : action.Follows settings ledger contents plain change related)
    (sameChange : ∀ answer, imageChange (plainImage answer) = change answer)
    (imagesRelated : ∀ wider value answer, related wider value answer →
      imageRelated wider (image value) (plainImage answer)) :
    (image <$> action).Follows settings ledger contents (plainImage <$> plain)
      imageChange imageRelated := by
  intro wider grows session sound hasContents
  obtain ⟨final, growsOn, soundAfter, sameNodes, settled⟩ :=
    follows wider grows session sound hasContents
  rw [perform_map]
  exact
    ⟨final, growsOn, soundAfter, sameNodes,
      settled.map sameChange (imagesRelated final)⟩

theorem imp
    {action : Action α}
    {plain : Outcome β}
    {change : β → Contents}
    {related weaker : Ledger → α → β → Prop}
    (follows : action.Follows settings ledger contents plain change related)
    (weakens : ∀ wider value answer,
      related wider value answer → weaker wider value answer) :
    action.Follows settings ledger contents plain change weaker := by
  have ofImage :
      (id <$> action).Follows settings ledger contents (id <$> plain) change
        weaker :=
    follows.map (fun _ => rfl) weakens
  rwa [id_map, id_map] at ofImage

/-- An answer may be known to be that of the plain computation. -/
theorem knowing
    {action : Action α}
    {plain : Outcome β}
    {change : β → Contents}
    {related : Ledger → α → β → Prop}
    (follows : action.Follows settings ledger contents plain change related) :
    action.Follows settings ledger contents plain change
      fun wider value answer =>
        related wider value answer ∧ plain = .ok answer := by
  intro wider grows session sound hasContents
  obtain ⟨final, growsOn, soundAfter, sameNodes, settled⟩ :=
    follows wider grows session sound hasContents
  exact ⟨final, growsOn, soundAfter, sameNodes, settled.knowing⟩

theorem mapValue
    {action : Action α}
    {plain : Outcome β}
    {change : β → Contents}
    {related : Ledger → α → β → Prop}
    {image : α → γ}
    {imageRelated : Ledger → γ → β → Prop}
    (follows : action.Follows settings ledger contents plain change related)
    (imagesRelated : ∀ wider value answer, related wider value answer →
      imageRelated wider (image value) answer) :
    (image <$> action).Follows settings ledger contents plain change
      imageRelated := by
  have ofImage :
      (image <$> action).Follows settings ledger contents (id <$> plain) change
        imageRelated :=
    follows.map (fun _ => rfl) imagesRelated
  rwa [id_map] at ofImage

theorem foldlM
    {step : β → α → Action β}
    {plainStep : β → α → Outcome β}
    (stepTells : ∀ state element,
      (step state element).Tells settings ledger contents
        (plainStep state element) Same)
    (initial : β)
    (elements : List α) :
    (elements.foldlM step initial).Tells settings ledger contents
      (elements.foldlM plainStep initial) Same := by
  induction elements generalizing initial with
  | nil =>
      exact pure fun _ _ => rfl
  | cons element rest inductionHypothesis =>
      rw [List.foldlM_cons, List.foldlM_cons]
      refine (stepTells initial element).bind ?_
      rintro wider grows state _ rfl
      intro wider' grows'
      exact inductionHypothesis state wider' (grows.trans grows')

/-- Going through a list follows the plain way through a list of related elements. -/
theorem mapM
    {step : α → Action γ}
    {plainStep : β → Outcome γ}
    {elements : List α}
    {others : List β}
    (stepTells : List.Forall₂
      (fun element other =>
        (step element).Tells settings ledger contents (plainStep other) Same)
      elements others) :
    (elements.mapM step).Tells settings ledger contents
      (others.mapM plainStep) Same := by
  induction stepTells with
  | nil =>
      exact pure fun _ _ => rfl
  | cons firstTells _ inductionHypothesis =>
      rw [List.mapM_cons, List.mapM_cons]
      refine firstTells.bind ?_
      rintro wider grows value _ rfl
      have restTells :
          (List.mapM step _).Tells settings wider contents
            (List.mapM plainStep _) Same :=
        fun wider' grows' =>
          inductionHypothesis wider' (grows.trans grows')
      refine restTells.bind ?_
      rintro wider' _ values _ rfl
      exact pure fun _ _ => rfl

end Follows

end Action

end Tabular
