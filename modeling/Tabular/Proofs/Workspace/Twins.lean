import Mathlib.Data.Set.Basic
import Tabular.Proofs.Workspace.Identity
import Tabular.Proofs.Workspace.Refinement

namespace Tabular

/-!
# Twin sessions

Two sessions are twins when their workspaces have the same identifier and hold the same. The
versions of their snapshots may differ, and so may all that they remember. Two actions agree when
they answer alike in all twins and leave twins. Since views and edits follow the contents of a
workspace, every action agrees with itself: no answer tells which versions there are.
-/

/-- The ledgers of two sessions. -/
abbrev Ledgers :=
  Ledger × Ledger

/-- The sessions are sound, and their workspaces have an identifier and hold the same. -/
structure Session.Twins (settings : Settings) (id : String) (ledgers : Ledgers)
    (session twin : Session) : Prop where
  sound : session.Sound settings ledgers.1
  twinSound : twin.Sound settings ledgers.2
  id_eq : session.workspace.id = id
  twinId_eq : twin.workspace.id = id
  sameHoldings : session.holdings = twin.holdings

/-- The workspaces have the same identifier and hold the same, in issued snapshots. -/
structure Workspace.Twins (ledgers : Ledgers) (workspace twin : Workspace) : Prop where
  held : workspace.Held ledgers.1
  twinHeld : twin.Held ledgers.2
  sameId : workspace.id = twin.id
  sameContents : workspace.contents = twin.contents

/-- The snapshots have been issued and show the same table. -/
structure Snapshot.Twins (ledgers : Ledgers) (snapshot twin : Snapshot) : Prop where
  issued : snapshot ∈ ledgers.1
  twinIssued : twin ∈ ledgers.2
  sameTable : snapshot.table = twin.table

theorem Snapshot.Twins.mono
    {ledgers wider : Ledgers}
    {snapshot twin : Snapshot}
    (twins : snapshot.Twins ledgers twin)
    (grow : ledgers ≤ wider) :
    snapshot.Twins wider twin :=
  ⟨grow.1 twins.issued, grow.2 twins.twinIssued, twins.sameTable⟩

/-- The outcomes are related answers, or the same fault. -/
inductive Outcome.Alike {α : Type} (related : α → α → Prop) : Outcome α → Outcome α → Prop where
  | answered {value twin : α} (isRelated : related value twin) :
      Alike related (.ok value) (.ok twin)
  | failed (fault : Fault) :
      Alike related (.error fault) (.error fault)

theorem Outcome.Alike.mono
    {α : Type}
    {related weaker : α → α → Prop}
    {outcome twin : Outcome α}
    (alike : Outcome.Alike related outcome twin)
    (weakens : ∀ value twin, related value twin → weaker value twin) :
    Outcome.Alike weaker outcome twin := by
  cases alike with
  | answered isRelated =>
      exact .answered (weakens _ _ isRelated)
  | failed fault =>
      exact .failed fault

/-- Outcomes with equal answers are equal. -/
theorem Outcome.Alike.eq
    {α : Type}
    {outcome twin : Outcome α}
    (alike : Outcome.Alike (fun value twin => value = twin) outcome twin) :
    outcome = twin := by
  cases alike with
  | answered same =>
      exact congrArg Except.ok same
  | failed fault =>
      rfl

/-- Outcomes with the same images are alike. -/
theorem Outcome.alike_of_map_eq
    {α β : Type}
    {image : α → β}
    {outcome twin : Outcome α}
    (same : outcome.map image = twin.map image) :
    Outcome.Alike (fun value twin => image value = image twin) outcome twin := by
  cases outcome with
  | error fault =>
      cases twin with
      | error twinFault =>
          cases same
          exact .failed fault
      | ok twinValue =>
          exact absurd same nofun
  | ok value =>
      cases twin with
      | error twinFault =>
          exact absurd same nofun
      | ok twinValue =>
          exact .answered (Except.ok.inj same)

/-- Outcomes that settle on the same computation are alike. -/
theorem Settles.alike
    {α β : Type}
    {related twinRelated : α → β → Prop}
    {contents twinContents after twinAfter : Contents}
    {change twinChange : β → Contents}
    {outcome twin : Outcome α}
    {plain : Outcome β}
    (settled : Settles related contents change after outcome plain)
    (twinSettled : Settles twinRelated twinContents twinChange twinAfter twin plain) :
    Outcome.Alike (fun value twin => ∃ answer, related value answer ∧ twinRelated twin answer)
      outcome twin := by
  cases settled with
  | answered isRelated changed =>
      cases twinSettled with
      | answered twinIsRelated _ =>
          exact .answered ⟨_, isRelated, twinIsRelated⟩
  | failed unchanged =>
      cases twinSettled with
      | failed _ =>
          exact .failed _

/-- A computation that leaves the contents as they are leaves them so. -/
theorem Settles.unchanged
    {α β : Type}
    {related : α → β → Prop}
    {contents after : Contents}
    {outcome : Outcome α}
    {plain : Outcome β}
    (settled : Settles related contents (fun _ => contents) after outcome plain) :
    after = contents := by
  cases settled with
  | answered _ unchanged =>
      exact unchanged
  | failed unchanged =>
      exact unchanged

namespace Action

variable {α β : Type}

/-- Wherever at least the ledgers have been issued, the actions leave twins and answer alike. -/
def Agrees (settings : Settings) (ledgers : Ledgers) (action other : Action α)
    (related : Ledgers → α → α → Prop) : Prop :=
  ∀ wider : Ledgers, ledgers ≤ wider →
    ∀ (id : String) (session twin : Session), session.Twins settings id wider twin →
      ∃ final : Ledgers, wider ≤ final ∧
        (action.perform session).2.Twins settings id final (other.perform twin).2 ∧
        Outcome.Alike (related final) (action.perform session).1 (other.perform twin).1

/-- The answers are equal. -/
def Equal (_ : Ledgers) (value twin : α) : Prop :=
  value = twin

variable {settings : Settings} {ledgers : Ledgers}

namespace Agrees

/-! ## Chains -/

theorem bind
    {first otherFirst : Action α}
    {related : Ledgers → α → α → Prop}
    {next otherNext : α → Action β}
    {finallyRelated : Ledgers → β → β → Prop}
    (firstAgrees : first.Agrees settings ledgers otherFirst related)
    (nextAgrees : ∀ wider, ledgers ≤ wider → ∀ value twin, related wider value twin →
      (next value).Agrees settings wider (otherNext twin) finallyRelated) :
    (first >>= next).Agrees settings ledgers (otherFirst >>= otherNext) finallyRelated := by
  intro wider grow id session twin twins
  obtain ⟨middle, growOn, twinsAfter, alike⟩ := firstAgrees wider grow id session twin twins
  rcases performed : first.perform session with ⟨outcome, after⟩
  rcases otherPerformed : otherFirst.perform twin with ⟨otherOutcome, otherAfter⟩
  rw [performed, otherPerformed] at twinsAfter alike
  cases alike with
  | answered isRelated =>
      rw [perform_bind_of_ok performed, perform_bind_of_ok otherPerformed]
      obtain ⟨final, growFinally, twinsFinally, alikeFinally⟩ :=
        nextAgrees middle (grow.trans growOn) _ _ isRelated middle le_rfl id after otherAfter
          twinsAfter
      exact ⟨final, growOn.trans growFinally, twinsFinally, alikeFinally⟩
  | failed fault =>
      rw [perform_bind_of_error performed, perform_bind_of_error otherPerformed]
      exact ⟨middle, growOn, twinsAfter, .failed fault⟩

/-- After equal answers it is enough that the same goes on. -/
theorem bind_equal
    {first otherFirst : Action α}
    {next otherNext : α → Action β}
    {finallyRelated : Ledgers → β → β → Prop}
    (firstAgrees : first.Agrees settings ledgers otherFirst Equal)
    (nextAgrees : ∀ wider, ledgers ≤ wider → ∀ value,
      (next value).Agrees settings wider (otherNext value) finallyRelated) :
    (first >>= next).Agrees settings ledgers (otherFirst >>= otherNext) finallyRelated := by
  refine firstAgrees.bind ?_
  rintro wider grow value _ rfl
  exact nextAgrees wider grow value

theorem imp
    {action other : Action α}
    {related weaker : Ledgers → α → α → Prop}
    (agrees : action.Agrees settings ledgers other related)
    (weakens : ∀ wider value twin, related wider value twin → weaker wider value twin) :
    action.Agrees settings ledgers other weaker := by
  intro wider grow id session twin twins
  obtain ⟨final, growOn, twinsAfter, alike⟩ := agrees wider grow id session twin twins
  exact ⟨final, growOn, twinsAfter, alike.mono (weakens final)⟩

theorem pure
    {value twin : α}
    {related : Ledgers → α → α → Prop}
    (isRelated : ∀ wider, ledgers ≤ wider → related wider value twin) :
    (Pure.pure value : Action α).Agrees settings ledgers (Pure.pure twin) related :=
  fun wider grow _ _ _ twins => ⟨wider, le_rfl, twins, .answered (isRelated wider grow)⟩

theorem pure_equal
    (value : α) :
    (Pure.pure value : Action α).Agrees settings ledgers (Pure.pure value) Equal :=
  pure fun _ _ => rfl

theorem ofOutcome
    (outcome : Outcome α) :
    (Action.ofOutcome outcome).Agrees settings ledgers (Action.ofOutcome outcome) Equal := by
  intro wider _ id session twin twins
  rw [perform_ofOutcome, perform_ofOutcome]
  refine ⟨wider, le_rfl, twins, ?_⟩
  cases outcome with
  | ok value =>
      exact .answered rfl
  | error fault =>
      exact .failed fault

/-- Twins look at twin workspaces. -/
theorem workspace :
    Action.workspace.Agrees settings ledgers Action.workspace
      fun wider workspace twin => workspace.Twins wider twin :=
  fun wider _ _ _ _ twins =>
    ⟨wider, le_rfl, twins,
      .answered
        ⟨twins.sound.held, twins.twinSound.held, twins.id_eq.trans twins.twinId_eq.symm,
          congrArg Holdings.contents twins.sameHoldings⟩⟩

/-- Twins draw the same identifiers. -/
theorem ofNaming
    (naming : Naming α) :
    (Action.ofNaming naming).Agrees settings ledgers (Action.ofNaming naming)
      fun _ value twin =>
        value = twin ∧ ∃ number next, naming.run number = .ok (value, next) := by
  intro wider _ id session twin twins
  have sameNodes : session.supply.nodes = twin.supply.nodes :=
    congrArg Holdings.nodes twins.sameHoldings
  cases drawn : naming.run session.supply.nodes with
  | error fault =>
      have twinDrawn := drawn
      rw [sameNodes] at twinDrawn
      rw [perform_ofNaming_of_error drawn, perform_ofNaming_of_error twinDrawn]
      exact ⟨wider, le_rfl, twins, .failed fault⟩
  | ok named =>
      obtain ⟨value, nodes⟩ := named
      have twinDrawn := drawn
      rw [sameNodes] at twinDrawn
      rw [perform_ofNaming_of_ok drawn, perform_ofNaming_of_ok twinDrawn]
      refine ⟨wider, le_rfl, ⟨?_, ?_, twins.id_eq, twins.twinId_eq, ?_⟩,
        .answered ⟨rfl, _, _, drawn⟩⟩
      · exact ⟨twins.sound.consistent, twins.sound.held, twins.sound.remembers⟩
      · exact ⟨twins.twinSound.consistent, twins.twinSound.held, twins.twinSound.remembers⟩
      · exact congrArg (fun holdings => { holdings with nodes }) twins.sameHoldings

/-- Going through lists of related elements. -/
theorem mapM
    {step : α → Action β}
    {elements others : List α}
    (stepAgrees : List.Forall₂
      (fun element other => (step element).Agrees settings ledgers (step other) Equal)
      elements others) :
    (elements.mapM step).Agrees settings ledgers (others.mapM step) Equal := by
  induction stepAgrees with
  | nil =>
      exact pure_equal []
  | cons firstAgrees _ inductionHypothesis =>
      rw [List.mapM_cons, List.mapM_cons]
      refine firstAgrees.bind_equal fun wider grow value => ?_
      have restAgrees : (List.mapM step _).Agrees settings wider (List.mapM step _) Equal :=
        fun further growOn => inductionHypothesis further (grow.trans growOn)
      exact restAgrees.bind_equal fun _ _ values => pure_equal (value :: values)

/-! ## Actions that follow the contents -/

/-- Actions that follow the same computation agree. -/
theorem of_tells
    {γ : Type}
    {action other : Action α}
    {plain : Contents → Outcome γ}
    {related : Ledger → α → γ → Prop}
    (tells : ∀ contents,
      action.Tells settings ledgers.1 contents (plain contents) related)
    (otherTells : ∀ contents,
      other.Tells settings ledgers.2 contents (plain contents) related)
    (keepsId : action.KeepsId)
    (otherKeepsId : other.KeepsId) :
    action.Agrees settings ledgers other fun wider value twin =>
      ∃ answer, related wider.1 value answer ∧ related wider.2 twin answer := by
  intro wider grow id session twin twins
  have sameContents : twin.workspace.contents = session.workspace.contents :=
    (congrArg Holdings.contents twins.sameHoldings).symm
  obtain ⟨final, grows, sound, sameNodes, settled⟩ :=
    tells session.workspace.contents wider.1 grow.1 session twins.sound rfl
  obtain ⟨twinFinal, twinGrows, twinSound, twinSameNodes, twinSettled⟩ :=
    otherTells session.workspace.contents wider.2 grow.2 twin twins.twinSound sameContents
  refine ⟨(final, twinFinal), ⟨grows, twinGrows⟩, ⟨sound, twinSound, ?_, ?_, ?_⟩, ?_⟩
  · rw [keepsId session, twins.id_eq]
  · rw [otherKeepsId twin, twins.twinId_eq]
  · have nodes_eq : session.supply.nodes = twin.supply.nodes :=
      congrArg Holdings.nodes twins.sameHoldings
    rw [Session.holdings, Session.holdings, sameNodes, twinSameNodes, nodes_eq,
      settled.unchanged, twinSettled.unchanged]
  · exact settled.alike twinSettled

/-- Actions that answer the same as one computation agree on their answers. -/
theorem of_tells_same
    {action other : Action α}
    {plain : Contents → Outcome α}
    (tells : ∀ contents, action.Tells settings ledgers.1 contents (plain contents) Same)
    (otherTells : ∀ contents, other.Tells settings ledgers.2 contents (plain contents) Same)
    (keepsId : action.KeepsId)
    (otherKeepsId : other.KeepsId) :
    action.Agrees settings ledgers other Equal := by
  refine (of_tells tells otherTells keepsId otherKeepsId).imp ?_
  rintro _ value twin ⟨answer, same, twinSame⟩
  exact same.trans twinSame.symm

/-- A read that answers what a computation answers is the same for both twins. -/
theorem of_read
    {action : Action α}
    {plain : Contents → Outcome α}
    (tells : ∀ ledger contents, action.Tells settings ledger contents (plain contents) Same)
    (keeps : action.Keeps) :
    action.Agrees settings ledgers action Equal :=
  of_tells_same (tells ledgers.1) (tells ledgers.2) (.of_keeps keeps) (.of_keeps keeps)

/-- An action that shows the table of a computation shows it to both twins. -/
theorem of_tells_shows
    {action : Action Snapshot}
    {plain : Contents → Outcome Table}
    (tells : ∀ ledger contents,
      action.Tells settings ledger contents (plain contents) Ledger.Shows)
    (keepsId : action.KeepsId) :
    action.Agrees settings ledgers action Snapshot.Twins := by
  refine (of_tells (tells ledgers.1) (tells ledgers.2) keepsId keepsId).imp ?_
  rintro _ snapshot twin ⟨table, shows, twinShows⟩
  exact ⟨shows.issued, twinShows.issued, shows.table_eq.trans twinShows.table_eq.symm⟩

/-- A plain edit does the same to both twins. -/
theorem of_edit
    (edit : Edit)
    (isPlain : edit.IsPlain)
    {action : Action α}
    {image : α → Answer}
    (isAction : edit.action settings = image <$> action)
    (keepsId : action.KeepsId) :
    action.Agrees settings ledgers action fun _ value twin => image value = image twin := by
  intro wider _ id session twin twins
  obtain ⟨final, grows, sound, effected⟩ := edit.realises_effect twins.sound isPlain
  obtain ⟨twinFinal, twinGrows, twinSound, twinEffected⟩ :=
    edit.realises_effect twins.twinSound isPlain
  have sameEffect :
      ((edit.action settings).perform session).1 = ((edit.action settings).perform twin).1 ∧
        ((edit.action settings).perform session).2.holdings =
          ((edit.action settings).perform twin).2.holdings := by
    rw [twins.sameHoldings] at effected
    exact Prod.mk.inj (effected.trans twinEffected.symm)
  rw [isAction, perform_map] at sound twinSound
  rw [isAction, perform_map, perform_map] at sameEffect
  refine
    ⟨(final, twinFinal), ⟨grows, twinGrows⟩, ⟨sound, twinSound, ?_, ?_, sameEffect.2⟩,
      Outcome.alike_of_map_eq sameEffect.1⟩
  · rw [keepsId session, twins.id_eq]
  · rw [keepsId twin, twins.twinId_eq]

/-- Snapshots of tables that the workspaces hold afterwards have been issued. -/
theorem held
    {action : Action Snapshot}
    (agrees : action.Agrees settings ledgers action fun _ snapshot twin =>
      Answer.ofSnapshot snapshot = Answer.ofSnapshot twin)
    (isHeld : ∀ {session after snapshot}, action.perform session = (.ok snapshot, after) →
      ∃ name, after.workspace.tables.find? name = some snapshot) :
    action.Agrees settings ledgers action Snapshot.Twins := by
  intro wider grow id session twin twins
  obtain ⟨final, growOn, twinsAfter, alike⟩ := agrees wider grow id session twin twins
  refine ⟨final, growOn, twinsAfter, ?_⟩
  rcases performed : action.perform session with ⟨outcome, after⟩
  rcases twinPerformed : action.perform twin with ⟨twinOutcome, twinAfter⟩
  rw [performed, twinPerformed] at twinsAfter alike
  cases alike with
  | answered sameTable =>
      obtain ⟨name, found⟩ := isHeld performed
      obtain ⟨twinName, twinFound⟩ := isHeld twinPerformed
      exact .answered
        ⟨twinsAfter.sound.held.tables.mem found, twinsAfter.twinSound.held.tables.mem twinFound,
          Answer.table.inj sameTable⟩
  | failed fault =>
      exact .failed fault

/-! ## Descriptions of snapshots -/

theorem types
    {snapshot twin : Snapshot}
    (twins : snapshot.Twins ledgers twin) :
    (Action.types settings snapshot).Agrees settings ledgers (Action.types settings twin)
      Equal := by
  refine
    of_tells_same (fun _ => Follows.types twins.issued) (fun _ => ?_) (.of_keeps (.types _ _))
      (.of_keeps (.types _ _))
  rw [twins.sameTable]
  exact Follows.types twins.twinIssued

theorem smartTypes
    {snapshot twin : Snapshot}
    (twins : snapshot.Twins ledgers twin) :
    (Action.smartTypes settings snapshot).Agrees settings ledgers
      (Action.smartTypes settings twin) Equal := by
  refine
    of_tells_same (fun _ => Follows.smartTypes twins.issued) (fun _ => ?_)
      (.of_keeps (.smartTypes _ _)) (.of_keeps (.smartTypes _ _))
  rw [twins.sameTable]
  exact Follows.smartTypes twins.twinIssued

end Agrees

end Action

end Tabular
