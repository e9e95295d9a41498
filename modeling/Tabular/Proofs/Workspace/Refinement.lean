import Tabular.Proofs.Workspace.Editing

namespace Tabular

/-!
# Remembering changes no answer

The edits and the reads have their effects on what a session holds, and keep it sound. This makes a
workspace with its cache and its memo answer every run as the contents alone do. What is remembered,
what is dropped, and what has been looked at in between makes no difference to any answer.

Texts are sequences of characters here, and no surrogates stand in them. With surrogates that form a
pair, two filter trees could share the key under which their views are remembered.
-/

/-! ## Plain operations -/

/-- The edit brings no dates and moments into the filter tree. -/
def Edit.IsPlain : Edit → Prop
  | .addCondition _ _ _ value => value.isPlain
  | .updateNode _ changes => changes.ArePlain
  | .setFilterTree root => root.IsPlain
  | _ => True

instance : DecidablePred Edit.IsPlain
  | .addCondition _ _ _ value => inferInstanceAs (Decidable (value.isPlain = true))
  | .updateNode _ changes => inferInstanceAs (Decidable changes.ArePlain)
  | .setFilterTree root => inferInstanceAs (Decidable root.IsPlain)
  | .loadTable .. | .removeTable _ | .setActiveTable _ | .clear | .setJoins _
  | .setAlias .. | .addGroup .. | .removeNode _ | .setCaseSensitive _
  | .cleanColumn .. | .removeDuplicates _ | .fillEmpty .. => isTrue trivial

/-- The operation brings no dates and moments into the filter tree. -/
def Operation.IsPlain : Operation → Prop
  | .edit change => change.IsPlain
  | .read _ => True

instance : DecidablePred Operation.IsPlain
  | .edit change => inferInstanceAs (Decidable change.IsPlain)
  | .read _ => isTrue trivial

/-! ## Operations -/

/-- An action that settles on a look has the answer of the look and the contents that were there. -/
theorem Settles.eq_and_eq
    {α : Type}
    {contents after : Contents}
    {outcome plain : Outcome α}
    (settled : Settles Eq contents (fun _ => contents) after outcome plain) :
    outcome = plain ∧ after = contents := by
  cases settled with
  | answered same unchanged =>
      exact ⟨congrArg Except.ok same, unchanged⟩
  | failed unchanged =>
      exact ⟨rfl, unchanged⟩

/-- An action that settles on an edit commits it. -/
theorem Settles.commit
    {α : Type}
    {image : α → Answer}
    (holdings : Holdings)
    {after : Contents}
    {outcome : Outcome α}
    {plain : Outcome (Answer × Contents)}
    (settled :
      Settles (fun value answer => image value = answer.1) holdings.contents
        Prod.snd after outcome plain) :
    (outcome.map image, { holdings with contents := after }) =
      holdings.commit plain := by
  cases settled with
  | answered same changed =>
      rw [changed, Except.map, same]
      rfl
  | failed unchanged =>
      rw [unchanged]
      rfl

/-- A new group has no conditions. -/
theorem FilterNode.isPlain_newGroup
    {logic : Cell}
    {number next : Nat}
    {group : FilterNode}
    (drawn : (newGroup logic).run number = .ok (group, next)) :
    group.IsPlain := by
  obtain ⟨⟨chosen, after⟩, _, grouped⟩ := Outcome.bind_eq_ok_iff.mp drawn
  cases grouped
  exact fun _ member => absurd member List.not_mem_nil

/-- What the action does in a session is what happens to what the session holds. -/
def Action.Realises (settings : Settings) (ledger : Ledger) (session : Session)
    (action : Action Answer) (effect : Outcome Answer × Holdings) : Prop :=
  ∃ final : Ledger, ledger ⊆ final ∧
    (action.perform session).2.Sound settings final ∧
    ((action.perform session).1, (action.perform session).2.holdings) = effect

namespace Action.Realises

variable {α β : Type} {settings : Settings} {ledger : Ledger} {session : Session}

/-- An action that follows the contents leaves what is held as it is. -/
theorem of_tells
    (sound : session.Sound settings ledger)
    {action : Action Answer}
    {plain : Outcome Answer}
    (follows : action.Tells settings ledger session.workspace.contents plain
      Same) :
    action.Realises settings ledger session (plain, session.holdings) := by
  obtain ⟨final, grows, soundAfter, sameNodes, settled⟩ :=
    follows ledger subset_rfl session sound rfl
  obtain ⟨sameAnswer, sameContents⟩ := settled.eq_and_eq
  refine ⟨final, grows, soundAfter, ?_⟩
  rw [sameAnswer, Session.holdings, sameNodes, sameContents]
  rfl

/-- An action that edits the contents commits the edit. -/
theorem of_edits
    (sound : session.Sound settings ledger)
    {action : Action α}
    {image : α → Answer}
    {plain : Outcome (Answer × Contents)}
    (edits : action.Edits settings ledger session.workspace.contents image
      plain) :
    (image <$> action).Realises settings ledger session
      (session.holdings.commit plain) := by
  obtain ⟨final, grows, soundAfter, sameNodes, settled⟩ :=
    edits ledger subset_rfl session sound rfl
  have committed := Settles.commit session.holdings settled
  rw [← committed]
  unfold Realises
  rw [perform_map]
  refine ⟨final, grows, soundAfter, ?_⟩
  rw [Session.holdings, sameNodes]
  rfl

/-- An action that draws identifiers first commits its edit when they are drawn. -/
theorem of_naming
    (sound : session.Sound settings ledger)
    (naming : Naming β)
    {next : β → Action α}
    {image : α → Answer}
    {change : β → Outcome (Answer × Contents)}
    (edits : ∀ value nodes, naming.run session.supply.nodes = .ok (value, nodes) →
      (next value).Edits settings ledger session.workspace.contents image
        (change value)) :
    (image <$> (Action.ofNaming naming >>= next)).Realises settings ledger
      session (session.holdings.commitNamed naming change) := by
  have sameRun :
      naming.run session.holdings.nodes = naming.run session.supply.nodes :=
    rfl
  rw [map_bind, Holdings.commitNamed, sameRun]
  unfold Realises
  cases drawn : naming.run session.supply.nodes with
  | error fault =>
      rw [perform_bind_of_error (perform_ofNaming_of_error drawn)]
      exact ⟨ledger, subset_rfl, sound, rfl⟩
  | ok named =>
      obtain ⟨value, nodes⟩ := named
      have soundNamed : (session.withNodes nodes).Sound settings ledger :=
        ⟨sound.consistent, sound.held, sound.remembers⟩
      rw [perform_bind_of_ok (perform_ofNaming_of_ok drawn)]
      exact of_edits soundNamed (edits value nodes drawn)

end Action.Realises

/-- Every edit that brings no dates and moments into the filter tree has its effect. -/
theorem Edit.realises_effect
    {settings : Settings}
    {ledger : Ledger}
    {session : Session}
    (sound : session.Sound settings ledger)
    {edit : Edit}
    (isPlain : edit.IsPlain) :
    (edit.action settings).Realises settings ledger session
      (edit.effect settings session.holdings) := by
  cases edit with
  | loadTable name rows =>
      exact .of_edits sound (Workspace.edits_loadTable name rows)
  | removeTable name =>
      exact .of_edits sound (Workspace.edits_removeTable name)
  | setActiveTable name =>
      exact .of_edits sound (Workspace.edits_setActiveTable name)
  | clear =>
      rw [Edit.action, Edit.effect, Workspace.clear]
      refine .of_naming sound FilterNode.newRoot fun root nodes drawn => ?_
      have newRoot :
          FilterNode.newRoot.run session.supply.nodes =
            .ok (.group (drawnId session.supply.nodes) .all [],
              session.supply.nodes + 1) :=
        rfl
      rw [newRoot] at drawn
      cases drawn
      exact Workspace.edits_clear _ _
  | setJoins joins =>
      exact .of_edits sound (Workspace.edits_setJoins joins)
  | setAlias name asked =>
      exact .of_edits sound (Workspace.edits_setAlias name asked)
  | addCondition parent field operator value =>
      rw [Edit.action, Edit.effect, Workspace.addCondition]
      refine .of_naming sound (FilterNode.newCondition field operator value)
        fun condition nodes drawn => ?_
      have newCondition :
          (FilterNode.newCondition field operator value).run
              session.supply.nodes =
            .ok
              ({ id := drawnId session.supply.nodes, field, operator, value },
                session.supply.nodes + 1) :=
        rfl
      rw [newCondition] at drawn
      cases drawn
      exact Workspace.edits_condition parent isPlain
  | addGroup parent logic =>
      refine .of_naming sound (FilterNode.newGroup logic)
        fun group nodes drawn => ?_
      exact Workspace.edits_addNode parent
        (FilterNode.isPlain_newGroup drawn)
  | updateNode id changes =>
      exact .of_edits sound (Workspace.edits_updateNode id isPlain)
  | removeNode id =>
      exact .of_edits sound (Workspace.edits_removeNode id)
  | setFilterTree root =>
      exact .of_edits sound (Workspace.edits_setFilterTree isPlain)
  | setCaseSensitive enabled =>
      exact .of_edits sound (Workspace.edits_setCaseSensitive enabled)
  | cleanColumn column operation asked =>
      exact .of_edits sound (Workspace.edits_cleanColumn column operation asked)
  | removeDuplicates asked =>
      exact .of_edits sound (Workspace.edits_removeDuplicates asked)
  | fillEmpty column value asked =>
      exact .of_edits sound (Workspace.edits_fillEmpty column value asked)

/-- Every operation that brings no dates and moments into the filter tree has its effect. -/
theorem Operation.realises_effect
    {settings : Settings}
    {ledger : Ledger}
    {session : Session}
    (sound : session.Sound settings ledger)
    {operation : Operation}
    (isPlain : operation.IsPlain) :
    (operation.action settings).Realises settings ledger session
      (operation.effect settings session.holdings) := by
  cases operation with
  | edit change =>
      exact change.realises_effect sound isPlain
  | read look =>
      exact .of_tells sound look.tells_action

/-! ## Runs -/

namespace Session

/-- A session with a new workspace, whose cache keeps at most the given number of views. -/
def startWithin (bound : Int) (settings : Settings) (supply : Supply) : Session :=
  let session := start settings supply
  { session with
    workspace := { session.workspace with cache := .empty bound } }

/-- A new session is sound, whatever its cache can keep. -/
theorem sound_startWithin
    (bound : Int)
    (settings : Settings)
    (supply : Supply) :
    (startWithin bound settings supply).Sound settings ∅ where
  consistent := .empty _
  held := ⟨.empty, fun _ member => absurd member List.not_mem_nil⟩
  remembers :=
    ⟨fun member => absurd member List.not_mem_nil,
      fun known => absurd known.symm (Option.some_ne_none _)⟩

/-- A run keeps a session sound and holds what its operations make of what was held. -/
theorem holdings_after
    {settings : Settings}
    {ledger : Ledger}
    {session : Session}
    (sound : session.Sound settings ledger)
    {operations : List Operation}
    (arePlain : ∀ operation ∈ operations, operation.IsPlain) :
    (∃ final : Ledger, (session.after settings operations).Sound settings final) ∧
      (session.after settings operations).holdings =
        session.holdings.after settings operations := by
  induction operations generalizing session ledger with
  | nil =>
      exact ⟨⟨ledger, sound⟩, rfl⟩
  | cons operation rest inductionHypothesis =>
      obtain ⟨final, _, soundAfter, effected⟩ :=
        operation.realises_effect sound
          (arePlain operation List.mem_cons_self)
      obtain ⟨soundFinally, sameHoldings⟩ :=
        inductionHypothesis soundAfter fun later member =>
          arePlain later (List.mem_cons_of_mem operation member)
      refine ⟨soundFinally, ?_⟩
      rw [Holdings.after, List.foldl_cons, ← effected]
      exact sameHoldings

/-- An operation answers what it makes of what is held. -/
theorem answer_eq_effect
    {settings : Settings}
    {ledger : Ledger}
    {session : Session}
    (sound : session.Sound settings ledger)
    {operation : Operation}
    (isPlain : operation.IsPlain) :
    session.answer settings operation =
      (operation.effect settings session.holdings).1 := by
  obtain ⟨_, _, _, effected⟩ := operation.realises_effect sound isPlain
  exact congrArg Prod.fst effected

end Session

/-- Reads make no difference to what is held. -/
theorem Holdings.after_filter_isEdit
    (settings : Settings)
    (holdings : Holdings)
    (operations : List Operation) :
    holdings.after settings (operations.filter Operation.isEdit) =
      holdings.after settings operations := by
  induction operations generalizing holdings with
  | nil =>
      rfl
  | cons operation rest inductionHypothesis =>
      cases operation with
      | edit change =>
          exact inductionHypothesis _
      | read look =>
          exact inductionHypothesis holdings

/--
In every run of operations whose condition values are texts, truth values, numbers or nothing, and
whatever number of views the cache can keep, every read answers what is computed afresh from the
tables, aliases, joins, filter tree and case flag that the workspace then has, or fails with the
same fault. So a run with the same edits and any other reads in between, and with a cache that keeps
any other number of views, answers every further operation alike.
-/
theorem answers_afresh
    (settings : Settings)
    (supply : Supply)
    (bound : Int)
    (operations : List Operation)
    (arePlain : ∀ operation ∈ operations, operation.IsPlain) :
    let session := (Session.startWithin bound settings supply).after settings operations
    (∀ read : Read,
      session.answer settings (.read read) =
        read.afresh settings session.workspace.contents) ∧
    ∀ (otherBound : Int) (others : List Operation),
      (∀ operation ∈ others, operation.IsPlain) →
        others.filter Operation.isEdit = operations.filter Operation.isEdit →
          let otherSession :=
            (Session.startWithin otherBound settings supply).after settings others
          otherSession.workspace.contents = session.workspace.contents ∧
            ∀ operation : Operation, operation.IsPlain →
              otherSession.answer settings operation =
                session.answer settings operation := by
  have ownHoldings (within : Int) (performed : List Operation)
      (performedArePlain : ∀ operation ∈ performed, operation.IsPlain) :=
    Session.holdings_after
      (Session.sound_startWithin within settings supply) performedArePlain
  obtain ⟨⟨ledger, sound⟩, sameHoldings⟩ := ownHoldings bound operations arePlain
  refine ⟨fun read => Session.answer_eq_effect sound trivial, ?_⟩
  intro otherBound others othersArePlain sameEdits
  obtain ⟨⟨otherLedger, otherSound⟩, otherHoldings⟩ :=
    ownHoldings otherBound others othersArePlain
  have sameEditedHoldings :
      ((Session.startWithin otherBound settings supply).after settings
          others).holdings =
        ((Session.startWithin bound settings supply).after settings
          operations).holdings := by
    rw [otherHoldings, sameHoldings, ← Holdings.after_filter_isEdit, sameEdits,
      Holdings.after_filter_isEdit]
    rfl
  refine ⟨congrArg Holdings.contents sameEditedHoldings, fun operation isPlain => ?_⟩
  rw [Session.answer_eq_effect otherSound isPlain, sameEditedHoldings,
    Session.answer_eq_effect sound isPlain]

namespace Session.Sample

/-- A run that looks at the filtered view between its edits. -/
def watchedFilter : List Operation :=
  [.edit
      (.loadTable "sales"
        [.ofList [("amount", .int 5)], .ofList [("amount", .int 50)]]),
    .read (.view .filteredView),
    .edit (.addCondition none (some "amount") (some ">") (.int 10)),
    .read (.view .filteredView),
    .edit (.cleanColumn "amount" (.text "numbersOnly") none)]

/--
With a cache for a single view, the run that looks at the filtered view between its edits finds the
view that the run without its looks finds with a cache for fifty views.
-/
theorem answers_of_watchedFilter :
    (∀ operation ∈ watchedFilter, operation.IsPlain) ∧
      ∃ answer,
        ((Session.startWithin 1 {} {}).after {} watchedFilter).answer {}
            (.read (.view .filteredView)) =
          .ok answer ∧
        ((Session.startWithin 50 {} {}).after {}
          (watchedFilter.filter Operation.isEdit)).answer {}
            (.read (.view .filteredView)) =
          .ok answer := by
  have arePlain :
      ∀ operation ∈ watchedFilter, operation.IsPlain := by
    decide +kernel
  refine ⟨arePlain, ?_⟩
  have editsArePlain :
      ∀ operation ∈ watchedFilter.filter Operation.isEdit,
        operation.IsPlain :=
    fun operation member => arePlain operation (List.mem_of_mem_filter member)
  obtain ⟨_, alike⟩ :=
    answers_afresh {} {} 50
      (watchedFilter.filter Operation.isEdit) editsArePlain
  obtain ⟨answer, answered⟩ :
      ∃ answer,
        ((Session.startWithin 50 {} {}).after {}
          (watchedFilter.filter Operation.isEdit)).answer {}
            (.read (.view .filteredView)) =
          .ok answer :=
    Outcome.fault?_eq_none_iff.mp (by decide +kernel)
  refine ⟨answer, ?_, answered⟩
  rw [← answered]
  exact (alike 1 watchedFilter arePlain (by simp)).2 _ trivial

end Session.Sample

end Tabular
