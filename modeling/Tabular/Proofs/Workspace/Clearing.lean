import Tabular.Proofs.Workspace.Looking
import Tabular.Proofs.Workspace.Refinement

namespace Tabular

/-!
# Clearing a workspace

After a workspace has been cleared, it answers every run as a new workspace would that draws the
same numbers, up to one thing: whether case counts in filters stays as it was. No operation asks for
the identifier of its workspace, and the bound of the cache never changes, so nothing else remains.
-/

/-- What operations answer, performed one after the other. -/
def Session.answers (settings : Settings) (session : Session) :
    List Operation → List (Outcome Answer)
  | [] => []
  | operation :: rest =>
      session.answer settings operation ::
        (session.after settings [operation]).answers settings rest

/-! ## What operations do not depend on -/

/-- No step of an operation depends on the identifier of the workspace. -/
theorem Operation.ignoresId_action
    (settings : Settings)
    (operation : Operation) :
    (operation.action settings).Within Action.IgnoresId := by
  have memory : Workspace.AllowsMemory Action.IgnoresId :=
    { remember := fun _ _ _ _ => rfl
      touch := fun _ _ _ => rfl
      store := fun _ _ _ _ _ => rfl }
  refine (operation.looks_action memory fun edit change _ makes => ?_).isWithin
    (Workspace.within_currentView memory fun _ _ _ _ => rfl)
  cases makes <;> exact fun _ _ => rfl

/-- No step of an operation changes how many views the cache keeps. -/
theorem Operation.keepsBound_action
    (settings : Settings)
    (operation : Operation) :
    (operation.action settings).Within fun change =>
      ∀ workspace, (change workspace).cache.bound = workspace.cache.bound := by
  have memory : Workspace.AllowsMemory fun change =>
      ∀ workspace, (change workspace).cache.bound = workspace.cache.bound :=
    { remember := fun _ _ _ => rfl
      touch := fun _ _ => rfl
      store := fun _ _ _ _ => rfl }
  refine (operation.looks_action memory fun edit change _ makes => ?_).isWithin
    (Workspace.within_currentView memory fun _ _ _ => rfl)
  cases makes <;> exact fun _ => rfl

namespace Session

/-- A session under another identifier answers every run the same. -/
theorem answers_under
    (settings : Settings)
    (session : Session)
    (id : String)
    (workspaces : Nat)
    (operations : List Operation) :
    (session.under id workspaces).answers settings operations =
      session.answers settings operations := by
  induction operations generalizing session with
  | nil =>
      rfl
  | cons operation rest inductionHypothesis =>
      have performed :
          (operation.action settings).perform (session.under id workspaces) =
            (session.answer settings operation,
              (session.after settings [operation]).under id workspaces) :=
        (operation.ignoresId_action settings).perform_under (fun _ ignored => ignored) session id
          workspaces
      have sameAnswer :
          (session.under id workspaces).answer settings operation =
            session.answer settings operation := by
        rw [answer, performed]
      have sameAfter :
          (session.under id workspaces).after settings [operation] =
            (session.after settings [operation]).under id workspaces := by
        rw [after, List.foldl_cons, performed]
        rfl
      rw [answers, answers, sameAnswer, sameAfter, inductionHypothesis]

/-- The cache keeps as many views as the settings say, after every run. -/
theorem bound_after_start
    (settings : Settings)
    (supply : Supply)
    (operations : List Operation) :
    ((start settings supply).after settings operations).workspace.cache.bound =
      settings.cacheMaxEntries := by
  refine List.foldlRecOn operations
    (motive := fun session : Session => session.workspace.cache.bound = settings.cacheMaxEntries)
    _ rfl fun current bounded operation _ => ?_
  have kept :=
    (operation.keepsBound_action settings).part_eq (fun workspace => workspace.cache.bound)
      (fun _ kept => kept) current
  exact kept.trans bounded

/-- Clearing leaves a new workspace that has the identifier and the case flag of the old one. -/
theorem after_clear
    {settings : Settings}
    {session : Session}
    (bounded : session.workspace.cache.bound = settings.cacheMaxEntries) :
    session.after settings [.edit .clear] =
      ((start settings session.supply).after settings
        [.edit (.setCaseSensitive session.workspace.caseSensitive)]).under
          session.workspace.id session.supply.workspaces := by
  have cleared :
      session.after settings [.edit .clear] =
        { supply := { session.supply with nodes := session.supply.nodes + 1 }
          workspace :=
            { id := session.workspace.id
              filter := .group (drawnId session.supply.nodes) .all []
              caseSensitive := session.workspace.caseSensitive
              cache := .empty session.workspace.cache.bound } } :=
    rfl
  rw [cleared, bounded]
  rfl

end Session

/-! ## What tells the case flag -/

/-- A row with one text, in lower case. -/
def Row.lowerCase : Row :=
  .ofList [("text", .text "x")]

/-- A text is loaded and looked for in the other case. -/
def Operation.caseProbe : List Operation :=
  [.edit (.loadTable "notes" [.empty, .lowerCase]),
    .edit
      (.setFilterTree
        (.group "root" .all
          [.condition
            { id := "leaf", field := some "text", operator := some "is", value := .text "X" }])),
    .read (.view .filteredView)]

/-- The text is found when case does not count, and only then. -/
theorem Session.answers_caseProbe
    (settings : Settings)
    (supply : Supply)
    (caseSensitive : Bool) :
    let notes := Table.ofRows (some "notes") [.empty, .lowerCase]
    ((start settings supply).after settings [.edit (.setCaseSensitive caseSensitive)]).answers
        settings Operation.caseProbe =
      [.ok (.table notes), .ok .done,
        .ok (.table (notes.derive (if caseSensitive then [] else [.lowerCase])))] := by
  cases caseSensitive <;> rfl

/--
After a run of any operations, a cleared workspace answers every further run exactly as a new
workspace does that draws the same numbers and is told first whether case counts. It answers every
further run exactly as the new workspace itself does if and only if case did not count before.
-/
theorem answers_after_clear
    (settings : Settings)
    (supply : Supply)
    (operations : List Operation) :
    let session := (Session.start settings supply).after settings operations
    let cleared := session.after settings [.edit .clear]
    let fresh := Session.start settings session.supply
    (∀ later : List Operation,
      cleared.answers settings later =
        (fresh.after settings
          [.edit (.setCaseSensitive session.workspace.caseSensitive)]).answers settings later) ∧
      ((∀ later : List Operation,
        cleared.answers settings later = fresh.answers settings later) ↔
          session.workspace.caseSensitive = false) := by
  intro session cleared fresh
  have bounded : session.workspace.cache.bound = settings.cacheMaxEntries :=
    Session.bound_after_start settings supply operations
  have sameAnswers (later : List Operation) :
      cleared.answers settings later =
        (fresh.after settings
          [.edit (.setCaseSensitive session.workspace.caseSensitive)]).answers settings later := by
    rw [show cleared = session.after settings [.edit .clear] from rfl, Session.after_clear bounded,
      Session.answers_under]
  have freshIsInsensitive :
      fresh.after settings [.edit (.setCaseSensitive false)] = fresh :=
    rfl
  refine ⟨sameAnswers, fun same => ?_, fun insensitive later => ?_⟩
  · by_contra sensitive
    rw [Bool.not_eq_false] at sensitive
    have told := (sameAnswers Operation.caseProbe).symm.trans (same Operation.caseProbe)
    rw [sensitive, Session.answers_caseProbe] at told
    have found := Session.answers_caseProbe settings session.supply false
    rw [freshIsInsensitive, ← told] at found
    simp [Table.derive] at found
  · rw [sameAnswers, insensitive, freshIsInsensitive]

end Tabular
