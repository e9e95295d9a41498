import Tabular.Proofs.Service.Operations
import Tabular.Proofs.Service.Payloads
import Tabular.Proofs.Workspace.Twins

namespace Tabular.Service

/-!
# Operations of the service agree

Every operation of the service answers twin workspaces alike and leaves twins. What is reported of a
workspace is its identifier and what it holds, and what a request brings into it is plain.
-/

open Tabular.Action Workspace

variable {α : Type} {settings : Settings} {ledgers : Ledgers}

/-- The action answers twins alike. -/
abbrev AnswersTwins (settings : Settings) (ledgers : Ledgers) (action : Action α) : Prop :=
  action.Agrees settings ledgers action Equal

/-! ## Documents -/

theorem agrees_found
    (document : Json) :
    AnswersTwins settings ledgers (found document) :=
  .pure_equal _

theorem agrees_summaryDocument
    {snapshot twin : Snapshot}
    (twins : snapshot.Twins ledgers twin) :
    (summaryDocument settings snapshot).Agrees settings ledgers (summaryDocument settings twin)
      Equal := by
  rw [summaryDocument, summaryDocument, twins.sameTable]
  refine (Agrees.types twins).bind_equal fun wider grow types => ?_
  exact (Agrees.smartTypes (twins.mono grow)).bind_equal fun _ _ kinds => .pure_equal _

/-- The tables of twin workspaces are twins. -/
theorem forall₂_tables
    {workspace twin : Workspace}
    (twins : workspace.Twins ledgers twin) :
    List.Forall₂ (fun snapshot other => snapshot.Twins ledgers other)
      workspace.tables.values twin.tables.values := by
  have sameTables :
      List.Forall₂ (fun snapshot other => snapshot.table = other.table)
        workspace.tables.values twin.tables.values := by
    have sameValues := congrArg (fun held => held.tables.values) twins.sameContents
    simp only [contents, Assoc.values, Assoc.mapValues, List.map_map] at sameValues
    rw [← List.forall₂_eq_eq_eq, List.forall₂_map_left_iff, List.forall₂_map_right_iff]
      at sameValues
    rw [Assoc.values, Assoc.values, List.forall₂_map_left_iff, List.forall₂_map_right_iff]
    exact sameValues
  have mem_ledger {ledger : Ledger} {tables : Assoc Snapshot} (issued : ledger.Issued tables)
      {snapshot : Snapshot} (member : snapshot ∈ tables.values) : snapshot ∈ ledger := by
    obtain ⟨⟨name, _⟩, isEntry, rfl⟩ := List.mem_map.mp member
    exact issued.mem (Assoc.find?_eq_some_iff.mpr isEntry)
  obtain ⟨sameLength, sameTable⟩ := List.forall₂_iff_zip.mp sameTables
  refine List.forall₂_iff_zip.mpr ⟨sameLength, fun {snapshot other} paired => ?_⟩
  obtain ⟨member, otherMember⟩ := List.of_mem_zip paired
  exact
    ⟨mem_ledger twins.held.tables member, mem_ledger twins.twinHeld.tables otherMember,
      sameTable paired⟩

theorem agrees_workspaceDocument :
    AnswersTwins settings ledgers (workspaceDocument settings) := by
  refine Agrees.workspace.bind fun wider grow workspace twin twins => ?_
  refine
    (Agrees.mapM ((forall₂_tables twins).imp fun _ _ => agrees_summaryDocument)).bind_equal
      fun further _ summaries => ?_
  have sameContents := twins.sameContents
  simp only [contents, Contents.mk.injEq] at sameContents
  obtain ⟨-, sameActive, sameAliases, sameJoins, sameFilter, sameCase⟩ := sameContents
  rw [twins.sameId, sameActive, sameAliases, sameJoins, sameFilter, sameCase]
  exact .pure_equal _

theorem agrees_overview :
    AnswersTwins settings ledgers (overview settings) :=
  agrees_workspaceDocument.bind_equal fun _ _ document => agrees_found document

theorem agrees_summary
    (status : Nat)
    {snapshot twin : Snapshot}
    (twins : snapshot.Twins ledgers twin) :
    (summary settings status snapshot).Agrees settings ledgers (summary settings status twin)
      Equal :=
  (agrees_summaryDocument twins).bind_equal fun _ _ _ => .pure_equal _

theorem agrees_addedDocument
    (id : String) :
    AnswersTwins settings ledgers (addedDocument id) := by
  refine Agrees.workspace.bind fun wider _ workspace twin twins => ?_
  have sameFilter : workspace.filter = twin.filter := congrArg Contents.filter twins.sameContents
  rw [sameFilter]
  exact .pure_equal _

theorem agrees_viewDocument
    (offset : Int)
    (limit : Option Int)
    (sums : Assoc Amount)
    {snapshot twin : Snapshot}
    (twins : snapshot.Twins ledgers twin) :
    (viewDocument settings offset limit sums snapshot).Agrees settings ledgers
      (viewDocument settings offset limit sums twin) Equal := by
  refine (Agrees.types twins).bind_equal fun wider _ types => ?_
  rw [twins.sameTable]
  exact (Agrees.ofOutcome _).bind_equal fun _ _ totals => .pure_equal _

/-! ## Views -/

theorem agrees_filteredView :
    (filteredView settings).Agrees settings ledgers (filteredView settings) Snapshot.Twins :=
  .of_tells_shows (fun _ _ => tells_filteredView) (.of_keeps (keeps_filteredView settings))

theorem agrees_dataView
    (arrangement : Arrangement) :
    (dataView settings arrangement).Agrees settings ledgers (dataView settings arrangement)
      Snapshot.Twins :=
  .of_tells_shows (fun _ _ => tells_dataView arrangement)
    (.of_keeps (keeps_dataView settings arrangement))

/-! ## Operations -/

/-- Whatever the request is, the operation answers twins alike. -/
def Operation.Agrees (settings : Settings) (operation : Operation) : Prop :=
  ∀ request action, operation.prepare request = .ok action →
    ∀ ledgers, AnswersTwins settings ledgers action

namespace Operation.Agrees

theorem plain
    {method : String}
    {action : Action Response}
    (agrees : ∀ ledgers, AnswersTwins settings ledgers action) :
    (Operation.plain method action).Agrees settings := by
  rintro _ _ ⟨⟩
  exact agrees

theorem of_map
    {checked : Checked α}
    {property : α → Prop}
    (has : checked.Has property)
    {action : α → Action Response}
    (agrees : ∀ payload, property payload →
      ∀ ledgers, AnswersTwins settings ledgers (action payload))
    {prepared : Action Response}
    (isPrepared : checked.map action = .ok prepared) :
    ∀ ledgers, AnswersTwins settings ledgers prepared := by
  cases checked with
  | error issues =>
      exact absurd isPrepared nofun
  | ok payload =>
      cases isPrepared
      exact agrees payload has

theorem yielding
    {method : String}
    {reader : Schema.Reader α}
    {property : α → Prop}
    (yields : Schema.Yields reader property)
    {action : α → Action Response}
    (agrees : ∀ payload, property payload →
      ∀ ledgers, AnswersTwins settings ledgers (action payload)) :
    (Operation.withBody method reader action).Agrees settings :=
  fun request _ isPrepared => of_map (has_payload yields request) agrees isPrepared

theorem withBody
    {method : String}
    {reader : Schema.Reader α}
    {action : α → Action Response}
    (agrees : ∀ payload ledgers, AnswersTwins settings ledgers (action payload)) :
    (Operation.withBody method reader action).Agrees settings :=
  yielding (fun _ => .trivially _) fun payload _ => agrees payload

theorem withQuery
    {method : String}
    {read : Request → Checked α}
    {action : α → Action Response}
    (agrees : ∀ query ledgers, AnswersTwins settings ledgers (action query)) :
    (Operation.withQuery method read action).Agrees settings :=
  fun _ _ isPrepared => of_map (.trivially _) (fun query _ => agrees query) isPrepared

end Operation.Agrees

/-- An edit that is followed by a report of the workspace. -/
theorem agrees_edit_overview
    (edit : Edit)
    (isPlain : edit.IsPlain)
    {action : Action α}
    {image : α → Tabular.Answer}
    (isAction : edit.action settings = image <$> action)
    (keepsId : action.KeepsId) :
    AnswersTwins settings ledgers (action >>= fun _ => overview settings) :=
  (Agrees.of_edit edit isPlain isAction keepsId).bind fun _ _ _ _ _ => agrees_overview

/-- An edit that answers with a table, which is then reported. -/
theorem agrees_edit_summary
    (status : Nat)
    (edit : Edit)
    (isPlain : edit.IsPlain)
    {action : Action Snapshot}
    (isAction : edit.action settings = Tabular.Answer.ofSnapshot <$> action)
    (keepsId : action.KeepsId)
    (isHeld : ∀ {session after snapshot}, action.perform session = (.ok snapshot, after) →
      ∃ name, after.workspace.tables.find? name = some snapshot) :
    AnswersTwins settings ledgers (action >>= summary settings status) :=
  ((Agrees.of_edit edit isPlain isAction keepsId).held isHeld).bind fun _ _ _ _ twins =>
    agrees_summary status twins

/-- An edit that answers with the identifier of a node, which is then reported. -/
theorem agrees_edit_added
    (edit : Edit)
    (isPlain : edit.IsPlain)
    {action : Action String}
    (isAction : edit.action settings = .text <$> action)
    (keepsId : action.KeepsId) :
    AnswersTwins settings ledgers (do
      let id ← action
      return Response.answering 201 (← addedDocument id)) := by
  refine (Agrees.of_edit edit isPlain isAction keepsId).bind ?_
  rintro wider _ id twin same
  rw [Tabular.Answer.text.inj same]
  exact (agrees_addedDocument twin).bind_equal fun _ _ document => .pure_equal _

/-! ### Tables and joins -/

theorem agrees_clearing :
    (clearing settings).Agrees settings :=
  .plain fun _ => agrees_edit_overview .clear trivial rfl keepsId_clear

theorem agrees_loading :
    (loading settings).Agrees settings :=
  .withBody fun payload _ =>
    agrees_edit_summary 201 (.loadTable payload.name payload.rows) trivial rfl
      (keepsId_loadTable _ _) fun performed => ⟨_, find?_of_loadTable performed⟩

theorem agrees_removal
    (name : String) :
    (removal settings name).Agrees settings :=
  .plain fun _ => agrees_edit_overview (.removeTable name) trivial rfl (keepsId_removeTable name)

theorem agrees_activation
    (name : String) :
    (activation settings name).Agrees settings :=
  .plain fun _ =>
    agrees_edit_overview (.setActiveTable name) trivial rfl (keepsId_setActiveTable name)

theorem agrees_naming
    (name : String) :
    (naming settings name).Agrees settings :=
  .withBody fun asked _ =>
    agrees_edit_overview (.setAlias name asked) trivial rfl (keepsId_setAlias name asked)

theorem agrees_joining :
    (joining settings).Agrees settings :=
  .withBody fun joins _ =>
    agrees_edit_overview (.setJoins joins) trivial rfl (keepsId_setJoins joins)

/-! ### Filters -/

theorem agrees_filtering :
    (filtering settings).Agrees settings := by
  refine .withBody fun payload ledgers => ?_
  refine (Agrees.ofNaming _).bind ?_
  rintro wider _ root _ ⟨rfl, number, next, drawn⟩
  have isPlain : root.IsPlain := FilterNode.gives_ofJson payload.tree number root next drawn
  refine
    (Agrees.of_edit (.setFilterTree root) isPlain rfl (keepsId_setFilterTree root)).bind
      fun further _ _ _ _ => ?_
  split
  · next caseSensitive isGiven =>
      exact agrees_edit_overview (.setCaseSensitive caseSensitive) trivial rfl
        (keepsId_setCaseSensitive caseSensitive)
  · exact agrees_overview

theorem agrees_conditionAdding :
    (conditionAdding settings).Agrees settings :=
  .yielding yields_condition fun payload isPlain _ =>
    agrees_edit_added (.addCondition payload.parent payload.field payload.operator payload.value)
      isPlain rfl (keepsId_addCondition _ _ _ _)

theorem agrees_groupAdding :
    groupAdding.Agrees settings :=
  .withBody fun payload _ =>
    agrees_edit_added (.addGroup payload.parent (.text payload.logic.name)) trivial rfl
      (keepsId_addGroup _ _)

theorem agrees_nodeChange
    (id : String) :
    (nodeChange settings id).Agrees settings :=
  .yielding yields_changes fun changes arePlain _ =>
    agrees_edit_overview (.updateNode id changes) arePlain rfl (keepsId_updateNode id changes)

theorem agrees_nodeRemoval
    (id : String) :
    (nodeRemoval settings id).Agrees settings :=
  .plain fun _ => agrees_edit_overview (.removeNode id) trivial rfl (keepsId_removeNode id)

theorem agrees_caseSetting :
    (caseSetting settings).Agrees settings :=
  .withBody fun enabled _ =>
    agrees_edit_overview (.setCaseSensitive enabled) trivial rfl (keepsId_setCaseSensitive enabled)

theorem agrees_columnListing :
    (columnListing settings).Agrees settings :=
  .plain fun _ =>
    (Agrees.of_read (fun _ _ => tells_filterColumns) (keeps_filterColumns settings)).bind_equal
      fun _ _ _ => agrees_found _

/-! ### Views and analyses -/

theorem agrees_viewing :
    (viewing settings).Agrees settings := by
  refine .withQuery fun query _ => ?_
  refine (agrees_dataView query.arrangement).bind fun wider grow view twin twins => ?_
  refine
    (Agrees.of_read (fun _ _ => tells_columnSums query.arrangement.search query.caseSensitive)
      (keeps_columnSums settings _ _)).bind_equal fun further growOn sums => ?_
  exact (agrees_viewDocument _ _ sums (twins.mono growOn)).bind_equal fun _ _ document =>
    agrees_found document

theorem agrees_valueListing
    (column : String) :
    (valueListing settings column).Agrees settings :=
  .withQuery fun limit _ =>
    (Agrees.of_read (fun _ _ => tells_uniqueValues column limit)
      (keeps_uniqueValues settings column limit)).bind_equal fun _ _ _ => agrees_found _

theorem agrees_pivoting :
    (pivoting settings).Agrees settings := by
  refine .withBody fun payload _ => ?_
  refine (Agrees.ofOutcome _).bind_equal fun wider _ config => ?_
  refine
    (Agrees.of_read (fun _ _ => tells_pivot config) (keeps_pivot settings config)).bind_equal
      fun further _ result => ?_
  exact (Agrees.ofOutcome _).bind_equal fun _ _ document => agrees_found document

theorem agrees_qualityReporting :
    (qualityReporting settings).Agrees settings :=
  .plain fun _ =>
    (Agrees.of_read (fun _ _ => tells_quality) (keeps_quality settings)).bind_equal
      fun _ _ _ => agrees_found _

theorem agrees_statsReporting
    (column : String) :
    (statsReporting settings column).Agrees settings := by
  refine .plain fun _ => ?_
  refine
    (Agrees.of_read (fun _ _ => tells_columnStats column)
      (keeps_columnStats settings column)).bind_equal fun _ _ stats => ?_
  split
  · exact agrees_found _
  · exact .pure_equal _

/-! ### Cleaning and hiding -/

theorem agrees_cleaning :
    (cleaning settings).Agrees settings :=
  .withBody fun payload _ =>
    agrees_edit_summary 200 (.cleanColumn payload.column (.text payload.operation) payload.table)
      trivial rfl (keepsId_cleanColumn _ _ _) find?_of_cleanColumn

theorem agrees_cleaningPreview :
    cleaningPreview.Agrees settings :=
  .withBody fun _ _ =>
    (Agrees.of_read (fun _ _ => tells_previewCleaning _ _ _)
      (keeps_previewCleaning _ _ _)).bind_equal fun _ _ _ => agrees_found _

theorem agrees_filling :
    (filling settings).Agrees settings :=
  .withBody fun payload _ =>
    agrees_edit_summary 200 (.fillEmpty payload.column payload.value payload.table) trivial rfl
      (keepsId_fillEmpty _ _ _) find?_of_fillEmpty

/-- The tables that a step works on are twins of the same name. -/
theorem agrees_target
    (asked : Option String) :
    (target asked).Agrees settings ledgers (target asked) fun wider found twin =>
      found.1 = twin.1 ∧ found.2.Twins wider twin.2 := by
  have keepsId : (target asked).KeepsId := .of_keeps (keeps_target asked)
  refine
    (Agrees.of_tells (fun _ => tells_target asked) (fun _ => tells_target asked) keepsId
      keepsId).imp ?_
  rintro wider ⟨name, snapshot⟩ ⟨twinName, twin⟩
    ⟨⟨_, table⟩, ⟨rfl, shows, -⟩, rfl, twinShows, -⟩
  exact ⟨rfl, shows.issued, twinShows.issued, shows.table_eq.trans twinShows.table_eq.symm⟩

theorem agrees_duplicateRemoval :
    duplicateRemoval.Agrees settings := by
  refine .withBody fun asked _ => ?_
  refine
    (Agrees.of_edit (.removeDuplicates asked) trivial rfl (keepsId_removeDuplicates asked)).bind ?_
  rintro wider _ removed twinRemoved same
  rw [Tabular.Answer.count.inj same]
  refine (agrees_target asked).bind ?_
  rintro further _ ⟨name, snapshot⟩ ⟨_, twin⟩ ⟨rfl, twins⟩
  dsimp only
  rw [removedDocument, twins.sameTable]
  exact agrees_found _

theorem agrees_suggestedAnonymization :
    AnswersTwins settings ledgers (suggestedAnonymization settings) :=
  .of_read (fun _ _ => tells_suggestedAnonymization) (keeps_suggestedAnonymization settings)

theorem agrees_methodsOrSuggested
    (methods : Option (Assoc AnonymizationMethod)) :
    AnswersTwins settings ledgers (methodsOrSuggested settings methods) := by
  cases methods with
  | none =>
      exact agrees_suggestedAnonymization
  | some methods =>
      exact .pure_equal methods

theorem agrees_hidden
    (methods : Assoc AnonymizationMethod)
    {snapshot twin : Snapshot}
    (twins : snapshot.Twins ledgers twin) :
    (hidden settings methods snapshot).Agrees settings ledgers (hidden settings methods twin)
      Equal := by
  rw [Workspace.hidden, Workspace.hidden, twins.sameTable]
  exact (Agrees.smartTypes twins).bind_equal fun _ _ kinds => .pure_equal _

theorem agrees_hiddenRows
    (methods : Assoc AnonymizationMethod)
    (limit : Option Int)
    {snapshot twin : Snapshot}
    (twins : snapshot.Twins ledgers twin) :
    (hiddenRows settings methods limit snapshot).Agrees settings ledgers
      (hiddenRows settings methods limit twin) Equal := by
  rw [hiddenRows, hiddenRows, twins.sameTable]
  exact (Agrees.smartTypes twins).bind_equal fun _ _ kinds => .pure_equal _

theorem agrees_concealing :
    (concealing settings).Agrees settings := by
  refine .withBody fun payload _ => ?_
  refine (agrees_methodsOrSuggested payload.methods).bind_equal fun wider _ methods => ?_
  refine agrees_filteredView.bind fun further _ view twin twins => ?_
  exact (agrees_hidden methods twins).bind_equal fun _ _ table => agrees_found _

theorem agrees_concealingPreview :
    (concealingPreview settings).Agrees settings := by
  refine .withBody fun payload _ => ?_
  refine (agrees_methodsOrSuggested payload.methods).bind_equal fun wider _ methods => ?_
  refine agrees_filteredView.bind fun further _ view twin twins => ?_
  refine (agrees_hiddenRows methods payload.limit twins).bind_equal fun _ _ rows => ?_
  rw [twins.sameTable]
  exact agrees_found _

theorem agrees_concealingSuggestions :
    (concealingSuggestions settings).Agrees settings :=
  .plain fun _ => agrees_suggestedAnonymization.bind_equal fun _ _ _ => agrees_found _

/-! ### All operations -/

/-- Every operation of every part of a workspace answers twins alike. -/
theorem WorkspacePart.agrees_operations
    (part : WorkspacePart) :
    ∀ operation ∈ part.operations settings, operation.Agrees settings := by
  cases part with
  | filterNode id =>
      exact List.forall_mem_cons.mpr
        ⟨agrees_nodeChange id, List.forall_mem_singleton.mpr (agrees_nodeRemoval id)⟩
  | whole =>
      exact List.forall_mem_singleton.mpr (.plain fun _ => agrees_overview)
  | clearing =>
      exact List.forall_mem_singleton.mpr agrees_clearing
  | tables =>
      exact List.forall_mem_singleton.mpr agrees_loading
  | table name =>
      exact List.forall_mem_singleton.mpr (agrees_removal name)
  | tableAlias name =>
      exact List.forall_mem_singleton.mpr (agrees_naming name)
  | activeTable name =>
      exact List.forall_mem_singleton.mpr (agrees_activation name)
  | joins =>
      exact List.forall_mem_singleton.mpr agrees_joining
  | filter =>
      exact List.forall_mem_singleton.mpr agrees_filtering
  | filterConditions =>
      exact List.forall_mem_singleton.mpr agrees_conditionAdding
  | filterGroups =>
      exact List.forall_mem_singleton.mpr agrees_groupAdding
  | filterCase =>
      exact List.forall_mem_singleton.mpr agrees_caseSetting
  | filterColumns =>
      exact List.forall_mem_singleton.mpr agrees_columnListing
  | view =>
      exact List.forall_mem_singleton.mpr agrees_viewing
  | columnValues column =>
      exact List.forall_mem_singleton.mpr (agrees_valueListing column)
  | columnStats column =>
      exact List.forall_mem_singleton.mpr (agrees_statsReporting column)
  | pivot =>
      exact List.forall_mem_singleton.mpr agrees_pivoting
  | quality =>
      exact List.forall_mem_singleton.mpr agrees_qualityReporting
  | cleaning =>
      exact List.forall_mem_singleton.mpr agrees_cleaning
  | cleaningPreview =>
      exact List.forall_mem_singleton.mpr agrees_cleaningPreview
  | filling =>
      exact List.forall_mem_singleton.mpr agrees_filling
  | duplicates =>
      exact List.forall_mem_singleton.mpr agrees_duplicateRemoval
  | anonymization =>
      exact List.forall_mem_singleton.mpr agrees_concealing
  | anonymizationPreview =>
      exact List.forall_mem_singleton.mpr agrees_concealingPreview
  | anonymizationSuggestions =>
      exact List.forall_mem_singleton.mpr agrees_concealingSuggestions

end Tabular.Service
