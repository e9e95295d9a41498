import Tabular.Proofs.Service.Ending
import Tabular.Service.Basic

namespace Tabular.Service

/-!
# Every operation of the service ends in one of three ways

An operation of the service answers with a success, or leaves the workspace as it was, or cannot
report a table of the workspace that it has changed.
-/

open Tabular.Action Workspace

variable {α : Type} {settings : Settings}

namespace Operation

/-- Whatever the request and the workspace are, the operation ends properly. -/
def Ends (settings : Settings) (operation : Operation) : Prop :=
  ∀ request action, operation.prepare request = .ok action →
    ∀ session, Ending settings session action

namespace Ends

theorem plain
    {method : String}
    {action : Action Response}
    (ends : ∀ session, Ending settings session action) :
    (Operation.plain method action).Ends settings := by
  rintro _ _ ⟨⟩
  exact ends

theorem of_map
    {checked : Checked α}
    {action : α → Action Response}
    (ends : ∀ payload session, Ending settings session (action payload))
    {prepared : Action Response}
    (isPrepared : checked.map action = .ok prepared) :
    ∀ session, Ending settings session prepared := by
  cases checked with
  | error issues =>
      exact absurd isPrepared nofun
  | ok payload =>
      cases isPrepared
      exact ends payload

theorem withBody
    {method : String}
    {reader : Schema.Reader α}
    {action : α → Action Response}
    (ends : ∀ payload session, Ending settings session (action payload)) :
    (Operation.withBody method reader action).Ends settings :=
  fun _ _ isPrepared => of_map ends isPrepared

theorem withQuery
    {method : String}
    {read : Request → Checked α}
    {action : α → Action Response}
    (ends : ∀ query session, Ending settings session (action query)) :
    (Operation.withQuery method read action).Ends settings :=
  fun _ _ isPrepared => of_map ends isPrepared

end Ends

end Operation

/-! ## Tables and joins -/

theorem ends_clearing :
    (clearing settings).Ends settings :=
  .plain fun _ => .of_edit atomic_clear keepsId_clear fun _ _ _ => reports_overview settings _

theorem ends_loading :
    (loading settings).Ends settings :=
  .withBody fun _ _ =>
    .of_edit (atomic_loadTable _ _) (keepsId_loadTable _ _) fun _ _ performed =>
      reports_summary (by decide) (find?_of_loadTable performed)

theorem ends_removal
    (name : String) :
    (removal settings name).Ends settings :=
  .plain fun _ =>
    .of_edit (atomic_removeTable name) (keepsId_removeTable name) fun _ _ _ =>
      reports_overview settings _

theorem ends_activation
    (name : String) :
    (activation settings name).Ends settings :=
  .plain fun _ =>
    .of_edit (atomic_setActiveTable name) (keepsId_setActiveTable name) fun _ _ _ =>
      reports_overview settings _

theorem ends_naming
    (name : String) :
    (naming settings name).Ends settings :=
  .withBody fun asked _ =>
    .of_edit (atomic_setAlias name asked) (keepsId_setAlias name asked) fun _ _ _ =>
      reports_overview settings _

theorem ends_joining :
    (joining settings).Ends settings :=
  .withBody fun joins _ =>
    .of_edit (.of_sure (.modifyWorkspace _)) (keepsId_setJoins joins) fun _ _ _ =>
      reports_overview settings _

/-! ## Filters -/

theorem ends_filtering :
    (filtering settings).Ends settings := by
  refine .withBody fun payload session => ?_
  rw [← bind_assoc]
  refine
    .of_edit (.ofNaming_bind _ (atomic_setFilterTree settings))
      ((KeepsId.ofNaming _).bind keepsId_setFilterTree) fun _ after _ => ?_
  split
  · exact .modifyWorkspace_bind rfl fun _ => reports_overview settings _
  · exact reports_overview settings _

theorem ends_conditionAdding :
    (conditionAdding settings).Ends settings :=
  .withBody fun _ _ =>
    .of_edit (atomic_addCondition settings _ _ _ _) (keepsId_addCondition _ _ _ _) fun id _ _ =>
      reports_added settings _ id

theorem ends_groupAdding :
    groupAdding.Ends settings :=
  .withBody fun _ _ =>
    .of_edit (atomic_addGroup _ _) (keepsId_addGroup _ _) fun id _ _ => reports_added settings _ id

theorem ends_nodeChange
    (id : String) :
    (nodeChange settings id).Ends settings :=
  .withBody fun changes _ =>
    .of_edit (atomic_updateNode settings id changes) (keepsId_updateNode id changes) fun _ _ _ =>
      reports_overview settings _

theorem ends_nodeRemoval
    (id : String) :
    (nodeRemoval settings id).Ends settings :=
  .plain fun _ =>
    .of_edit (atomic_removeNode id) (keepsId_removeNode id) fun _ _ _ =>
      reports_overview settings _

theorem ends_caseSetting :
    (caseSetting settings).Ends settings :=
  .withBody fun enabled _ =>
    .of_edit (.of_sure (.modifyWorkspace _)) (keepsId_setCaseSensitive enabled) fun _ _ _ =>
      reports_overview settings _

theorem ends_columnListing :
    (columnListing settings).Ends settings :=
  .plain fun _ => .of_keeps ((keeps_filterColumns settings).bind fun _ => keeps_found _)

/-! ## Views and analyses -/

theorem ends_viewing :
    (viewing settings).Ends settings :=
  .withQuery fun query _ =>
    .of_keeps <|
      (keeps_dataView settings query.arrangement).bind fun _ =>
        (keeps_columnSums settings _ _).bind fun _ =>
          (keeps_viewDocument settings _ _ _ _).bind fun _ => keeps_found _

theorem ends_valueListing
    (column : String) :
    (valueListing settings column).Ends settings :=
  .withQuery fun limit _ =>
    .of_keeps ((keeps_uniqueValues settings column limit).bind fun _ => keeps_found _)

theorem ends_pivoting :
    (pivoting settings).Ends settings :=
  .withBody fun _ _ =>
    .of_keeps <|
      (Keeps.ofOutcome _).bind fun config =>
        (keeps_pivot settings config).bind fun _ =>
          (Keeps.ofOutcome _).bind fun _ => keeps_found _

theorem ends_qualityReporting :
    (qualityReporting settings).Ends settings :=
  .plain fun _ => .of_keeps ((keeps_quality settings).bind fun _ => keeps_found _)

theorem ends_statsReporting
    (column : String) :
    (statsReporting settings column).Ends settings := by
  refine .plain fun _ => .of_keeps ((keeps_columnStats settings column).bind fun stats => ?_)
  split
  · exact keeps_found _
  · exact .pure _

/-! ## Cleaning and hiding -/

theorem ends_cleaning :
    (cleaning settings).Ends settings := by
  refine .withBody fun payload _ =>
    .of_edit (atomic_cleanColumn _ _ _) (keepsId_cleanColumn _ _ _) fun snapshot after performed =>
      ?_
  obtain ⟨name, found⟩ := find?_of_cleanColumn performed
  exact reports_summary (by decide) found

theorem ends_cleaningPreview :
    cleaningPreview.Ends settings :=
  .withBody fun _ _ => .of_keeps ((keeps_previewCleaning _ _ _).bind fun _ => keeps_found _)

theorem ends_filling :
    (filling settings).Ends settings := by
  refine .withBody fun payload _ =>
    .of_edit (atomic_fillEmpty _ _ _) (keepsId_fillEmpty _ _ _) fun snapshot after performed => ?_
  obtain ⟨name, found⟩ := find?_of_fillEmpty performed
  exact reports_summary (by decide) found

theorem ends_duplicateRemoval :
    duplicateRemoval.Ends settings := by
  refine .withBody fun asked _ =>
    .of_edit (atomic_removeDuplicates asked) (keepsId_removeDuplicates asked)
      fun removed after performed => ?_
  obtain ⟨found, targeted⟩ := target_of_removeDuplicates performed
  exact reports_removed targeted

theorem keeps_methodsOrSuggested
    (methods : Option (Assoc AnonymizationMethod)) :
    (methodsOrSuggested settings methods).Keeps := by
  cases methods with
  | none =>
      exact keeps_suggestedAnonymization settings
  | some methods =>
      exact .pure methods

theorem ends_concealing :
    (concealing settings).Ends settings :=
  .withBody fun payload _ =>
    .of_keeps <|
      (keeps_methodsOrSuggested payload.methods).bind fun methods =>
        (keeps_filteredView settings).bind fun view =>
          (keeps_hidden settings methods view).bind fun _ => keeps_found _

theorem ends_concealingPreview :
    (concealingPreview settings).Ends settings :=
  .withBody fun payload _ =>
    .of_keeps <|
      (keeps_methodsOrSuggested payload.methods).bind fun methods =>
        (keeps_filteredView settings).bind fun view =>
          (keeps_hiddenRows settings methods payload.limit view).bind fun _ => keeps_found _

theorem ends_concealingSuggestions :
    (concealingSuggestions settings).Ends settings :=
  .plain fun _ => .of_keeps ((keeps_suggestedAnonymization settings).bind fun _ => keeps_found _)

/-! ## All operations -/

/-- Every operation of every part of a workspace ends properly. -/
theorem WorkspacePart.ends_operations
    (part : WorkspacePart) :
    ∀ operation ∈ part.operations settings, operation.Ends settings := by
  cases part with
  | filterNode id =>
      exact List.forall_mem_cons.mpr
        ⟨ends_nodeChange id, List.forall_mem_singleton.mpr (ends_nodeRemoval id)⟩
  | whole =>
      exact List.forall_mem_singleton.mpr (.plain fun _ => .of_keeps (keeps_overview settings))
  | clearing =>
      exact List.forall_mem_singleton.mpr ends_clearing
  | tables =>
      exact List.forall_mem_singleton.mpr ends_loading
  | table name =>
      exact List.forall_mem_singleton.mpr (ends_removal name)
  | tableAlias name =>
      exact List.forall_mem_singleton.mpr (ends_naming name)
  | activeTable name =>
      exact List.forall_mem_singleton.mpr (ends_activation name)
  | joins =>
      exact List.forall_mem_singleton.mpr ends_joining
  | filter =>
      exact List.forall_mem_singleton.mpr ends_filtering
  | filterConditions =>
      exact List.forall_mem_singleton.mpr ends_conditionAdding
  | filterGroups =>
      exact List.forall_mem_singleton.mpr ends_groupAdding
  | filterCase =>
      exact List.forall_mem_singleton.mpr ends_caseSetting
  | filterColumns =>
      exact List.forall_mem_singleton.mpr ends_columnListing
  | view =>
      exact List.forall_mem_singleton.mpr ends_viewing
  | columnValues column =>
      exact List.forall_mem_singleton.mpr (ends_valueListing column)
  | columnStats column =>
      exact List.forall_mem_singleton.mpr (ends_statsReporting column)
  | pivot =>
      exact List.forall_mem_singleton.mpr ends_pivoting
  | quality =>
      exact List.forall_mem_singleton.mpr ends_qualityReporting
  | cleaning =>
      exact List.forall_mem_singleton.mpr ends_cleaning
  | cleaningPreview =>
      exact List.forall_mem_singleton.mpr ends_cleaningPreview
  | filling =>
      exact List.forall_mem_singleton.mpr ends_filling
  | duplicates =>
      exact List.forall_mem_singleton.mpr ends_duplicateRemoval
  | anonymization =>
      exact List.forall_mem_singleton.mpr ends_concealing
  | anonymizationPreview =>
      exact List.forall_mem_singleton.mpr ends_concealingPreview
  | anonymizationSuggestions =>
      exact List.forall_mem_singleton.mpr ends_concealingSuggestions

end Tabular.Service
