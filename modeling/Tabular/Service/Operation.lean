import Tabular.Service.Document
import Tabular.Service.Payload
import Tabular.Service.Resource
import Tabular.Service.Response

namespace Tabular.Service

/-!
# Operations on workspaces

What the methods of a part of a workspace do. An operation first reads the request, without the
workspace, and then works on the workspace. Operations that change a workspace answer with all of
it.
-/

/-- An operation: its method, and how a request for it is read and carried out. -/
structure Operation where
  method : String
  prepare : Request → Checked (Action Response)

namespace Operation

/-- An operation that reads nothing of its request. -/
def plain (method : String) (action : Action Response) : Operation where
  method
  prepare _ := .ok action

/-- An operation that reads the body of its request. -/
def withBody {α : Type} (method : String) (reader : Schema.Reader α)
    (action : α → Action Response) : Operation where
  method
  prepare request := (request.payload reader).map action

/-- An operation that reads the query of its request. -/
def withQuery {α : Type} (method : String) (read : Request → Checked α)
    (action : α → Action Response) : Operation where
  method
  prepare request := (read request).map action

end Operation

/-- A document as an answer. -/
def found (document : Json) : Action Response :=
  return .answering 200 document

/-- The workspace as an answer. -/
def overview (settings : Settings) : Action Response := do
  found (← workspaceDocument settings)

/-- A table in short as an answer. -/
def summary (settings : Settings) (status : Nat) (snapshot : Snapshot) : Action Response := do
  return .answering status (← summaryDocument settings snapshot)

/-! ## Tables and joins -/

/-- Remove all that a workspace holds. -/
def clearing (settings : Settings) : Operation :=
  .plain "POST" do
    Workspace.clear
    overview settings

/-- Load a table. -/
def loading (settings : Settings) : Operation :=
  .withBody "POST" TablePayload.reader fun payload => do
    summary settings 201 (← Workspace.loadTable payload.name payload.rows)

/-- Remove a table. -/
def removal (settings : Settings) (name : String) : Operation :=
  .plain "DELETE" do
    Workspace.removeTable name
    overview settings

/-- Make a table the active one. -/
def activation (settings : Settings) (name : String) : Operation :=
  .plain "PUT" do
    Workspace.setActiveTable name
    overview settings

/-- Set the alias of a table. -/
def naming (settings : Settings) (name : String) : Operation :=
  .withBody "PUT" aliasReader fun asked => do
    let _ ← Workspace.setAlias name asked
    overview settings

/-- Set the joins. -/
def joining (settings : Settings) : Operation :=
  .withBody "PUT" joinsReader fun joins => do
    Workspace.setJoins joins
    overview settings

/-! ## Filters -/

/-- Replace the filter tree, and set whether case counts when that is said. -/
def filtering (settings : Settings) : Operation :=
  .withBody "PUT" FilterPayload.reader fun payload => do
    Workspace.setFilterTree settings (← Action.ofNaming (FilterNode.ofJson payload.tree))
    if let some caseSensitive := payload.caseSensitive then
      Workspace.setCaseSensitive caseSensitive
    overview settings

/-- Add a condition. -/
def conditionAdding (settings : Settings) : Operation :=
  .withBody "POST" ConditionPayload.reader fun payload => do
    let id ←
      Workspace.addCondition settings payload.parent (some payload.field) (some payload.operator)
        payload.value
    return .answering 201 (← addedDocument id)

/-- Add a group. -/
def groupAdding : Operation :=
  .withBody "POST" GroupPayload.reader fun payload => do
    let id ← Workspace.addGroup payload.parent (.text payload.logic.name)
    return .answering 201 (← addedDocument id)

/-- Change a node. -/
def nodeChange (settings : Settings) (id : String) : Operation :=
  .withBody "PATCH" changesReader fun changes => do
    Workspace.updateNode settings id changes
    overview settings

/-- Remove a node. -/
def nodeRemoval (settings : Settings) (id : String) : Operation :=
  .plain "DELETE" do
    Workspace.removeNode id
    overview settings

/-- Set whether case counts. -/
def caseSetting (settings : Settings) : Operation :=
  .withBody "PUT" caseReader fun caseSensitive => do
    Workspace.setCaseSensitive caseSensitive
    overview settings

/-- Show the columns that can be filtered by. -/
def columnListing (settings : Settings) : Operation :=
  .plain "GET" do
    found (.array ((← Workspace.filterColumns settings).map Workspace.FilterColumn.toJson))

/-! ## Views and analyses -/

/-- How a query arranges a view. -/
def ViewQuery.arrangement (query : ViewQuery) : Workspace.Arrangement where
  search := query.search.getD ""
  caseSensitive := query.caseSensitive
  sortBy := query.sortBy
  direction := .text query.direction

/-- Show a page of the view. -/
def viewing (settings : Settings) : Operation :=
  .withQuery "GET" ViewQuery.read fun query => do
    let view ← Workspace.dataView settings query.arrangement
    let sums ← Workspace.columnSums settings query.arrangement.search query.caseSensitive
    found (← viewDocument settings query.offset query.limit sums view)

/-- Show the values of a column. -/
def valueListing (settings : Settings) (column : String) : Operation :=
  .withQuery "GET" limitQuery fun limit => do
    found (valuesDocument column (← Workspace.uniqueValues settings column limit))

/-- Make a pivot. -/
def pivoting (settings : Settings) : Operation :=
  .withBody "POST" PivotPayload.reader fun payload => do
    let config ← Action.ofOutcome payload.config
    let result ← Workspace.pivot settings config
    found (← Action.ofOutcome (pivotDocument payload.rowField result))

/-- Show the quality of the view. -/
def qualityReporting (settings : Settings) : Operation :=
  .plain "GET" do
    found (qualityDocument (← Workspace.quality settings))

/-- Show the statistics of a column, which has to have numbers. -/
def statsReporting (settings : Settings) (column : String) : Operation :=
  .plain "GET" do
    match ← Workspace.columnStats settings column with
    | some stats => found (statsDocument column stats)
    | none => return .refusing 422 s!"Column '{column}' has no numeric values"

/-! ## Cleaning and hiding -/

/-- Clean a column. -/
def cleaning (settings : Settings) : Operation :=
  .withBody "POST" CleaningPayload.reader fun payload => do
    summary settings 200
      (← Workspace.cleanColumn payload.column (.text payload.operation) payload.table)

/-- Show what cleaning a column would change. -/
def cleaningPreview : Operation :=
  .withBody "POST" CleaningPayload.reader fun payload => do
    let changes ←
      Workspace.previewCleaning payload.column (.text payload.operation) payload.table
    found (changesDocument payload.column payload.operation changes)

/-- Fill the blank cells of a column. -/
def filling (settings : Settings) : Operation :=
  .withBody "POST" FillPayload.reader fun payload => do
    summary settings 200 (← Workspace.fillEmpty payload.column payload.value payload.table)

/-- Remove the rows that repeat an earlier one. -/
def duplicateRemoval : Operation :=
  .withBody "POST" tableReader fun asked => do
    let removed ← Workspace.removeDuplicates asked
    let (name, snapshot) ← Workspace.target asked
    found (removedDocument name removed snapshot)

/-- The methods that are asked for, or the suggested ones. -/
def methodsOrSuggested (settings : Settings) (methods : Option (Assoc AnonymizationMethod)) :
    Action (Assoc AnonymizationMethod) :=
  match methods with
  | some methods => return methods
  | none => Workspace.suggestedAnonymization settings

/-- Hide values. -/
def concealing (settings : Settings) : Operation :=
  .withBody "POST" AnonymizationPayload.reader fun payload => do
    let methods ← methodsOrSuggested settings payload.methods
    let table ← Workspace.hidden settings methods (← Workspace.filteredView settings)
    found (hiddenDocument methods table.columns (Slice.upTo payload.limit table.rows))

/-- Show what hiding values would give. -/
def concealingPreview (settings : Settings) : Operation :=
  .withBody "POST" AnonymizationPayload.reader fun payload => do
    let methods ← methodsOrSuggested settings payload.methods
    let view ← Workspace.filteredView settings
    let rows ← Workspace.hiddenRows settings methods payload.limit view
    found (hiddenDocument methods (Anonymization.keptColumns methods view.table.columns) rows)

/-- Show how columns should be hidden. -/
def concealingSuggestions (settings : Settings) : Operation :=
  .plain "GET" do
    found (methodsToJson (← Workspace.suggestedAnonymization settings))

/-! ## All operations -/

/-- The operations of a part of a workspace. -/
def WorkspacePart.operations (settings : Settings) : WorkspacePart → List Operation
  | .whole => [.plain "GET" (overview settings)]
  | .clearing => [Service.clearing settings]
  | .tables => [loading settings]
  | .table name => [removal settings name]
  | .tableAlias name => [naming settings name]
  | .activeTable name => [activation settings name]
  | .joins => [joining settings]
  | .filter => [filtering settings]
  | .filterConditions => [conditionAdding settings]
  | .filterGroups => [groupAdding]
  | .filterNode id => [nodeChange settings id, nodeRemoval settings id]
  | .filterCase => [caseSetting settings]
  | .filterColumns => [columnListing settings]
  | .view => [viewing settings]
  | .columnValues column => [valueListing settings column]
  | .columnStats column => [statsReporting settings column]
  | .pivot => [pivoting settings]
  | .quality => [qualityReporting settings]
  | .cleaning => [Service.cleaning settings]
  | .cleaningPreview => [Service.cleaningPreview]
  | .filling => [Service.filling settings]
  | .duplicates => [duplicateRemoval]
  | .anonymization => [concealing settings]
  | .anonymizationPreview => [concealingPreview settings]
  | .anonymizationSuggestions => [concealingSuggestions settings]

end Tabular.Service
