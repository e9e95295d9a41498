import Tabular.Analysis.Pivot
import Tabular.Change.Anonymization
import Tabular.Filter.Node
import Tabular.Join.Basic
import Tabular.Service.Request

namespace Tabular.Service

/-!
# Payloads

The bodies and queries that requests of the service carry, and how they are read. Members that are
not known are ignored.
-/

/-- A member that is a text or nothing, and may be left out. -/
def optionalText (key : String) : Schema.Reader (Option String) :=
  Schema.memberOr key none (Schema.optional Schema.text)

/-- A table that is loaded. -/
structure TablePayload where
  name : String
  rows : List Row

/-- Reading a table. -/
def TablePayload.reader : Schema.Reader TablePayload :=
  Schema.members fun document =>
    ((Schema.member "name" Schema.filledText document).both
      (Schema.member "rows" (Schema.list (Schema.object Schema.cell)) document)).map
      fun (name, rows) => { name, rows }

/-- Reading the alias of a table. -/
def aliasReader : Schema.Reader String :=
  Schema.members (Schema.memberOr "alias" "" Schema.text)

/-- Reading the type of a join. -/
def joinTypeReader : Schema.Reader JoinType :=
  Schema.choice fun name => JoinType.all.find? fun joinType => joinType.name == name

/-- Reading one stage of a join. -/
def joinReader : Schema.Reader JoinSpec :=
  Schema.members fun document =>
    ((Schema.member "left_table" Schema.text document).both
      ((Schema.member "left_column" Schema.text document).both
        ((Schema.member "right_table" Schema.text document).both
          ((Schema.member "right_column" Schema.text document).both
            (Schema.memberOr "join_type" .inner joinTypeReader document))))).map
      fun (leftTable, leftColumn, rightTable, rightColumn, joinType) =>
        { leftTable, leftColumn, rightTable, rightColumn, joinType }

/-- Reading the stages of a join. -/
def joinsReader : Schema.Reader (List JoinSpec) :=
  Schema.members (Schema.member "joins" (Schema.list joinReader))

/-- A filter tree that is set, and whether case counts. -/
structure FilterPayload where
  tree : Json
  caseSensitive : Option Bool

/-- Reading an object as a document. -/
def objectReader : Schema.Reader Json
  | .object members => .ok (.object members)
  | _ => Checked.fail .notObject

/-- Reading a filter. -/
def FilterPayload.reader : Schema.Reader FilterPayload :=
  Schema.members fun document =>
    ((Schema.member "tree" objectReader document).both
      (Schema.memberOr "case_sensitive" none (Schema.optional Schema.truth) document)).map
      fun (tree, caseSensitive) => { tree, caseSensitive }

/-- A condition that is added. -/
structure ConditionPayload where
  parent : Option String
  field : String
  operator : String
  value : Cell

/-- Reading a condition. -/
def ConditionPayload.reader : Schema.Reader ConditionPayload :=
  Schema.members fun document =>
    ((optionalText "parent_id" document).both
      ((Schema.memberOr "field" "" Schema.text document).both
        ((Schema.memberOr "operator" "is" Schema.text document).both
          (Schema.memberOr "value" (.text "") Schema.cell document)))).map
      fun (parent, field, operator, value) => { parent, field, operator, value }

/-- Reading the logic of a group. -/
def logicReader : Schema.Reader Logic :=
  Schema.choice fun name => Logic.ofCell? (.text name)

/-- A group that is added. -/
structure GroupPayload where
  parent : Option String
  logic : Logic

/-- Reading a group. -/
def GroupPayload.reader : Schema.Reader GroupPayload :=
  Schema.members fun document =>
    ((optionalText "parent_id" document).both
      (Schema.memberOr "logic" .all logicReader document)).map
      fun (parent, logic) => { parent, logic }

/-- The name of a logic as a cell; nothing when there is none. -/
def logicCell (logic : Option Logic) : Cell :=
  (logic.map fun logic => Cell.text logic.name).getD .null

/-- Reading the changes of a node. -/
def changesReader : Schema.Reader FilterNode.Changes :=
  Schema.members fun document =>
    ((Schema.memberIfGiven "field" (Schema.optional Schema.text) document).both
      ((Schema.memberIfGiven "operator" (Schema.optional Schema.text) document).both
        ((Schema.memberIfGiven "value" Schema.cell document).both
          (Schema.memberIfGiven "logic" (Schema.optional logicReader) document)))).map
      fun (field, operator, value, logic) =>
        { field, operator, value, logic := logic.map logicCell }

/-- Reading whether case counts. -/
def caseReader : Schema.Reader Bool :=
  Schema.members (Schema.member "case_sensitive" Schema.truth)

/-- What a pivot is made by. -/
structure PivotPayload where
  rowField : String
  columnField : Option String
  valueField : Option String
  aggregation : String

/-- Reading what a pivot is made by. -/
def PivotPayload.reader : Schema.Reader PivotPayload :=
  Schema.members fun document =>
    ((Schema.member "row_field" Schema.text document).both
      ((optionalText "column_field" document).both
        ((optionalText "value_field" document).both
          (Schema.memberOr "agg_func" "sum" Schema.text document)))).map
      fun (rowField, columnField, valueField, aggregation) =>
        { rowField, columnField, valueField, aggregation }

/-- The pivot configuration of a payload. -/
def PivotPayload.config (payload : PivotPayload) : Outcome PivotConfig := do
  return {
    rowField := some payload.rowField
    columnField := payload.columnField
    valueField := payload.valueField
    aggregation := ← Aggregation.ofCell (.text payload.aggregation) }

/-- A cleaning step. -/
structure CleaningPayload where
  column : String
  operation : String
  table : Option String

/-- Reading a cleaning step. -/
def CleaningPayload.reader : Schema.Reader CleaningPayload :=
  Schema.members fun document =>
    ((Schema.member "column" Schema.text document).both
      ((Schema.member "operation" Schema.text document).both
        (optionalText "table" document))).map
      fun (column, operation, table) => { column, operation, table }

/-- A filling step. -/
structure FillPayload where
  column : String
  value : Cell
  table : Option String

/-- Reading a filling step. -/
def FillPayload.reader : Schema.Reader FillPayload :=
  Schema.members fun document =>
    ((Schema.member "column" Schema.text document).both
      ((Schema.member "fill_value" Schema.cell document).both
        (optionalText "table" document))).map
      fun (column, value, table) => { column, value, table }

/-- Reading which table a step is about. -/
def tableReader : Schema.Reader (Option String) :=
  Schema.members (optionalText "table")

/-- Reading how values are hidden. -/
def methodReader : Schema.Reader AnonymizationMethod :=
  Schema.choice fun name => AnonymizationMethod.all.find? fun method => method.name == name

/-- Which columns are hidden, and how many rows are shown. -/
structure AnonymizationPayload where
  methods : Option (Assoc AnonymizationMethod)
  limit : Option Int

/-- Reading which columns are hidden. -/
def AnonymizationPayload.reader : Schema.Reader AnonymizationPayload :=
  Schema.members fun document =>
    ((Schema.memberOr "methods" none (Schema.optional (Schema.object methodReader)) document).both
      (Schema.memberOr "limit" none (Schema.optional Schema.whole) document)).map
      fun (methods, limit) => { methods, limit }

/-! ## Queries -/

/-- Which rows of a view are shown, and in which order. -/
structure ViewQuery where
  offset : Int
  limit : Option Int
  search : Option String
  caseSensitive : Bool
  sortBy : Option String
  direction : String

/-- Reading the direction of a sort. -/
def directionReader : Schema.Reader String :=
  Schema.choice fun name => if name = "asc" ∨ name = "desc" then some name else none

/-- Reading which rows are shown. -/
def ViewQuery.read (request : Request) : Checked ViewQuery :=
  ((request.queryOr "offset" 0 Schema.whole).both
    ((request.queryOr "limit" none (Schema.optional Schema.whole)).both
      ((request.queryOr "search" none (Schema.optional Schema.text)).both
        ((request.queryOr "search_case_sensitive" false Schema.truth).both
          ((request.queryOr "sort_by" none (Schema.optional Schema.text)).both
            (request.queryOr "direction" "asc" directionReader)))))).map
    fun (offset, limit, search, caseSensitive, sortBy, direction) =>
      { offset, limit, search, caseSensitive, sortBy, direction }

/-- Reading how many values are shown. -/
def limitQuery (request : Request) : Checked (Option Int) :=
  request.queryOr "limit" none (Schema.optional Schema.whole)

end Tabular.Service
